/-!
# Pieces between separators

Cutting a text at every occurrence of a separator. There is always one piece more than there are
separators, and pieces may be empty.
-/

namespace EightBit.Pieces

/-- The pieces of a text before, between and after the separators. -/
def split (separator : Char) : List Char → List (List Char)
  | [] => [[]]
  | c :: rest =>
    if c = separator then [] :: split separator rest
    else
      match split separator rest with
      | [] => [[c]]
      | piece :: more => (c :: piece) :: more

theorem length_split (separator : Char) (text : List Char) :
    (split separator text).length = text.count separator + 1 := by
  induction text with
  | nil => rfl
  | cons c rest ih =>
    rw [split]
    split
    · rename_i h
      rw [List.length_cons, ih, h, List.count_cons_self]
    · rename_i h
      rw [List.count_cons_of_ne h]
      split
      · rename_i hnil
        rw [hnil] at ih
        simp at ih
      · rename_i hcons
        rw [hcons] at ih
        simpa using ih

variable {separator : Char}

theorem split_append_separator (first second : List Char) :
    split separator (first ++ separator :: second) =
      split separator first ++ split separator second := by
  induction first with
  | nil => simp [split]
  | cons c first ih =>
    rw [List.cons_append, split, split, ih]
    by_cases hc : c = separator
    · rw [if_pos hc, if_pos hc]
      rfl
    · rw [if_neg hc, if_neg hc]
      -- the first piece is the one that `c` stands in
      have hpos : 0 < (split separator first).length := by
        rw [length_split]
        omega
      cases hpieces : split separator first with
      | nil => simp [hpieces] at hpos
      | cons piece more => rfl

theorem split_of_not_mem {piece : List Char} (h : separator ∉ piece) :
    split separator piece = [piece] := by
  induction piece with
  | nil => rfl
  | cons c piece ih =>
    have hc : c ≠ separator := fun hc => h (hc ▸ List.mem_cons_self)
    have hpiece : separator ∉ piece := fun hmem => h (List.mem_cons_of_mem c hmem)
    rw [split, if_neg hc, ih hpiece]

/-- The first piece goes up to the first separator. -/
theorem split_of_first {piece : List Char} (h : separator ∉ piece) (rest : List Char) :
    split separator (piece ++ separator :: rest) = piece :: split separator rest := by
  rw [split_append_separator, split_of_not_mem h]
  rfl

/-- What was put together with separators is cut at these. -/
theorem split_append_flatMap {first : List Char} {rest : List (List Char)}
    (hfirst : separator ∉ first) (hrest : ∀ piece ∈ rest, separator ∉ piece) :
    split separator (first ++ rest.flatMap (separator :: ·)) = first :: rest := by
  induction rest generalizing first with
  | nil => simp [split_of_not_mem hfirst]
  | cons piece rest ih =>
    have hpiece : separator ∉ piece := hrest piece (by simp)
    have hmore : ∀ piece ∈ rest, separator ∉ piece := fun piece hmem => hrest piece (by simp [hmem])
    rw [List.flatMap_cons, List.cons_append, split_of_first hfirst, ih hpiece hmore]

end EightBit.Pieces
