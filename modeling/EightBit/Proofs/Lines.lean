import EightBit.Text.Lines

/-!
# What the lines of a text are

`Splits` says what the lines of a text are without saying how they are found. Every text has lines
in this sense, and no others than those that `split` gives (`splits_iff`).
-/

namespace EightBit.Lines

/-- Some lines are those of a text: each ends at the first line feed, before which one carriage
return belongs to the end of the line, and what follows the last line feed is a line too, unless it
is empty. -/
inductive Splits : List Char → List (List Char) → Prop where
  | nil : Splits [] []
  | unterminated {line : List Char} (hne : line ≠ []) (hfeed : '\n' ∉ line) : Splits line [line]
  | feed {line rest : List Char} {lines : List (List Char)} (hfeed : '\n' ∉ line)
      (hreturn : line.getLast? ≠ some '\r') (hrest : Splits rest lines) :
      Splits (line ++ '\n' :: rest) (line :: lines)
  | returnFeed {line rest : List Char} {lines : List (List Char)} (hfeed : '\n' ∉ line)
      (hrest : Splits rest lines) : Splits (line ++ '\r' :: '\n' :: rest) (line :: lines)

theorem Splits.not_mem_of_mem {text line : List Char} {lines : List (List Char)}
    (h : Splits text lines) (hline : line ∈ lines) : '\n' ∉ line := by
  induction h with
  | nil => cases hline
  | unterminated _ hfeed =>
    rw [List.mem_singleton.mp hline]
    exact hfeed
  | feed hfeed _ _ ih | returnFeed hfeed _ ih =>
    rcases List.mem_cons.mp hline with rfl | hrest
    · exact hfeed
    · exact ih hrest

/-! ## Splitting finds the lines -/

/-- What has no line feed belongs to the line that is being read. -/
theorem splitFrom_append {piece : List Char} (h : '\n' ∉ piece) (line rest : List Char) :
    splitFrom line (piece ++ rest) = splitFrom (piece.reverse ++ line) rest := by
  induction piece generalizing line with
  | nil => rfl
  | cons c piece ih =>
    rw [List.mem_cons, not_or] at h
    rw [List.cons_append, splitFrom, ih h.2, List.reverse_cons, List.append_assoc]
    · rfl
    · exact Ne.symm h.1

theorem split_of_feed {line : List Char} (h : '\n' ∉ line) (rest : List Char) :
    split (line ++ '\n' :: rest) = dropReturn line :: split rest := by
  rw [split, splitFrom_append h, List.append_nil, splitFrom, List.reverse_reverse]
  rfl

theorem split_of_not_mem {line : List Char} (hne : line ≠ []) (h : '\n' ∉ line) :
    split line = [line] := by
  have hsplit := splitFrom_append h [] []
  have hreverse : line.reverse.isEmpty = false := by
    rw [List.isEmpty_reverse]
    exact List.isEmpty_eq_false_iff.mpr hne
  rw [List.append_nil, List.append_nil, splitFrom, hreverse, List.reverse_reverse] at hsplit
  exact hsplit

theorem dropReturn_of_ne {line : List Char} (h : line.getLast? ≠ some '\r') :
    dropReturn line = line :=
  if_neg h

theorem dropReturn_append (line : List Char) : dropReturn (line ++ ['\r']) = line := by
  rw [dropReturn, if_pos List.getLast?_concat, List.dropLast_concat]

theorem Splits.eq_split {text : List Char} {lines : List (List Char)} (h : Splits text lines) :
    lines = split text := by
  induction h with
  | nil => rfl
  | unterminated hne hfeed => rw [split_of_not_mem hne hfeed]
  | feed hfeed hreturn _ ih => rw [split_of_feed hfeed, dropReturn_of_ne hreturn, ih]
  | @returnFeed line rest lines hfeed _ ih =>
    have hfeed' : '\n' ∉ line ++ ['\r'] := by
      rw [List.mem_append, not_or]
      exact ⟨hfeed, by decide⟩
    have hsplit := split_of_feed hfeed' rest
    rw [dropReturn_append, List.append_assoc, ← ih] at hsplit
    exact hsplit.symm

/-- Every text has lines. -/
theorem exists_splits (text : List Char) : ∃ lines, Splits text lines := by
  -- induction on the length, since what follows a line feed is any shorter text
  induction hn : text.length using Nat.strongRecOn generalizing text with
  | ind n ih =>
    by_cases hmem : '\n' ∈ text
    · obtain ⟨line, rest, rfl, hfeed⟩ := List.eq_append_cons_of_mem hmem
      have hlt : rest.length < n := by
        rw [← hn, List.length_append, List.length_cons]
        omega
      obtain ⟨lines, hrest⟩ := ih rest.length hlt rest rfl
      by_cases hreturn : line.getLast? = some '\r'
      · obtain ⟨init, rfl⟩ := List.getLast?_eq_some_iff.mp hreturn
        rw [List.mem_append, not_or] at hfeed
        rw [List.append_assoc]
        exact ⟨init :: lines, .returnFeed hfeed.1 hrest⟩
      · exact ⟨line :: lines, .feed hfeed hreturn hrest⟩
    · by_cases hne : text = []
      · rw [hne]
        exact ⟨[], .nil⟩
      · exact ⟨[text], .unterminated hne hmem⟩

theorem splits_iff {text : List Char} {lines : List (List Char)} :
    Splits text lines ↔ lines = split text := by
  refine ⟨Splits.eq_split, ?_⟩
  rintro rfl
  obtain ⟨lines, h⟩ := exists_splits text
  rw [← h.eq_split]
  exact h

end EightBit.Lines
