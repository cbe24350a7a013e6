import EightBit.Pattern.Symbol

/-!
# Reading sets of characters

A set stands in brackets and may hold further sets. Between its parts may stand operators: `&&`
for what two sets share, `--` for what only the first has, `~~` for what only one of them has.
-/

namespace EightBit.Pattern

/-- A set that has been opened and not closed yet. -/
structure OpenSet where
  negated : Bool
  /-- The set before the last operator. -/
  left : Option CharSet := none
  /-- The parts since the last operator, the last one first. -/
  items : List CharSet := []

/-- Adds a part. -/
def OpenSet.push (s : OpenSet) (item : CharSet) : OpenSet :=
  { s with items := item :: s.items }

/-- What has been read of a set. -/
def OpenSet.content (s : OpenSet) : CharSet :=
  let right := CharSet.ofItems s.items.reverse
  match s.left with
  | some left => .combination left right
  | none => right

/-- Goes on behind an operator. -/
def OpenSet.afterOperator (s : OpenSet) : OpenSet :=
  { s with left := some s.content, items := [] }

/-- The names of classes of ASCII. -/
def classNames : List String :=
  ["alnum", "alpha", "ascii", "blank", "cntrl", "digit", "graph", "lower", "print", "punct",
   "space", "upper", "word", "xdigit"]

/-- Reads the name of a class and what closes it. -/
def readClassName? (text : List Char) : Option (List Char) :=
  match text.dropWhile (· ≠ ':') with
  | ':' :: ']' :: rest =>
    if String.ofList (text.takeWhile (· ≠ ':')) ∈ classNames then some rest else none
  | _ => none

/-- Reads a class by its name between colons, behind its opening bracket. -/
def readNamed? : List Char → Option (CharSet × List Char)
  | ':' :: '^' :: text => (readClassName? text).map (.named true, ·)
  | ':' :: text => (readClassName? text).map (.named false, ·)
  | _ => none

/-- Reads a caret at the start of a set, which has the set negated. -/
def readCaret (blanksIgnored : Bool) : List Char → Bool × List Char
  | '^' :: rest => (true, skip blanksIgnored rest)
  | text => (false, text)

/-- Reads the hyphens at the start of a set, which stand for themselves. -/
def readHyphens (blanksIgnored : Bool) (s : OpenSet) : List Char → OpenSet × List Char
  | '-' :: rest =>
    readHyphens blanksIgnored (s.push (.literal ⟨'-', false⟩)) (skip blanksIgnored rest)
  | text => (s, text)
termination_by text => text.length
decreasing_by exact Nat.lt_succ_of_le (length_skip_le blanksIgnored rest)

/-- Reads the start of a set, behind its opening bracket. A closing bracket there stands for itself,
unless hyphens are in front of it. -/
def readOpening (blanksIgnored : Bool) (text : List Char) : OpenSet × List Char :=
  let (negated, text) := readCaret blanksIgnored (skip blanksIgnored text)
  let (s, text) := readHyphens blanksIgnored { negated } text
  match s.items, text with
  | [], ']' :: rest => (s.push (.literal ⟨']', false⟩), skip blanksIgnored rest)
  | _, text => (s, text)

/-- The range between two symbols, which have to be characters in order. -/
def CharSet.ofEnds? : Symbol → Symbol → Option CharSet
  | .literal low, .literal high => if low.char ≤ high.char then some (.range low high) else none
  | _, _ => none

/-- Reads a character of a set, or a range of them. A hyphen in front of another or of the end of
the set makes no range. -/
def readRange? (blanksIgnored : Bool) (text : List Char) : Option (CharSet × List Char) := do
  let (first, rest) ← readMember? blanksIgnored text
  match skip blanksIgnored rest with
  | [] => none
  | '-' :: rest =>
    if peek? blanksIgnored rest ∈ [some ']', some '-'] then
      return (← first.toCharSet?, '-' :: rest)
    else
      let (last, rest) ← readMember? blanksIgnored (skip blanksIgnored rest)
      return (← CharSet.ofEnds? first last, rest)
  | rest => return (← first.toCharSet?, rest)

/-- How far a set has been read. -/
structure SetReading where
  current : OpenSet
  /-- The sets around the current one, the innermost first. -/
  outer : List OpenSet := []
  text : List Char

/-- Goes on by one part, operator or bracket. The set itself is given once it is closed. -/
def SetReading.next? (blanksIgnored : Bool) (r : SetReading) :
    Option (SetReading ⊕ (Node × List Char)) :=
  match skip blanksIgnored r.text with
  | [] => none
  | '[' :: rest =>
    match readNamed? rest with
    | some (item, rest) => some (.inl { r with current := r.current.push item, text := rest })
    | none =>
      let (s, rest) := readOpening blanksIgnored rest
      some (.inl { current := s, outer := r.current :: r.outer, text := rest })
  | ']' :: rest =>
    match r.outer with
    | [] => some (.inr (.set r.current.negated r.current.content, rest))
    | s :: outer =>
      let item := .bracketed r.current.negated r.current.content
      some (.inl { current := s.push item, outer, text := rest })
  | '&' :: '&' :: rest | '-' :: '-' :: rest | '~' :: '~' :: rest =>
    some (.inl { r with current := r.current.afterOperator, text := rest })
  | text => do
    let (item, rest) ← readRange? blanksIgnored text
    return .inl { r with current := r.current.push item, text := rest }

/-- The name of a class leaves no more than there was. -/
theorem length_readClassName? {text rest : List Char} (h : readClassName? text = some rest) :
    rest.length ≤ text.length := by
  have hsuffix := (text.dropWhile_suffix (· ≠ ':')).length_le
  rw [readClassName?] at h
  split at h
  · next after hafter =>
    rw [hafter, List.length_cons, List.length_cons] at hsuffix
    split at h
    · cases h
      omega
    · cases h
  · cases h

/-- A class of ASCII leaves no more than there was. -/
theorem length_readNamed? {set : CharSet} {text rest : List Char}
    (h : readNamed? text = some (set, rest)) : rest.length ≤ text.length := by
  rw [readNamed?.eq_def] at h
  split at h
  · obtain ⟨_, hname, hrest⟩ := Option.map_eq_some_iff.1 h
    cases hrest
    exact Nat.le_succ_of_le (Nat.le_succ_of_le (length_readClassName? hname))
  · obtain ⟨_, hname, hrest⟩ := Option.map_eq_some_iff.1 h
    cases hrest
    exact Nat.le_succ_of_le (length_readClassName? hname)
  · cases h

/-- A caret leaves no more than there was. -/
theorem length_readCaret (blanksIgnored : Bool) (text : List Char) :
    (readCaret blanksIgnored text).2.length ≤ text.length := by
  rw [readCaret.eq_def]
  split
  · exact Nat.le_succ_of_le (length_skip_le blanksIgnored _)
  · exact Nat.le_refl _

/-- The hyphens leave no more than there was. -/
theorem length_readHyphens (blanksIgnored : Bool) (s : OpenSet) (text : List Char) :
    (readHyphens blanksIgnored s text).2.length ≤ text.length := by
  fun_induction readHyphens blanksIgnored s text with
  | case1 s rest ih =>
    have hskip := length_skip_le blanksIgnored rest
    rw [List.length_cons]
    omega
  | case2 => exact Nat.le_refl _

/-- The start of a set leaves no more than there was. -/
theorem length_readOpening (blanksIgnored : Bool) (text : List Char) :
    (readOpening blanksIgnored text).2.length ≤ text.length := by
  have hcaret := Nat.le_trans (length_readCaret blanksIgnored _) (length_skip_le blanksIgnored text)
  rw [readOpening]
  split
  next negated start hstart =>
  rw [hstart] at hcaret
  have hhyphens := Nat.le_trans (length_readHyphens blanksIgnored { negated } start) hcaret
  split
  next s left hleft =>
  rw [hleft] at hhyphens
  split
  · next rest _ =>
    exact Nat.le_trans (length_skip_le blanksIgnored rest) (Nat.le_of_succ_le hhyphens)
  · exact hhyphens

/-- A character or a range takes up some of the text. -/
theorem length_readRange? {blanksIgnored : Bool} {set : CharSet} {text rest : List Char}
    (h : readRange? blanksIgnored text = some (set, rest)) : rest.length < text.length := by
  simp only [readRange?, Option.bind_eq_bind, Option.bind_eq_some_iff] at h
  obtain ⟨⟨first, left⟩, hfirst, h⟩ := h
  have hleft := length_readMember? hfirst
  have hskip := length_skip_le blanksIgnored left
  split at h
  · cases h
  · next behind hbehind =>
    rw [hbehind, List.length_cons] at hskip
    split at h
    · obtain ⟨_, _, hrest⟩ := Option.bind_eq_some_iff.1 h
      cases hrest
      rw [List.length_cons]
      omega
    · obtain ⟨⟨last, after⟩, hlast, h⟩ := Option.bind_eq_some_iff.1 h
      obtain ⟨_, _, hrest⟩ := Option.bind_eq_some_iff.1 h
      cases hrest
      have hafter := Nat.lt_of_lt_of_le (length_readMember? hlast) (length_skip_le _ _)
      exact Nat.lt_trans (Nat.lt_trans hafter hskip) hleft
  · obtain ⟨_, _, hrest⟩ := Option.bind_eq_some_iff.1 h
    cases hrest
    exact Nat.lt_of_le_of_lt hskip hleft

/-- Each step inside a set takes up some of the text, and so does the end of the set. -/
theorem SetReading.length_next? {blanksIgnored : Bool} {r : SetReading}
    {result : SetReading ⊕ (Node × List Char)} (h : r.next? blanksIgnored = some result) :
    (result.elim text (·.2)).length < r.text.length := by
  have hskip := length_skip_le blanksIgnored r.text
  rw [SetReading.next?] at h
  split at h
  · cases h
  · next rest hrest =>
    rw [hrest, List.length_cons] at hskip
    split at h
    · next after hnamed =>
      have hafter := length_readNamed? hnamed
      cases h
      exact Nat.lt_of_le_of_lt hafter hskip
    · cases h
      exact Nat.lt_of_le_of_lt (length_readOpening blanksIgnored rest) hskip
  · next rest hrest =>
    rw [hrest, List.length_cons] at hskip
    split at h <;> cases h <;> exact hskip
  · next rest hrest =>
    rw [hrest, List.length_cons, List.length_cons] at hskip
    cases h
    exact Nat.lt_of_succ_lt hskip
  · next rest hrest =>
    rw [hrest, List.length_cons, List.length_cons] at hskip
    cases h
    exact Nat.lt_of_succ_lt hskip
  · next rest hrest =>
    rw [hrest, List.length_cons, List.length_cons] at hskip
    cases h
    exact Nat.lt_of_succ_lt hskip
  · obtain ⟨⟨item, after⟩, hitem, hresult⟩ := Option.bind_eq_some_iff.1 h
    cases hresult
    exact Nat.lt_of_lt_of_le (length_readRange? hitem) hskip

/-- Reads on to the end of the set. -/
def SetReading.finish? (blanksIgnored : Bool) (r : SetReading) : Option (Node × List Char) :=
  match _h : r.next? blanksIgnored with
  | none => none
  | some (.inr result) => some result
  | some (.inl next) => next.finish? blanksIgnored
termination_by r.text.length
decreasing_by exact length_next? _h

/-- A set read to its end leaves no more than there was. -/
theorem SetReading.length_finish? {blanksIgnored : Bool} {r : SetReading} {node : Node}
    {rest : List Char} (h : r.finish? blanksIgnored = some (node, rest)) :
    rest.length ≤ r.text.length := by
  fun_induction SetReading.finish? blanksIgnored r with
  | case1 => cases h
  | case2 r result hnext =>
    cases h
    exact Nat.le_of_lt (length_next? hnext)
  | case3 r next hnext ih => exact Nat.le_trans (ih h) (Nat.le_of_lt (length_next? hnext))

/-- Reads a set, behind its opening bracket. -/
def readSet? (blanksIgnored : Bool) (text : List Char) : Option (Node × List Char) :=
  let (current, text) := readOpening blanksIgnored text
  SetReading.finish? blanksIgnored { current, text }

/-- A set leaves no more than there was. -/
theorem length_readSet? {blanksIgnored : Bool} {node : Node} {text rest : List Char}
    (h : readSet? blanksIgnored text = some (node, rest)) : rest.length ≤ text.length :=
  Nat.le_trans (SetReading.length_finish? h) (length_readOpening blanksIgnored text)

end EightBit.Pattern
