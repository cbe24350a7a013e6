import EightBit.Pattern.CharSet
import EightBit.Text.Alphanumeric

/-!
# Reading patterns

A pattern is a sequence of symbols, sets, groups and marks of repetition, with bars between
alternatives. Groups may be named, and a group or the rest of one may have flags changed. The flag
`x` bears on reading itself: it has blanks and comments ignored.
-/

namespace EightBit.Pattern

/-! ## Groups -/

/-- What stands at the start of a group. -/
inductive Opening where
  /-- Not a group at all but a change of flags for the rest of the group around it. -/
  | flags (change : FlagChange)
  | group (change : FlagChange)
  | named (name : List Char)
deriving DecidableEq, Repr

/-- Whether the letters between the question mark and its end are flags: each at most once, with
at most one hyphen, before the flags that are unset. -/
def areFlags (letters : List Char) : Bool :=
  let flags := letters.filter (· ≠ '-')
  flags.all (· ∈ ['i', 'm', 's', 'U', 'u', 'R', 'x']) && flags.Nodup &&
    letters.count '-' ≤ 1 && letters.getLast? ≠ some '-'

/-- The change of flags that letters stand for. -/
def flagChange (letters : List Char) : FlagChange where
  set := letters.takeWhile (· ≠ '-')
  unset := (letters.dropWhile (· ≠ '-')).drop 1

/-- Whether a text may be the name of a group. -/
def isGroupName (name : List Char) : Bool :=
  match name with
  | [] => false
  | first :: rest =>
    (first = '_' || Alphanumeric.isAlphabetic first) &&
      rest.all fun c => c ∈ ['_', '.', '[', ']'] || Alphanumeric.isAlphanumeric c

/-- Reads the name of a group up to its angle bracket. -/
def readName? (text : List Char) : Option (Opening × List Char) :=
  let name := text.takeWhile (· ≠ '>')
  match text.dropWhile (· ≠ '>') with
  | [] => none
  | _ :: rest => if isGroupName name then some (.named name, rest) else none

/-- Reads flags and what follows them: a colon before the content of a group, or the bracket that
closes a mere change of flags. -/
def readFlags? (text : List Char) : Option (Opening × List Char) :=
  let letters := text.takeWhile fun c => c ≠ ':' ∧ c ≠ ')'
  if areFlags letters then
    match text.dropWhile fun c => c ≠ ':' ∧ c ≠ ')' with
    | [] => none
    | ':' :: rest => some (.group (flagChange letters), rest)
    | _ :: rest => if letters.isEmpty then none else some (.flags (flagChange letters), rest)
  else none

/-- Reads the start of a group behind its bracket. -/
def readOpening? (text : List Char) : Option (Opening × List Char) :=
  match text with
  | '?' :: 'P' :: '<' :: rest | '?' :: '<' :: rest => readName? rest
  | '?' :: rest => readFlags? rest
  | _ => some (.group {}, text)

/-- A name leaves no more than there was. -/
theorem length_readName? {opening : Opening} {text rest : List Char}
    (h : readName? text = some (opening, rest)) : rest.length ≤ text.length := by
  have hsuffix := (text.dropWhile_suffix (· ≠ '>')).length_le
  rw [readName?] at h
  split at h
  · cases h
  · next hafter =>
    rw [hafter, List.length_cons] at hsuffix
    split at h
    · cases h
      exact Nat.le_of_succ_le hsuffix
    · cases h

/-- Flags leave no more than there was. -/
theorem length_readFlags? {opening : Opening} {text rest : List Char}
    (h : readFlags? text = some (opening, rest)) : rest.length ≤ text.length := by
  have hsuffix := (text.dropWhile_suffix fun c => c ≠ ':' ∧ c ≠ ')').length_le
  rw [readFlags?] at h
  split at h
  · split at h
    · cases h
    · next hafter =>
      rw [hafter, List.length_cons] at hsuffix
      cases h
      exact Nat.le_of_succ_le hsuffix
    · next hafter =>
      rw [hafter, List.length_cons] at hsuffix
      split at h
      · cases h
      · cases h
        exact Nat.le_of_succ_le hsuffix
  · cases h

/-- The start of a group leaves no more than there was. -/
theorem length_readOpening? {opening : Opening} {text rest : List Char}
    (h : readOpening? text = some (opening, rest)) : rest.length ≤ text.length := by
  rw [readOpening?.eq_def] at h
  split at h
  · have hname := length_readName? h
    simp only [List.length_cons]
    omega
  · have hname := length_readName? h
    simp only [List.length_cons]
    omega
  · exact Nat.le_succ_of_le (length_readFlags? h)
  · cases h
    exact Nat.le_refl _

/-! ## Sequences -/

/-- A group that has been opened and not closed yet, or the whole pattern. -/
structure OpenGroup where
  change : FlagChange := {}
  /-- The alternatives that are complete, the last one first. -/
  branches : List Node := []
  /-- The parts of the current alternative, the last one first. -/
  items : List Node := []
  blanksIgnored : Bool

/-- Adds a part. -/
def OpenGroup.push (g : OpenGroup) (item : Node) : OpenGroup :=
  { g with items := item :: g.items }

/-- Begins another alternative. -/
def OpenGroup.afterBar (g : OpenGroup) : OpenGroup :=
  { g with branches := Node.ofItems g.items.reverse :: g.branches, items := [] }

/-- What has been read of a group. -/
def OpenGroup.content (g : OpenGroup) : Node :=
  match g.branches with
  | [] => Node.ofItems g.items.reverse
  | branches => .alternation (branches.reverse ++ [Node.ofItems g.items.reverse])

/-- Has the last part repeated. A change of flags cannot be. -/
def OpenGroup.repeatLast? (g : OpenGroup) : Option OpenGroup :=
  match g.items with
  | [] | .flags _ :: _ => none
  | item :: items => some { g with items := .repetition item :: items }

/-- How far a pattern has been read. -/
structure Reading where
  current : OpenGroup
  /-- The groups around the current one, the innermost first. -/
  outer : List OpenGroup := []
  /-- The names of groups so far. -/
  names : List (List Char) := []
  text : List Char

namespace Reading

/-- Goes on behind a part of the current group. -/
def pushing (r : Reading) (item : Node) (rest : List Char) : Reading :=
  { r with current := r.current.push item, text := rest }

/-- Opens a group, behind its bracket. -/
def openGroup? (r : Reading) (rest : List Char) : Option Reading := do
  let blanksIgnored := r.current.blanksIgnored
  match ← readOpening? (skip blanksIgnored rest) with
  | (.flags change, rest) =>
    let current := { r.current.push (.flags change) with
      blanksIgnored := change.apply 'x' blanksIgnored }
    return { r with current, text := rest }
  | (.group change, rest) =>
    let current := { change, blanksIgnored := change.apply 'x' blanksIgnored }
    return { r with current, outer := r.current :: r.outer, text := rest }
  | (.named name, rest) =>
    if name ∈ r.names then none
    else
      return { current := { blanksIgnored }, outer := r.current :: r.outer,
               names := name :: r.names, text := rest }

/-- Closes the current group. -/
def closeGroup? (r : Reading) (rest : List Char) : Option Reading :=
  match r.outer with
  | [] => none
  | g :: outer =>
    some { r with
      current := g.push (.group r.current.change r.current.content), outer, text := rest }

/-- Goes on by one part or mark, of a text in which what does not count has been skipped. -/
def next? (r : Reading) (c : Char) (rest : List Char) : Option Reading :=
  match c with
  | '(' => r.openGroup? rest
  | ')' => r.closeGroup? rest
  | '|' => some { r with current := r.current.afterBar, text := rest }
  | '[' => do
    let (node, rest) ← readSet? r.current.blanksIgnored rest
    return r.pushing node rest
  | '?' | '*' | '+' => do
    let current ← r.current.repeatLast?
    return { r with current, text := if rest.head? = some '?' then rest.drop 1 else rest }
  | '\x7b' => none
  | '\\' => do
    let (symbol, rest) ← readEscape? r.current.blanksIgnored rest
    return r.pushing symbol.toNode rest
  | '.' => some (r.pushing .dot rest)
  | '^' | '$' => some (r.pushing .anchor rest)
  | _ => some (r.pushing (.literal ⟨c, false⟩) rest)

/-- Opening a group leaves no more than what followed its bracket. -/
theorem length_openGroup? {r next : Reading} {rest : List Char}
    (h : r.openGroup? rest = some next) : next.text.length ≤ rest.length := by
  simp only [openGroup?, Option.bind_eq_bind, Option.bind_eq_some_iff] at h
  obtain ⟨result, hopening, h⟩ := h
  have hleft := Nat.le_trans (length_readOpening? hopening) (length_skip_le _ rest)
  split at h
  · cases h
    exact hleft
  · cases h
    exact hleft
  · split at h
    · cases h
    · cases h
      exact hleft

/-- A part or mark leaves no more than what followed its first character. -/
theorem length_next? {r next : Reading} {c : Char} {rest : List Char}
    (h : r.next? c rest = some next) : next.text.length ≤ rest.length := by
  rw [next?.eq_def] at h
  split at h
  · exact length_openGroup? h
  · rw [closeGroup?] at h
    split at h <;> cases h
    exact Nat.le_refl _
  · cases h
    exact Nat.le_refl _
  · obtain ⟨⟨node, left⟩, hset, h⟩ := Option.bind_eq_some_iff.1 h
    cases h
    exact length_readSet? hset
  iterate 3
    · obtain ⟨_, _, h⟩ := Option.bind_eq_some_iff.1 h
      cases h
      show (if rest.head? = some '?' then rest.drop 1 else rest).length ≤ rest.length
      split
      · exact (List.drop_suffix 1 rest).length_le
      · exact Nat.le_refl _
  · cases h
  · obtain ⟨⟨symbol, left⟩, hsymbol, h⟩ := Option.bind_eq_some_iff.1 h
    cases h
    exact Nat.le_of_lt (length_readEscape? hsymbol)
  all_goals
    cases h
    exact Nat.le_refl _

/-- Reads on to the end of the pattern. -/
def finish? (r : Reading) : Option Node :=
  match _htext : skip r.current.blanksIgnored r.text with
  | [] => if r.outer.isEmpty then some r.current.content else none
  | c :: rest =>
    match _hnext : r.next? c rest with
    | none => none
    | some next => next.finish?
termination_by r.text.length
decreasing_by
  have hskip := length_skip_le r.current.blanksIgnored r.text
  rw [_htext, List.length_cons] at hskip
  exact Nat.lt_of_le_of_lt (length_next? _hnext) hskip

end Reading

/-- Reads a pattern. -/
def read? (text : List Char) : Option Node :=
  Reading.finish? { current := { blanksIgnored := false }, text }

end EightBit.Pattern
