/-!
# The syntax of patterns

Patterns are regular expressions. As a tree, a pattern keeps what decides whether it can be used:
its literals, the flags that it changes, what its sets are made of, and how deep it is nested.
-/

namespace EightBit.Pattern

/-- A character that stands for itself. -/
structure Literal where
  char : Char
  /-- Written as two hexadecimal digits, which mean a byte where a pattern is about bytes. -/
  isByte : Bool := false
deriving DecidableEq, Repr

/-- The flags that are set and those that are taken back, each by its letter. -/
structure FlagChange where
  set : List Char := []
  unset : List Char := []
deriving DecidableEq, Repr

/-- The value of a flag after a change. -/
def FlagChange.apply (change : FlagChange) (flag : Char) (value : Bool) : Bool :=
  if flag ∈ change.set then true
  else if flag ∈ change.unset then false
  else value

/-- What stands between the brackets of a set of characters. -/
inductive CharSet where
  | empty
  | literal (l : Literal)
  | range (low high : Literal)
  /-- A class of ASCII by its name between colons. -/
  | named (negated : Bool)
  /-- The digits, the blanks or the characters of words. -/
  | shorthand (negated : Bool)
  /-- A general category of Unicode. -/
  | category
  | bracketed (negated : Bool) (content : CharSet)
  | union (items : List CharSet)
  /-- What an intersection or a difference makes of two sets. -/
  | combination (left right : CharSet)

/-- A pattern or a part of one. -/
inductive Node where
  | empty
  | literal (l : Literal)
  | dot
  /-- The start or the end of the text or of a line. -/
  | anchor
  /-- The start, the end or either end of a word, or none of them. -/
  | wordBoundary
  | shorthand (negated : Bool)
  | category
  | flags (change : FlagChange)
  | set (negated : Bool) (content : CharSet)
  | repetition (content : Node)
  | group (change : FlagChange) (content : Node)
  | sequence (items : List Node)
  | alternation (branches : List Node)

/-! ## Nesting -/

mutual

/-- How deep the parts of a set are nested. -/
def CharSet.height : CharSet → Nat
  | .bracketed _ content => content.height + 1
  | .union items => CharSet.maxHeight items + 1
  | .combination left right => max left.height right.height + 1
  | _ => 0

/-- The greatest height of some sets. -/
def CharSet.maxHeight : List CharSet → Nat
  | [] => 0
  | s :: rest => max s.height (CharSet.maxHeight rest)

end

mutual

/-- How deep the parts of a pattern are nested. -/
def Node.height : Node → Nat
  | .set _ content => content.height + 1
  | .repetition content => content.height + 1
  | .group _ content => content.height + 1
  | .sequence items => Node.maxHeight items + 1
  | .alternation branches => Node.maxHeight branches + 1
  | _ => 0

/-- The greatest height of some patterns. -/
def Node.maxHeight : List Node → Nat
  | [] => 0
  | n :: rest => max n.height (Node.maxHeight rest)

end

/-! ## Joining parts -/

/-- The union of some sets. -/
def CharSet.ofItems : List CharSet → CharSet
  | [] => .empty
  | [item] => item
  | items => .union items

/-- Some patterns one after the other. -/
def Node.ofItems : List Node → Node
  | [] => .empty
  | [item] => item
  | items => .sequence items

end EightBit.Pattern
