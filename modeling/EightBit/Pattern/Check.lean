import EightBit.Pattern.Reader

/-!
# Usable patterns

Not all patterns that can be read can be used. Patterns are compared with texts byte by byte, and
what is compared has to be text again. So the flag `u`, set from the start, must not be unset
where a pattern could then match bytes that are no text. And as there are no tables of Unicode at
hand, nothing that needs one may stand where the flag is set: no shorthand, no category, no
character whose case is to be ignored, and no end of a word.
-/

namespace EightBit.Pattern

/-- Why a pattern cannot be used. -/
inductive Error where
  /-- It cannot be read, is nested too deep or lacks a table. -/
  | unusable
  /-- It asks for the ends of words with letters beyond ASCII. -/
  | wordBoundary
deriving DecidableEq, Repr

/-- What is wrong with a pattern, in words. -/
def Error.message : Error → String
  | .unusable => "error building NFA"
  | .wordBoundary =>
    "unsupported regex feature for DFAs: cannot build DFAs for regexes with Unicode word " ++
      "boundaries; switch to ASCII word boundaries, or heuristically enable Unicode word " ++
      "boundaries or use a different regex engine"

/-- The flags that bear on whether a pattern can be used. -/
structure Flags where
  ignoreCase : Bool := false
  unicode : Bool := true
deriving DecidableEq, Repr

namespace Flags

/-- The flags after a change. -/
def apply (f : Flags) (change : FlagChange) : Flags where
  ignoreCase := change.apply 'i' f.ignoreCase
  unicode := change.apply 'u' f.unicode

/-- Whether a character of its own can be used. Without the flag `u` two digits mean a byte, which
has to be one of ASCII. -/
def allowsLiteral (f : Flags) (l : Literal) : Bool :=
  if f.unicode then !f.ignoreCase else !l.isByte || l.char.toNat < 0x80

/-- Whether a character can be used in a set, which is one of bytes without the flag `u`. -/
def allowsMember (f : Flags) (l : Literal) : Bool :=
  if f.unicode then !f.ignoreCase else l.char.toNat < 0x80

/-- Whether a shorthand can be used. -/
def allowsShorthand (f : Flags) (negated : Bool) : Bool :=
  !f.unicode && !negated

end Flags

mutual

/-- Whether a set can be used. -/
def CharSet.isUsable (f : Flags) : CharSet → Bool
  | .empty => true
  | .literal l => f.allowsMember l
  | .range low high => f.allowsMember low && f.allowsMember high
  | .named negated => if f.unicode then !f.ignoreCase else !negated
  | .shorthand negated => f.allowsShorthand negated
  | .category => false
  | .bracketed negated content => (f.unicode || !negated) && content.isUsable f
  | .union items => CharSet.areUsable f items
  | .combination left right => left.isUsable f && right.isUsable f

/-- Whether all of some sets can be used. -/
def CharSet.areUsable (f : Flags) : List CharSet → Bool
  | [] => true
  | s :: rest => s.isUsable f && CharSet.areUsable f rest

end

mutual

/-- The flags behind a pattern that can be used, and whether it asks for the ends of words with
the flag `u` set. -/
def Node.after? (f : Flags) : Node → Option (Flags × Bool)
  | .empty | .anchor => some (f, false)
  | .literal l => if f.allowsLiteral l then some (f, false) else none
  | .dot => if f.unicode then some (f, false) else none
  | .wordBoundary => some (f, f.unicode)
  | .shorthand negated => if f.allowsShorthand negated then some (f, false) else none
  | .category => none
  | .flags change => some (f.apply change, false)
  | .set negated content =>
    if (f.unicode || !negated) && content.isUsable f then some (f, false) else none
  | .repetition content => content.after? f
  | .group change content => (content.after? (f.apply change)).map fun result => (f, result.2)
  | .sequence items => Node.afterAll? f items
  | .alternation branches => Node.afterAll? f branches

/-- The same of some patterns that follow each other. -/
def Node.afterAll? (f : Flags) : List Node → Option (Flags × Bool)
  | [] => some (f, false)
  | n :: rest => do
    let (f, atWord) ← n.after? f
    let (f, atLaterWord) ← Node.afterAll? f rest
    return (f, atWord || atLaterWord)

end

/-- How deep a pattern may be nested. -/
def heightLimit : Nat := 250

/-- What is wrong with a pattern. -/
def error? (text : List Char) : Option Error :=
  match read? text with
  | none => some .unusable
  | some node =>
    if heightLimit < node.height then some .unusable
    else
      match node.after? {} with
      | none => some .unusable
      | some (_, true) => some .wordBoundary
      | some (_, false) => none

end EightBit.Pattern
