/-!
# Text for a plain terminal

What is left of a text when it is written without colours: its visible characters, its blanks and
its line ends. Escape sequences are left out, complete or not, and so are all other control
characters.

A sequence starts with the escape character and runs as ECMA-48 lays it out. A sequence that is a
string goes on up to its terminator, so one that is never ended takes the rest of the text with
it. A cancelling character ends any sequence.

A blank that is no plain space does not count as a part of a sequence, unless it stands in a
string. It interrupts the sequence: it is shown, and so is what follows, up to the next character
that is not shown in a text. There the sequence goes on, unless a character beyond ASCII has been
shown, which ends it.
-/

namespace EightBit.Terminal

/-- What the next character is part of. -/
inductive State where
  /-- The text itself. -/
  | text
  /-- A sequence of which only the escape character has been read. -/
  | escape
  /-- A sequence with intermediate characters. -/
  | intermediate
  /-- A control sequence, up to its final character. -/
  | control
  /-- A device control string, right after its start. -/
  | deviceStart
  /-- The parameters of a device control string. -/
  | deviceParameters
  /-- The intermediate characters of a device control string. -/
  | deviceIntermediate
  /-- A string that the string terminator ends. -/
  | string
  /-- A system command, a string that the bell ends too. -/
  | command
deriving DecidableEq, Repr

/-- The control characters that move on in a text. -/
def isBlankControl (c : Char) : Bool :=
  c ∈ ['\t', '\n', '\x0c', '\r']

/-- Whether a code point lies between two others or is one of them. -/
def isBetween (low high : Nat) (c : Char) : Bool :=
  low ≤ c.toNat && c.toNat ≤ high

/-- Whether the bytes of a character hold the string terminator of eight bits. -/
def holdsTerminator (c : Char) : Bool :=
  (String.utf8EncodeChar c).contains 0x9c

/-- Whether a character is shown. -/
def State.shows (s : State) (c : Char) : Bool :=
  match s with
  | .text => isBlankControl c || (0x20 ≤ c.toNat && c.toNat ≠ 0x7f)
  | .escape | .intermediate | .control => isBlankControl c
  | _ => false

/-- The state after a character that is not shown. -/
def State.next (s : State) (c : Char) : State :=
  if c = '\x18' ∨ c = '\x1a' then .text
  else if c = '\x1b' then .escape
  else
    match s with
    | .text => .text
    | .escape =>
      if c = '[' then .control
      else if c = ']' then .command
      else if c = 'P' then .deviceStart
      else if c = 'X' ∨ c = '^' ∨ c = '_' then .string
      else if isBetween 0x20 0x2f c then .intermediate
      else if isBetween 0x30 0x7e c then .text
      else .escape
    | .intermediate => if isBetween 0x30 0x7e c then .text else .intermediate
    | .control => if isBetween 0x40 0x7e c then .text else .control
    | .deviceStart =>
      if isBetween 0x20 0x2f c then .deviceIntermediate
      else if c = ':' ∨ isBetween 0x40 0x7e c then .string
      else if isBetween 0x30 0x3f c then .deviceParameters
      else .deviceStart
    | .deviceParameters =>
      if isBetween 0x20 0x2f c then .deviceIntermediate
      else if isBetween 0x30 0x39 c ∨ c = ';' then .deviceParameters
      else if isBetween 0x3a 0x7e c then .string
      else .deviceParameters
    | .deviceIntermediate => if isBetween 0x30 0x7e c then .string else .deviceIntermediate
    | .string => if holdsTerminator c then .text else .string
    | .command => if c = '\x07' then .text else .command

/-- The state after a character that is shown. A sequence that it interrupts is kept, but for
characters beyond ASCII. -/
def State.afterShown (s : State) (c : Char) : State :=
  if c.toNat < 0x80 then s else .text

/-- The characters that are shown of a text that goes on from a state, whose sequence may be
interrupted. -/
def visibleFrom (s : State) (interrupted : Bool) : List Char → List Char
  | [] => []
  | c :: rest =>
    if (if interrupted then State.text else s).shows c then
      c :: visibleFrom (s.afterShown c) true rest
    else visibleFrom (s.next c) false rest

/-- The characters that are shown of a text. -/
def visible (text : List Char) : List Char :=
  visibleFrom .text false text

end EightBit.Terminal
