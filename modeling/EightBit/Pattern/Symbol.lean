import EightBit.Pattern.Syntax
import EightBit.Text.Blank

/-!
# Single symbols of patterns

Characters that stand for themselves, and what a backslash and the characters after it mean. The
readers take the text from some place on and give what is left of it; `none` means that no symbol
is written there. What is left is never longer than the text, and shorter behind a symbol, which
is why reading comes to an end.

A pattern may have blanks and comments in it that do not count; each reader is told so. Braces
with a name or number in them are not read: a pattern stands between braces itself and cannot hold
a closing one.
-/

namespace EightBit.Pattern

/-! ## Blanks and comments -/

/-- A text without the blanks and comments at its start. A comment runs from a number sign to the
end of the line. -/
def skipFrom (inComment : Bool) : List Char → List Char
  | [] => []
  | c :: rest =>
    if inComment then skipFrom (c ≠ '\n') rest
    else if Blank.isBlank c then skipFrom false rest
    else if c = '#' then skipFrom true rest
    else c :: rest

/-- A text without what does not count at its start. -/
def skip (blanksIgnored : Bool) (text : List Char) : List Char :=
  if blanksIgnored then skipFrom false text else text

/-- The first character of a text that is neither blank nor the first number sign. -/
def firstSolid? (inComment : Bool) : List Char → Option Char
  | [] => none
  | c :: rest =>
    if Blank.isBlank c then firstSolid? inComment rest
    else if c = '#' ∧ !inComment then firstSolid? true rest
    else some c

/-- The next character of a text that may count, as it is looked up in front of a range. It is
found in a comment too. -/
def peek? (blanksIgnored : Bool) (text : List Char) : Option Char :=
  if blanksIgnored then (firstSolid? false text).or text.head? else text.head?

/-- Skipping does not lengthen a text, in a comment or outside. -/
theorem length_skipFrom_le (inComment : Bool) (text : List Char) :
    (skipFrom inComment text).length ≤ text.length := by
  induction text generalizing inComment with
  | nil => exact Nat.le_refl _
  | cons c rest ih =>
    have hrest (inComment : Bool) : (skipFrom inComment rest).length ≤ rest.length + 1 :=
      Nat.le_succ_of_le (ih inComment)
    rw [skipFrom]
    split
    · exact hrest _
    · split
      · exact hrest _
      · split
        · exact hrest _
        · exact Nat.le_refl _

/-- Skipping does not lengthen a text. -/
theorem length_skip_le (blanksIgnored : Bool) (text : List Char) :
    (skip blanksIgnored text).length ≤ text.length := by
  rw [skip]
  split
  · exact length_skipFrom_le false text
  · exact Nat.le_refl _

/-! ## Symbols -/

/-- What a symbol stands for. -/
inductive Symbol where
  | literal (l : Literal)
  | shorthand (negated : Bool)
  | category
  | anchor
  | wordBoundary
deriving DecidableEq, Repr

/-- A symbol as a pattern. -/
def Symbol.toNode : Symbol → Node
  | .literal l => .literal l
  | .shorthand negated => .shorthand negated
  | .category => .category
  | .anchor => .anchor
  | .wordBoundary => .wordBoundary

/-- A symbol as a part of a set. What holds at a place and not of a character is none. -/
def Symbol.toCharSet? : Symbol → Option CharSet
  | .literal l => some (.literal l)
  | .shorthand negated => some (.shorthand negated)
  | .category => some .category
  | .anchor | .wordBoundary => none

/-- The value of a hexadecimal digit. -/
def hexDigit? (c : Char) : Option Nat :=
  if c.isDigit then some (c.toNat - '0'.toNat)
  else if c.toLower ∈ ['a', 'b', 'c', 'd', 'e', 'f'] then some (c.toLower.toNat - 'a'.toNat + 10)
  else none

/-- Reads so many more hexadecimal digits behind a value. -/
def readHex? (blanksIgnored : Bool) (value : Nat) : Nat → List Char → Option (Nat × List Char)
  | 0, text => some (value, text)
  | _ + 1, [] => none
  | missing + 1, c :: rest => do
    readHex? blanksIgnored (16 * value + (← hexDigit? c)) missing (skip blanksIgnored rest)

/-- Reads a character by its code point of so many hexadecimal digits. -/
def readCodePoint? (blanksIgnored : Bool) (digits : Nat) (text : List Char) :
    Option (Symbol × List Char) := do
  let (code, rest) ← readHex? blanksIgnored 0 digits (skip blanksIgnored text)
  if code.isValidChar then
    return (.literal ⟨Char.ofNat code, digits = 2⟩, rest)
  else none

/-- What a single character stands for behind a backslash. Letters and digits that mean nothing
are refused, and so are characters beyond ASCII. -/
def escape? (c : Char) : Option Symbol :=
  if c ∈ ['d', 's', 'w'] then some (.shorthand false)
  else if c ∈ ['D', 'S', 'W'] then some (.shorthand true)
  else if c ∈ ['A', 'z'] then some .anchor
  else if c ∈ ['b', 'B', '<', '>'] then some .wordBoundary
  else
    match c with
    | 'a' => some (.literal ⟨'\x07', false⟩)
    | 'f' => some (.literal ⟨'\x0c', false⟩)
    | 't' => some (.literal ⟨'\t', false⟩)
    | 'n' => some (.literal ⟨'\n', false⟩)
    | 'r' => some (.literal ⟨'\r', false⟩)
    | 'v' => some (.literal ⟨'\x0b', false⟩)
    | _ => if c.toNat < 0x80 ∧ !c.isAlphanum then some (.literal ⟨c, false⟩) else none

/-- Reads what stands behind a backslash. -/
def readEscape? (blanksIgnored : Bool) : List Char → Option (Symbol × List Char)
  | [] => none
  | 'x' :: rest => readCodePoint? blanksIgnored 2 rest
  | 'u' :: rest => readCodePoint? blanksIgnored 4 rest
  | 'U' :: rest => readCodePoint? blanksIgnored 8 rest
  | c :: rest =>
    if c = 'p' ∨ c = 'P' then
      match skip blanksIgnored rest with
      | [] => none
      | letter :: rest =>
        if letter = '\\' ∨ letter = '\x7b' then none
        else some (.category, skip blanksIgnored rest)
    else (escape? c).map (·, rest)

/-- Reads a symbol of a set, where all but the backslash stands for itself. -/
def readMember? (blanksIgnored : Bool) : List Char → Option (Symbol × List Char)
  | [] => none
  | '\\' :: rest => readEscape? blanksIgnored rest
  | c :: rest => some (.literal ⟨c, false⟩, rest)

/-! ## What is left -/

/-- Digits leave no more than there was. -/
theorem length_readHex? {blanksIgnored : Bool} {value digits code : Nat} {text rest : List Char}
    (h : readHex? blanksIgnored value digits text = some (code, rest)) :
    rest.length ≤ text.length := by
  induction digits generalizing value text with
  | zero =>
    cases h
    exact Nat.le_refl _
  | succ digits ih =>
    cases text with
    | nil => cases h
    | cons c text =>
      simp only [readHex?, Option.bind_eq_bind, Option.bind_eq_some_iff] at h
      obtain ⟨digit, _, hdigits⟩ := h
      have hrest := ih hdigits
      have hskip := length_skip_le blanksIgnored text
      rw [List.length_cons]
      omega

/-- A code point leaves no more than there was. -/
theorem length_readCodePoint? {blanksIgnored : Bool} {digits : Nat} {symbol : Symbol}
    {text rest : List Char} (h : readCodePoint? blanksIgnored digits text = some (symbol, rest)) :
    rest.length ≤ text.length := by
  simp only [readCodePoint?, Option.bind_eq_bind, Option.bind_eq_some_iff] at h
  obtain ⟨⟨code, left⟩, hdigits, h⟩ := h
  have hleft := length_readHex? hdigits
  have hskip := length_skip_le blanksIgnored text
  split at h
  · cases h
    exact Nat.le_trans hleft hskip
  · cases h

/-- What stands behind a backslash takes up some of the text. -/
theorem length_readEscape? {blanksIgnored : Bool} {symbol : Symbol} {text rest : List Char}
    (h : readEscape? blanksIgnored text = some (symbol, rest)) : rest.length < text.length := by
  rw [readEscape?.eq_def] at h
  split at h
  · cases h
  · exact Nat.lt_succ_of_le (length_readCodePoint? h)
  · exact Nat.lt_succ_of_le (length_readCodePoint? h)
  · exact Nat.lt_succ_of_le (length_readCodePoint? h)
  · next c left _ _ _ =>
    rw [List.length_cons]
    split at h
    · split at h
      · cases h
      · next letter behind hskip =>
        have hleft := length_skip_le blanksIgnored left
        have hbehind := length_skip_le blanksIgnored behind
        rw [hskip, List.length_cons] at hleft
        split at h
        · cases h
        · cases h
          omega
    · obtain ⟨_, _, hrest⟩ := Option.map_eq_some_iff.1 h
      cases hrest
      omega

/-- A symbol of a set takes up some of the text. -/
theorem length_readMember? {blanksIgnored : Bool} {symbol : Symbol} {text rest : List Char}
    (h : readMember? blanksIgnored text = some (symbol, rest)) : rest.length < text.length := by
  rw [readMember?.eq_def] at h
  split at h
  · cases h
  · exact Nat.lt_succ_of_lt (length_readEscape? h)
  · cases h
    exact Nat.lt_succ_self _

end EightBit.Pattern
