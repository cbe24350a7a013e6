import EightBit.Log.Record
import EightBit.Pattern.Check
import EightBit.Text.Blank
import EightBit.Text.Numeral
import EightBit.Text.Utf8

/-!
# Directives about log records

A directive names a level up to which it lets records through, and says which records it is about:
those of some targets, those that have some field. It is written

    level    target    target=level    target[{field}]=level

where the target in front of a bracket and the level may be left out. Between the brackets may
also stand the name of a span, that is, of a stretch of work inside which records are made, and
the field may be given a value. Such directives are read, but as no record is made inside a span
they let nothing through.

Blanks around a directive do not count when its marks are looked for. Its words are then taken
from the whole of it, at the places that the marks have without the blanks, so that blanks in
front of a directive shift its words.
-/

namespace EightBit.Log

/-- Lets records through up to a level. -/
structure Directive where
  /-- What the targets of the records begin with. -/
  target : String
  /-- A field that the records have. -/
  field : Option String
  /-- `none` lets nothing through. -/
  limit : Option Level
deriving DecidableEq, Repr

/-- Why a text is no directive. -/
inductive DirectiveError where
  | malformed
  | badLevel
  | badPattern (e : Pattern.Error)
deriving DecidableEq, Repr

/-- What is wrong with a text that is no directive, in words. -/
def DirectiveError.message : DirectiveError → String
  | .malformed => "invalid filter directive"
  | .badLevel =>
    "error parsing level filter: expected one of \"off\", \"error\", \"warn\", \"info\", " ++
      "\"debug\", \"trace\", or a number 0-5"
  | .badPattern e => "invalid field filter: " ++ e.message

/-! ## Levels -/

/-- The limit with a number: 0 lets nothing through, 5 everything. -/
def limitOfNumber? : Nat → Option (Option Level)
  | 0 => some none
  | 1 => some (some .error)
  | 2 => some (some .warn)
  | 3 => some (some .info)
  | 4 => some (some .debug)
  | 5 => some (some .trace)
  | _ => none

/-- The limit that a word stands for, by the name of a level or by its number. Case does not
matter. -/
def limit? (word : List Char) : Option (Option Level) :=
  match Numeral.read 10 Numeral.maxWord word with
  | .ok n => limitOfNumber? n
  | .error _ =>
    match (String.ofList word).toLower with
    | "off" => some none
    | "error" => some (some .error)
    | "warn" => some (some .warn)
    | "info" => some (some .info)
    | "debug" => some (some .debug)
    | "trace" => some (some .trace)
    | _ => none

/-- The limit after an equals sign, everything if none is given. -/
def limitAfterEquals (word : List Char) : Except DirectiveError (Option Level) :=
  if word.isEmpty then .ok (some .trace)
  else
    match limit? word with
    | some limit => .ok limit
    | none => .error .badLevel

/-! ## Field values -/

/-- Whether a text is a decimal fraction, with an exponent or without. -/
def isDecimal (text : List Char) : Bool :=
  let whole := text.takeWhile Char.isDigit
  let (fraction, rest) :=
    match text.dropWhile Char.isDigit with
    | '.' :: rest => (rest.takeWhile Char.isDigit, rest.dropWhile Char.isDigit)
    | rest => ([], rest)
  let exponent :=
    match rest with
    | [] => true
    | e :: sign :: digits =>
      let digits := if sign = '+' ∨ sign = '-' then digits else sign :: digits
      e.toLower = 'e' && !digits.isEmpty && digits.all Char.isDigit
    | [_] => false
  !(whole.isEmpty && fraction.isEmpty) && exponent

/-- Whether a text is a number with a plus sign. Numbers without one are patterns too. -/
def isSignedNumber : List Char → Bool
  | '+' :: number =>
    isDecimal number || (String.ofList number).toLower ∈ ["inf", "infinity", "nan"]
  | _ => false

/-- Refuses what can be no field. Its value, if it has one, is a number or a pattern; an equals
sign behind it ends it. -/
def checkField (field : List Char) : Except DirectiveError Unit :=
  match field, field.dropWhile (· ≠ '=') with
  | [], _ => .error .malformed
  | _, [] => .ok ()
  | _, _ :: rest =>
    let value := rest.takeWhile (· ≠ '=')
    if isSignedNumber value then .ok ()
    else
      match Pattern.error? value with
      | some e => .error (.badPattern e)
      | none => .ok ()

/-! ## Reading -/

namespace Directive

/-- Whether a character may begin the name of a target or level. -/
def startsWord (c : Char) : Bool :=
  c ∈ ['-', ':', '_'] || Alphanumeric.isAlphanumeric c

/-- Reads the limit behind closing brackets. `seen` is what the marks have passed of the text. -/
def limitBehind (text : List Char) (seen : Nat) :
    List Char → Except DirectiveError (Option Level)
  | [] => .ok (some .trace)
  | '=' :: _ => limitAfterEquals (Utf8.drop (seen + 1) text)
  | _ => .error .malformed

/-- Reads the part from an opening bracket on, which `seen` is past already. -/
def bracketed (text : List Char) (target : String) (seen : Nat) (rest : List Char) :
    Except DirectiveError (Option Directive) :=
  let span := rest.takeWhile fun c => c ≠ ']' ∧ c ≠ '\x7b'
  let spanEnd := seen + Utf8.size span
  match rest.dropWhile fun c => c ≠ ']' ∧ c ≠ '\x7b' with
  | [] => .error .malformed
  | ']' :: rest => do
    let _ ← limitBehind text (spanEnd + 1) rest
    return none
  | _ :: rest =>
    let inner := rest.takeWhile (· ≠ '\x7d')
    let innerEnd := spanEnd + 1 + Utf8.size inner
    match rest.dropWhile (· ≠ '\x7d') with
    | [] => .error .malformed
    | _ :: rest => do
      let field := Utf8.take (Utf8.size inner) (Utf8.drop (spanEnd + 1) text)
      checkField field
      match rest with
      | ']' :: rest =>
        let limit ← limitBehind text (innerEnd + 2) rest
        let named := !(Utf8.take (Utf8.size span) (Utf8.drop seen text)).isEmpty
        return if named ∨ field.contains '=' then none
          else some ⟨target, some (String.ofList field), limit⟩
      | _ => .error .malformed

/-- Reads a directive; `none` is one that cannot let any record through. -/
def ofText (text : List Char) : Except DirectiveError (Option Directive) :=
  match Blank.trim text with
  | [] => .error .malformed
  | '[' :: rest => bracketed text "" 1 rest
  | first :: rest =>
    if startsWord first then
      let wordEnd := Utf8.size (first :: rest.takeWhile fun c => c ≠ '=' ∧ c ≠ '[')
      let target := String.ofList (Utf8.take wordEnd text)
      match rest.dropWhile fun c => c ≠ '=' ∧ c ≠ '[' with
      | [] =>
        .ok <| some <|
          match limit? text with
          | some limit => ⟨"", none, limit⟩
          | none => ⟨String.ofList text, none, some .trace⟩
      | '=' :: _ => return some ⟨target, none, ← limitAfterEquals (Utf8.drop (wordEnd + 1) text)⟩
      | _ :: rest => bracketed text target (wordEnd + 1) rest
    else .error .malformed

/-- Whether a directive is about a record. -/
def isAbout (d : Directive) (r : Record) : Bool :=
  d.target.toList.isPrefixOf r.target.toList && d.field.all (· ∈ r.fieldNames)

/-- Whether a directive goes before another about the same record, if it comes after it in the
list: it has the longer target, or else the later field, where any field is later than none. -/
def supersedes (d e : Directive) : Bool :=
  if d.target.length = e.target.length then
    match d.field, e.field with
    | some field, some other => other ≤ field
    | none, some _ => false
    | _, none => true
  else e.target.length < d.target.length

end Directive

end EightBit.Log
