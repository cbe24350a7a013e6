import EightBit.Command.Arguments
import EightBit.Proofs.ImageGrammar
import EightBit.Proofs.Numerals

/-!
# Bytes in a marked radix

A byte that is given to the command may have its radix marked in front of it. Which texts are such
bytes, and why the others are none, follows from what numerals are (`readByte_classifies`). The
tokens of an image are the numerals of radix 2 (`byte?_eq_some_iff`), so they are what the command
takes as a byte behind the mark of this radix, but for the plus sign that it allows there.
-/

namespace EightBit

theorem ofNat_eq_iff {n : Nat} (h : n ≤ 255) {byte : UInt8} :
    UInt8.ofNat n = byte ↔ n = byte.toNat := by
  rw [UInt8.ofNat_eq_iff_mod_eq_toNat, Nat.mod_eq_of_lt (by omega)]

namespace Numeral

/-! ## Marks -/

/-- The radix that a text marks at its start, which is ten without a mark. -/
def markedRadix (text : List Char) : Nat :=
  if ['0', 'x'] <+: text then 16 else if ['0', 'b'] <+: text then 2 else 10

/-- A text without the mark of a radix at its start. -/
def withoutMark (text : List Char) : List Char :=
  if ['0', 'x'] <+: text ∨ ['0', 'b'] <+: text then text.drop 2 else text

theorem markedRadix_pos (text : List Char) : 0 < markedRadix text := by
  unfold markedRadix
  split_ifs <;> decide

theorem markedRadix_le (text : List Char) : markedRadix text ≤ 16 := by
  unfold markedRadix
  split_ifs <;> decide

/-- A number is read in the radix that its text marks. -/
theorem readMarked_eq (max : Nat) (text : List Char) :
    readMarked max text = read (markedRadix text) max (withoutMark text) := by
  unfold readMarked
  split
  · rfl
  · rfl
  · rename_i hx hb
    have hx' : ¬ ['0', 'x'] <+: text := by
      rintro ⟨digits, rfl⟩
      exact hx digits rfl
    have hb' : ¬ ['0', 'b'] <+: text := by
      rintro ⟨digits, rfl⟩
      exact hb digits rfl
    simp only [markedRadix, withoutMark, hx', hb', if_false, or_false]

end Numeral

/-! ## Tokens as binary numerals -/

namespace Image

open Numeral

theorem isDigit_two_iff {v : Nat} {c : Char} :
    IsDigit 2 v c ↔ (c = '0' ∨ c = '1') ∧ v = digit c := by
  constructor
  · intro h
    obtain ⟨hv, hc⟩ := h
    have hcases : v = 0 ∨ v = 1 := by omega
    rcases hcases with rfl | rfl
    · have hzero : c = '0' := hc.elim id id
      rw [hzero]
      decide
    · have hone : c = '1' := hc.elim id id
      rw [hone]
      decide
  · intro h
    obtain ⟨rfl | rfl, rfl⟩ := h
    · exact ⟨by decide, Or.inl rfl⟩
    · exact ⟨by decide, Or.inl rfl⟩

theorem forall₂_isDigit_two_iff {values : List Nat} {text : List Char} :
    List.Forall₂ (IsDigit 2) values text ↔
      (∀ c ∈ text, c = '0' ∨ c = '1') ∧ values = text.map digit := by
  induction text generalizing values with
  | nil => simp
  | cons c text ih =>
    rw [List.forall₂_cons_right_iff, List.forall_mem_cons, List.map_cons]
    constructor
    · rintro ⟨v, vs, hv, hvs, rfl⟩
      rw [isDigit_two_iff] at hv
      obtain ⟨htext, rfl⟩ := ih.mp hvs
      exact ⟨⟨hv.1, htext⟩, by rw [hv.2]⟩
    · rintro ⟨⟨hc, htext⟩, rfl⟩
      exact ⟨_, _, isDigit_two_iff.mpr ⟨hc, rfl⟩, ih.mpr ⟨htext, rfl⟩, rfl⟩

/-- Tokens denote what they denote as numerals in radix 2. -/
theorem denotes_two_iff {text : List Char} {n : Nat} :
    Denotes 2 text n ↔ (∀ c ∈ text, c = '0' ∨ c = '1') ∧ value text = n := by
  simp only [Denotes, forall₂_isDigit_two_iff, value, List.map_reverse]
  constructor
  · rintro ⟨values, ⟨htext, rfl⟩, hn⟩
    exact ⟨htext, hn⟩
  · intro h
    exact ⟨_, ⟨h.1, rfl⟩, h.2⟩

theorem byte?_eq_some_iff {token : List Char} {byte : UInt8} :
    byte? token = some byte ↔ token ≠ [] ∧ Denotes 2 token byte.toNat := by
  have hbyte : byte.toNat < 256 := byte.toNat_lt
  rw [denotes_two_iff]
  by_cases hne : token = []
  · simp [hne, byte?]
  · by_cases hliteral : IsLiteral token
    · obtain ⟨hdigits, hvalue⟩ := id hliteral
      rw [byte?_of_isLiteral hne hliteral, and_iff_right hne, and_iff_right hdigits,
        Option.some.injEq, ofNat_eq_iff hvalue]
    · rw [byte?_of_not_isLiteral hliteral]
      constructor
      · intro h
        cases h
      · intro h
        have hvalue : value token ≤ 255 := by omega
        exact absurd ⟨h.2.1, hvalue⟩ hliteral

end Image

/-! ## Bytes -/

namespace Command

open Numeral

/-- The report that a text is no byte, with the reason. -/
def notByte (text reason : String) : String :=
  String.ofList (Quoted.quote text.toList) ++ " is not a byte value: " ++ reason

theorem readByte_eq_ok_iff {text : String} {byte : UInt8} :
    readByte text = .ok byte ↔
      unsigned (withoutMark text.toList) ≠ [] ∧
        Denotes (markedRadix text.toList) (unsigned (withoutMark text.toList)) byte.toNat := by
  have hbyte : byte.toNat ≤ 255 := Nat.le_of_lt_succ byte.toNat_lt
  have hread : ∀ n, readMarked 255 text.toList = .ok n ↔
      unsigned (withoutMark text.toList) ≠ [] ∧
        Denotes (markedRadix text.toList) (unsigned (withoutMark text.toList)) n ∧ n ≤ 255 := by
    intro n
    rw [readMarked_eq]
    exact read_eq_ok_iff (markedRadix_pos text.toList) (markedRadix_le text.toList)
  have hiff : readByte text = .ok byte ↔ readMarked 255 text.toList = .ok byte.toNat := by
    unfold readByte
    split
    · rename_i n hn
      have hle := ((hread n).mp hn).2.2
      rw [hn, Except.ok.injEq, Except.ok.injEq, ofNat_eq_iff hle]
    · rename_i e he
      simp [he]
  rw [hiff, hread, and_iff_left hbyte]

theorem readByte_eq_error_iff {text : String} {e : Numeral.ReadError} :
    readByte text = .error (notByte text e.message) ↔
      read (markedRadix text.toList) 255 (withoutMark text.toList) = .error e := by
  have hmessage : ∀ e', notByte text e'.message = notByte text e.message ↔ e' = e := by
    intro e'
    rw [notByte, notByte, String.append_right_inj]
    cases e <;> cases e' <;> decide
  rw [← readMarked_eq]
  unfold readByte
  split
  · rename_i n hn
    simp [hn]
  · rename_i e' he'
    rw [he', Except.error.injEq, Except.error.injEq]
    exact hmessage e'

/-- A text gives a byte exactly if, behind the mark of its radix and one plus sign, there are digits
of this radix and nothing else, at least one of them, that denote a number of at most 255. Else the
reason is that nothing stands behind the mark, or that the first digits denote too large a number
already, or in all other cases that there is a character that is no digit where one should be. The
token of an image denotes a byte exactly if it has no plus sign and, marked as binary, gives this
byte. -/
theorem readByte_classifies (text : String) :
    let radix := markedRadix text.toList
    let digits := withoutMark text.toList
    (∀ byte : UInt8, readByte text = .ok byte ↔
      unsigned digits ≠ [] ∧ Denotes radix (unsigned digits) byte.toNat) ∧
    (readByte text = .error (notByte text "cannot parse integer from empty string") ↔
      digits = []) ∧
    (readByte text = .error (notByte text "number too large to fit in target type") ↔
      ∃ first n, first <+: unsigned digits ∧ Denotes radix first n ∧ 255 < n) ∧
    (readByte text = .error (notByte text "invalid digit found in string") ↔
      digits ≠ [] ∧
        (¬ ∃ first n, first <+: unsigned digits ∧ Denotes radix first n ∧ 255 < n) ∧
        ¬ ∃ n, unsigned digits ≠ [] ∧ Denotes radix (unsigned digits) n ∧ n ≤ 255) ∧
    ∀ byte : UInt8, Image.byte? text.toList = some byte ↔
      text.toList.head? ≠ some '+' ∧ readByte ("0b" ++ text) = .ok byte := by
  intro radix digits
  have hpos : 0 < radix := markedRadix_pos text.toList
  have hle : radix ≤ 16 := markedRadix_le text.toList
  refine ⟨fun byte => readByte_eq_ok_iff, ?_, ?_, ?_, fun byte => ?_⟩
  · exact (readByte_eq_error_iff (e := .empty)).trans (read_eq_empty_iff hpos hle)
  · exact (readByte_eq_error_iff (e := .tooLarge)).trans (read_eq_tooLarge_iff hpos hle)
  · exact (readByte_eq_error_iff (e := .invalidDigit)).trans (read_eq_invalidDigit_iff hpos hle)
  · have hmarked : ("0b" ++ text).toList = '0' :: 'b' :: text.toList := by
      rw [String.toList_append]
      rfl
    rw [Image.byte?_eq_some_iff, readByte_eq_ok_iff, hmarked]
    show _ ↔ _ ∧ unsigned text.toList ≠ [] ∧ Denotes 2 (unsigned text.toList) byte.toNat
    constructor
    · intro h
      have hplus := h.2.head?_ne_plus (by decide)
      rw [unsigned_eq_self hplus]
      exact ⟨hplus, h⟩
    · intro h
      rw [unsigned_eq_self h.1] at h
      exact h.2

/-- Of two troubles the first is told: a number that is too large, or a letter that is no digit. -/
example :
    readByte "0x+0F4" = .ok 244 ∧
      readByte "300z" = .error (notByte "300z" "number too large to fit in target type") ∧
      readByte "2z00" = .error (notByte "2z00" "invalid digit found in string") ∧
      readByte "0b" = .error (notByte "0b" "cannot parse integer from empty string") := by
  decide +kernel

end Command

end EightBit
