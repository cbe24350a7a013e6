import EightBit.Proofs.Stages
import Mathlib.Data.List.Infix

/-!
# Text in bytes

Which bytes encode text, said by the ranges in which the bytes of a character lie and the number
that they give. These are the bytes that decoding takes and no others (`isValidUTF8_iff`,
`encodes_toList_iff`). A file of an image is text as a whole or not at all: the first place at which
no character begins is reported (`longestWellFormed_append`), whatever lines stand before it.
-/

namespace EightBit

namespace Utf8

/-! ## Characters -/

/-- The range of a byte inside a character. -/
def continuation : Nat × Nat :=
  (0x80, 0xBF)

/-- The forms of a character: the ranges of its bytes. The second byte is held to a part of its
range where the whole of it would give a number that fits in fewer bytes (after `0xE0` and `0xF0`),
a surrogate (after `0xED`), or more than `0x10FFFF` (after `0xF4`). -/
def characterForms : List (List (Nat × Nat)) :=
  [[(0x00, 0x7F)],
   [(0xC2, 0xDF), continuation],
   [(0xE0, 0xE0), (0xA0, 0xBF), continuation],
   [(0xE1, 0xEC), continuation, continuation],
   [(0xED, 0xED), (0x80, 0x9F), continuation],
   [(0xEE, 0xEF), continuation, continuation],
   [(0xF0, 0xF0), (0x90, 0xBF), continuation, continuation],
   [(0xF1, 0xF3), continuation, continuation, continuation],
   [(0xF4, 0xF4), (0x80, 0x8F), continuation, continuation]]

/-- Each byte lies in the range at its place. -/
def Fits : List UInt8 → List (Nat × Nat) → Prop
  | [], [] => True
  | byte :: bytes, (low, high) :: ranges =>
    low ≤ byte.toNat ∧ byte.toNat ≤ high ∧ Fits bytes ranges
  | [], _ :: _ | _ :: _, [] => False

instance instDecidableFits :
    (bytes : List UInt8) → (ranges : List (Nat × Nat)) → Decidable (Fits bytes ranges)
  | [], [] => inferInstanceAs (Decidable True)
  | _ :: bytes, _ :: ranges =>
    have := instDecidableFits bytes ranges
    inferInstanceAs (Decidable (_ ∧ _ ∧ _))
  | [], _ :: _ | _ :: _, [] => inferInstanceAs (Decidable False)

/-- The bytes have one of the forms of a character. -/
def IsCharacter (bytes : List UInt8) : Prop :=
  ∃ form ∈ characterForms, Fits bytes form

instance : DecidablePred IsCharacter := fun bytes =>
  inferInstanceAs (Decidable (∃ form ∈ characterForms, Fits bytes form))

/-- The number of the character that some bytes encode: six bits from every byte but the first. -/
def scalarValue : List UInt8 → Nat
  | [a] => a.toNat
  | [a, b] => a.toNat % 32 * 64 + b.toNat % 64
  | [a, b, c] => a.toNat % 16 * 4096 + b.toNat % 64 * 64 + c.toNat % 64
  | [a, b, c, d] =>
    a.toNat % 8 * 262144 + b.toNat % 64 * 4096 + c.toNat % 64 * 64 + d.toNat % 64
  | _ => 0

theorem isCharacter_iff {bytes : List UInt8} :
    IsCharacter bytes ↔
      Fits bytes [(0x00, 0x7F)] ∨ Fits bytes [(0xC2, 0xDF), continuation] ∨
      Fits bytes [(0xE0, 0xE0), (0xA0, 0xBF), continuation] ∨
      Fits bytes [(0xE1, 0xEC), continuation, continuation] ∨
      Fits bytes [(0xED, 0xED), (0x80, 0x9F), continuation] ∨
      Fits bytes [(0xEE, 0xEF), continuation, continuation] ∨
      Fits bytes [(0xF0, 0xF0), (0x90, 0xBF), continuation, continuation] ∨
      Fits bytes [(0xF1, 0xF3), continuation, continuation, continuation] ∨
      Fits bytes [(0xF4, 0xF4), (0x80, 0x8F), continuation, continuation] := by
  simp only [IsCharacter, characterForms, List.mem_cons, List.not_mem_nil, or_false,
    exists_eq_or_imp, exists_eq_left]

theorem isCharacter_one_iff {a : UInt8} : IsCharacter [a] ↔ a.toNat ≤ 0x7F := by
  simp only [isCharacter_iff, Fits, and_true, and_false, or_false]
  omega

theorem isCharacter_two_iff {a b : UInt8} :
    IsCharacter [a, b] ↔
      (0xC2 ≤ a.toNat ∧ a.toNat ≤ 0xDF) ∧ 0x80 ≤ b.toNat ∧ b.toNat ≤ 0xBF := by
  simp only [isCharacter_iff, continuation, Fits, and_true, and_false, or_false, false_or]
  omega

theorem isCharacter_three_iff {a b c : UInt8} :
    IsCharacter [a, b, c] ↔
      ((0xE0 ≤ a.toNat ∧ a.toNat ≤ 0xEF) ∧ (a.toNat = 0xE0 → 0xA0 ≤ b.toNat) ∧
        (a.toNat = 0xED → b.toNat ≤ 0x9F)) ∧
      (0x80 ≤ b.toNat ∧ b.toNat ≤ 0xBF) ∧ 0x80 ≤ c.toNat ∧ c.toNat ≤ 0xBF := by
  simp only [isCharacter_iff, continuation, Fits, and_true, and_false, or_false, false_or]
  omega

theorem isCharacter_four_iff {a b c d : UInt8} :
    IsCharacter [a, b, c, d] ↔
      ((0xF0 ≤ a.toNat ∧ a.toNat ≤ 0xF4) ∧ (a.toNat = 0xF0 → 0x90 ≤ b.toNat) ∧
        (a.toNat = 0xF4 → b.toNat ≤ 0x8F)) ∧
      (0x80 ≤ b.toNat ∧ b.toNat ≤ 0xBF) ∧ (0x80 ≤ c.toNat ∧ c.toNat ≤ 0xBF) ∧
        0x80 ≤ d.toNat ∧ d.toNat ≤ 0xBF := by
  simp only [isCharacter_iff, continuation, Fits, and_true, and_false, false_or]
  omega

theorem toNat_lt_or (c : Char) : c.toNat < 0xD800 ∨ 0xDFFF < c.toNat ∧ c.toNat < 0x110000 :=
  c.valid

/-- The bytes of a character as numbers. -/
theorem map_toNat_utf8EncodeChar (c : Char) :
    (String.utf8EncodeChar c).map UInt8.toNat =
      if c.toNat ≤ 0x7F then [c.toNat]
      else if c.toNat ≤ 0x7FF then [0xC0 + c.toNat / 64, 0x80 + c.toNat % 64]
      else if c.toNat ≤ 0xFFFF then
        [0xE0 + c.toNat / 4096, 0x80 + c.toNat / 64 % 64, 0x80 + c.toNat % 64]
      else
        [0xF0 + c.toNat / 262144, 0x80 + c.toNat / 4096 % 64, 0x80 + c.toNat / 64 % 64,
          0x80 + c.toNat % 64] := by
  have hlt := toNat_lt_or c
  have hval : c.val.toNat = c.toNat := rfl
  unfold String.utf8EncodeChar
  rw [hval]
  dsimp only
  split
  · simp only [List.map_cons, List.map_nil, UInt8.toNat_ofNat', List.cons.injEq, and_true]
    omega
  · split
    · simp only [List.map_cons, List.map_nil, UInt8.toNat_ofNat', List.cons.injEq, and_true]
      omega
    · split
      · simp only [List.map_cons, List.map_nil, UInt8.toNat_ofNat', List.cons.injEq, and_true]
        omega
      · simp only [List.map_cons, List.map_nil, UInt8.toNat_ofNat', List.cons.injEq, and_true]
        omega

/-- A character has one to four bytes. -/
theorem IsCharacter.shape {bytes : List UInt8} (h : IsCharacter bytes) :
    (∃ a, bytes = [a]) ∨ (∃ a b, bytes = [a, b]) ∨ (∃ a b c, bytes = [a, b, c]) ∨
      ∃ a b c d, bytes = [a, b, c, d] := by
  match bytes, h with
  | [], h => simp [IsCharacter, characterForms, Fits] at h
  | [a], _ => exact Or.inl ⟨a, rfl⟩
  | [a, b], _ => exact Or.inr (Or.inl ⟨a, b, rfl⟩)
  | [a, b, c], _ => exact Or.inr (Or.inr (Or.inl ⟨a, b, c, rfl⟩))
  | [a, b, c, d], _ => exact Or.inr (Or.inr (Or.inr ⟨a, b, c, d, rfl⟩))
  | a :: b :: c :: d :: e :: rest, h => simp [IsCharacter, characterForms, Fits] at h

/-- What has the form of a character gives the number of one. -/
theorem IsCharacter.exists_char {bytes : List UInt8} (h : IsCharacter bytes) :
    ∃ c : Char, scalarValue bytes = c.toNat := by
  have hvalid : (scalarValue bytes).isValidChar := by
    rcases h.shape with ⟨a, rfl⟩ | ⟨a, b, rfl⟩ | ⟨a, b, c, rfl⟩ | ⟨a, b, c, d, rfl⟩
    · rw [isCharacter_one_iff] at h
      simp only [scalarValue, Nat.isValidChar]
      omega
    · rw [isCharacter_two_iff] at h
      simp only [scalarValue, Nat.isValidChar]
      omega
    · rw [isCharacter_three_iff] at h
      simp only [scalarValue, Nat.isValidChar]
      omega
    · rw [isCharacter_four_iff] at h
      simp only [scalarValue, Nat.isValidChar]
      omega
  exact ⟨Char.ofNatAux (scalarValue bytes) hvalid, rfl⟩

/-- The bytes of a character have one of the forms, and give its number. -/
theorem isCharacter_utf8EncodeChar (c : Char) :
    IsCharacter (String.utf8EncodeChar c) ∧ scalarValue (String.utf8EncodeChar c) = c.toNat := by
  have hvalid := toNat_lt_or c
  have hmap := map_toNat_utf8EncodeChar c
  generalize String.utf8EncodeChar c = bytes at hmap
  split at hmap
  · simp only [List.map_eq_cons_iff, List.map_eq_nil_iff] at hmap
    obtain ⟨a, _, rfl, ha, rfl⟩ := hmap
    rw [isCharacter_one_iff, scalarValue]
    omega
  · split at hmap
    · simp only [List.map_eq_cons_iff, List.map_eq_nil_iff] at hmap
      obtain ⟨a, _, rfl, ha, b, _, rfl, hb, rfl⟩ := hmap
      rw [isCharacter_two_iff, scalarValue]
      omega
    · split at hmap
      · simp only [List.map_eq_cons_iff, List.map_eq_nil_iff] at hmap
        obtain ⟨a, _, rfl, ha, b, _, rfl, hb, c', _, rfl, hc, rfl⟩ := hmap
        rw [isCharacter_three_iff, scalarValue]
        omega
      · simp only [List.map_eq_cons_iff, List.map_eq_nil_iff] at hmap
        obtain ⟨a, _, rfl, ha, b, _, rfl, hb, c', _, rfl, hc, d, _, rfl, hd, rfl⟩ := hmap
        rw [isCharacter_four_iff, scalarValue]
        omega

/-- No other bytes of such a form give that number. -/
theorem IsCharacter.eq_utf8EncodeChar {bytes : List UInt8} (h : IsCharacter bytes) {c : Char}
    (hvalue : scalarValue bytes = c.toNat) : bytes = String.utf8EncodeChar c := by
  have hvalid := toNat_lt_or c
  apply List.map_injective_iff.mpr (fun _ _ => UInt8.toNat_inj.mp)
  rw [map_toNat_utf8EncodeChar]
  rcases h.shape with ⟨a, rfl⟩ | ⟨a, b, rfl⟩ | ⟨a, b, c, rfl⟩ | ⟨a, b, c, d, rfl⟩
  · rw [isCharacter_one_iff] at h
    rw [scalarValue] at hvalue
    rw [if_pos (by omega), List.map_singleton, hvalue]
  · rw [isCharacter_two_iff] at h
    rw [scalarValue] at hvalue
    rw [if_neg (by omega), if_pos (by omega)]
    simp only [List.map_cons, List.map_nil, List.cons.injEq, and_true]
    omega
  · rw [isCharacter_three_iff] at h
    rw [scalarValue] at hvalue
    rw [if_neg (by omega), if_neg (by omega), if_pos (by omega)]
    simp only [List.map_cons, List.map_nil, List.cons.injEq, and_true]
    omega
  · rw [isCharacter_four_iff] at h
    rw [scalarValue] at hvalue
    rw [if_neg (by omega), if_neg (by omega), if_neg (by omega)]
    simp only [List.map_cons, List.map_nil, List.cons.injEq, and_true]
    omega

/-! ## Texts -/

/-- The bytes are those of characters, one after the other. -/
inductive WellFormed : List UInt8 → Prop where
  | nil : WellFormed []
  | append {bytes rest : List UInt8} (hchar : IsCharacter bytes) (hrest : WellFormed rest) :
      WellFormed (bytes ++ rest)

/-- The bytes are those of the characters of a text, one after the other. -/
inductive Encodes : List UInt8 → List Char → Prop where
  | nil : Encodes [] []
  | append {bytes rest : List UInt8} {c : Char} {text : List Char} (hchar : IsCharacter bytes)
      (hvalue : scalarValue bytes = c.toNat) (hrest : Encodes rest text) :
      Encodes (bytes ++ rest) (c :: text)

theorem encodes_iff {bytes : List UInt8} {text : List Char} :
    Encodes bytes text ↔ bytes = text.flatMap String.utf8EncodeChar := by
  constructor
  · intro h
    induction h with
    | nil => rfl
    | append hchar hvalue _ ih =>
      rw [List.flatMap_cons, ← ih, ← hchar.eq_utf8EncodeChar hvalue]
  · rintro rfl
    induction text with
    | nil => exact .nil
    | cons c text ih =>
      obtain ⟨hchar, hvalue⟩ := isCharacter_utf8EncodeChar c
      rw [List.flatMap_cons]
      exact .append hchar hvalue ih

theorem wellFormed_iff {bytes : List UInt8} : WellFormed bytes ↔ ∃ text, Encodes bytes text := by
  constructor
  · intro h
    induction h with
    | nil => exact ⟨[], .nil⟩
    | append hchar _ ih =>
      obtain ⟨c, hc⟩ := hchar.exists_char
      obtain ⟨text, htext⟩ := ih
      exact ⟨c :: text, .append hchar hc htext⟩
  · rintro ⟨text, h⟩
    induction h with
    | nil => exact .nil
    | append hchar _ _ ih => exact .append hchar ih

theorem data_utf8Encode (text : List Char) :
    text.utf8Encode.data.toList = text.flatMap String.utf8EncodeChar := by
  rw [List.utf8Encode, List.data_toByteArray]

theorem encodes_toList_iff {bytes : ByteArray} {text : String} :
    Encodes bytes.data.toList text.toList ↔ bytes = text.toByteArray := by
  rw [encodes_iff, ← data_utf8Encode, String.utf8Encode_toList, Array.toList_inj,
    ByteArray.ext_iff]

theorem wellFormed_toByteArray (text : String) : WellFormed text.toByteArray.data.toList :=
  wellFormed_iff.mpr ⟨text.toList, encodes_toList_iff.mpr rfl⟩

theorem isValidUTF8_iff {bytes : ByteArray} :
    bytes.IsValidUTF8 ↔ WellFormed bytes.data.toList := by
  rw [wellFormed_iff]
  constructor
  · rintro ⟨text, htext⟩
    refine ⟨text, encodes_iff.mpr ?_⟩
    rw [htext, data_utf8Encode]
  · rintro ⟨text, htext⟩
    refine ⟨text, ByteArray.ext (Array.toList_inj.mp ?_)⟩
    rw [encodes_iff.mp htext, data_utf8Encode]

/-- After a text, exactly what is well formed on its own is well formed. -/
theorem WellFormed.append_iff {first rest : List UInt8} (h : WellFormed first) :
    WellFormed (first ++ rest) ↔ WellFormed rest := by
  induction h with
  | nil => rfl
  | @append bytes between hchar _ ih =>
    obtain ⟨c, hc⟩ := hchar.exists_char
    have hbytes : [c].utf8Encode = bytes.toByteArray := by
      rw [List.utf8Encode_singleton, hchar.eq_utf8EncodeChar hc]
    have hdrop := ByteArray.isValidUTF8_utf8Encode_singleton_append_iff
      (c := c) (b := (between ++ rest).toByteArray)
    rw [hbytes, ← List.toByteArray_append, isValidUTF8_iff, isValidUTF8_iff,
      List.data_toByteArray, List.data_toByteArray] at hdrop
    rw [List.append_assoc, ← ih]
    exact hdrop

/-- What is well formed and not empty begins with a character. -/
theorem WellFormed.exists_character {bytes : List UInt8} (h : WellFormed bytes) (hne : bytes ≠ []) :
    ∃ first, first <+: bytes ∧ IsCharacter first := by
  cases h with
  | nil => exact absurd rfl hne
  | append hchar _ => exact ⟨_, List.prefix_append _ _, hchar⟩

/-! ## The longest text -/

/-- `n` is the length of the longest prefix that is well formed. -/
structure LongestWellFormed (bytes : List UInt8) (n : Nat) : Prop where
  le_length : n ≤ bytes.length
  wellFormed : WellFormed (bytes.take n)
  longest : ∀ k ≤ bytes.length, WellFormed (bytes.take k) → k ≤ n

theorem longestWellFormed_iff {bytes : ByteArray} {n : Nat} :
    LongestWellFormed bytes.data.toList n ↔ LongestText bytes n := by
  have htake : ∀ k, (bytes.extract 0 k).IsValidUTF8 ↔ WellFormed (bytes.data.toList.take k) := by
    intro k
    rw [isValidUTF8_iff, ByteArray.data_extract, Array.toList_extract, List.extract_eq_take_drop,
      List.drop_zero, Nat.sub_zero]
  have hsize : bytes.data.toList.length = bytes.size := rfl
  constructor
  · rintro ⟨hle, hwell, hlongest⟩
    exact ⟨hle, (htake n).mpr hwell, fun k hk hvalid => hlongest k hk ((htake k).mp hvalid)⟩
  · rintro ⟨hle, hvalid, hlongest⟩
    exact ⟨hle, (htake n).mp hvalid, fun k hk hwell => hlongest k hk ((htake k).mpr hwell)⟩

/-- The bytes begin with nothing that is a character. -/
def StartsMalformed (bytes : List UInt8) : Prop :=
  bytes ≠ [] ∧ ∀ first ∈ bytes.inits, ¬ IsCharacter first

instance : DecidablePred StartsMalformed := fun bytes =>
  inferInstanceAs (Decidable (bytes ≠ [] ∧ ∀ first ∈ bytes.inits, ¬ IsCharacter first))

/-- A text ends where nothing that follows begins with a character. -/
theorem longestWellFormed_append {text rest : List UInt8} (htext : WellFormed text)
    (hrest : StartsMalformed rest) : LongestWellFormed (text ++ rest) text.length := by
  refine ⟨by simp, by rwa [List.take_left], fun k _ hk => ?_⟩
  by_contra hlt
  rw [List.take_append, List.take_of_length_le (by omega), htext.append_iff] at hk
  have hne : rest.take (k - text.length) ≠ [] := by
    rw [Ne, List.take_eq_nil_iff]
    rintro (hzero | hnil)
    · omega
    · exact hrest.1 hnil
  obtain ⟨first, hfirst, hchar⟩ := hk.exists_character hne
  have hprefix : first <+: rest := hfirst.trans (List.take_prefix _ _)
  exact hrest.2 first (List.mem_inits _ _ |>.mpr hprefix) hchar

/-- A byte of the middle, forms that are too long, surrogates, numbers beyond the last character and
characters that are cut off. -/
example : ∀ bytes ∈ [[0x80], [0xC1, 0xBF], [0xE0, 0x9F, 0xBF], [0xED, 0xA0, 0x80],
    [0xF4, 0x90, 0x80, 0x80], [0xF5], [0xC2], [0xE2, 0x82], [0xF0, 0x9F, 0x98]],
    StartsMalformed bytes := by
  decide

end Utf8

/-! ## Files -/

namespace Image

open Utf8

theorem ofFile_of_encodes (path : String) {bytes : ByteArray} {text : String}
    (h : Encodes bytes.data.toList text.toList) :
    ofFile path (.ok bytes) = (parse text).mapError .invalidLine := by
  rw [encodes_toList_iff.mp h]
  exact Command.ofFile_of_text path text

theorem ofFile_of_longest (path : String) {bytes : ByteArray} {n : Nat} (hlt : n < bytes.size)
    (h : LongestWellFormed bytes.data.toList n) :
    ofFile path (.ok bytes) = .error (.notUtf8 path n) := by
  have hdecode := decode_eq_error_iff.mpr ⟨hlt, longestWellFormed_iff.mp h⟩
  exact Command.ofFile_of_decode_error hdecode

/-- The encoding of a file is checked as a whole before anything else. If its bytes are those of
characters, one after the other, they encode one text, and the file gives what the text gives. If
they are not, the file gives the length of the longest prefix that is well formed: whatever text
comes first, with whatever lines, its length is reported if nothing that follows begins with a
character. -/
theorem ofFile_decodes_first (path : String) (bytes : ByteArray) :
    (WellFormed bytes.data.toList →
      ∃ text : String, Encodes bytes.data.toList text.toList ∧
        ofFile path (.ok bytes) = (parse text).mapError .invalidLine) ∧
    (¬ WellFormed bytes.data.toList →
      ∃ n < bytes.size, LongestWellFormed bytes.data.toList n ∧
        ofFile path (.ok bytes) = .error (.notUtf8 path n)) ∧
    ∀ text : String,
      Encodes text.toByteArray.data.toList text.toList ∧
      ofFile path (.ok text.toByteArray) = (parse text).mapError .invalidLine ∧
      ∀ rest : List UInt8, StartsMalformed rest →
        ofFile path (.ok (text.toByteArray ++ rest.toByteArray)) =
          .error (.notUtf8 path text.utf8ByteSize) := by
  refine ⟨fun hwell => ?_, fun hnot => ?_, fun text => ⟨?_, ?_, fun rest hrest => ?_⟩⟩
  · obtain ⟨chars, hchars⟩ := wellFormed_iff.mp hwell
    rw [← String.toList_ofList (l := chars)] at hchars
    exact ⟨String.ofList chars, hchars, ofFile_of_encodes path hchars⟩
  · obtain ⟨n, hdecode⟩ : ∃ n, decode bytes = .error n := by
      rcases hdecode : decode bytes with n | text
      · exact ⟨n, rfl⟩
      · have hencodes := encodes_toList_iff.mpr (decode_eq_ok_iff.mp hdecode)
        exact absurd (wellFormed_iff.mpr ⟨text.toList, hencodes⟩) hnot
    obtain ⟨hlt, hlongest⟩ := decode_eq_error_iff.mp hdecode
    have hlongest := longestWellFormed_iff.mpr hlongest
    exact ⟨n, hlt, hlongest, ofFile_of_longest path hlt hlongest⟩
  · exact encodes_toList_iff.mpr rfl
  · exact Command.ofFile_of_text path text
  · have hlongest := longestWellFormed_append (wellFormed_toByteArray text) hrest
    have hbytes : (text.toByteArray ++ rest.toByteArray).data.toList =
        text.toByteArray.data.toList ++ rest := by
      rw [ByteArray.toList_data_append, List.data_toByteArray]
    have hpos : 0 < rest.length := List.length_pos_of_ne_nil hrest.1
    have hsize : (text.toByteArray ++ rest.toByteArray).size =
        text.utf8ByteSize + rest.length := by
      rw [ByteArray.size_append, List.size_toByteArray]
      rfl
    rw [← hbytes] at hlongest
    exact ofFile_of_longest path (by omega) hlongest

/-- The second line is no literal, but the character behind it is cut off. -/
theorem ofFile_decodes_first_cut :
    StartsMalformed [0xE2, 0x82] ∧ parse "10\n2\n" = .error ⟨2, "2"⟩ ∧
      ofFile "a.ls8" (.ok ("10\n2\n".toByteArray ++ [0xE2, 0x82].toByteArray)) =
        .error (.notUtf8 "a.ls8" 5) := by
  have hrest : StartsMalformed [0xE2, 0x82] := by decide
  obtain ⟨-, -, htext⟩ := ofFile_decodes_first "a.ls8" .empty
  obtain ⟨-, -, hcut⟩ := htext "10\n2\n"
  exact ⟨hrest, by decide +kernel, hcut _ hrest⟩

end Image

end EightBit
