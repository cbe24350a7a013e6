import EightBit.Text.Utf8
import Mathlib.Data.String.Basic

/-!
# What decoding reports

Bytes are decoded to the one text that they encode (`decode_eq_ok_iff`). If they encode none, the
place that is reported is the length of their longest prefix that does (`decode_eq_error_iff`):
characters are read one after the other, and where none can be read, no longer prefix is text
(`exists_char_of_isValidUTF8`).
-/

namespace EightBit.Utf8

variable {bytes : ByteArray}

/-- `n` is the length of the longest prefix of some bytes that encodes a text. -/
structure LongestText (bytes : ByteArray) (n : Nat) : Prop where
  le_size : n ≤ bytes.size
  isValid : (bytes.extract 0 n).IsValidUTF8
  longest : ∀ k ≤ bytes.size, (bytes.extract 0 k).IsValidUTF8 → k ≤ n

theorem LongestText.unique {n k : Nat} (h : LongestText bytes n) (h' : LongestText bytes k) :
    n = k :=
  Nat.le_antisymm (h'.longest n h.le_size h.isValid) (h.longest k h'.le_size h'.isValid)

theorem isValidUTF8_extract_self (bytes : ByteArray) (start : Nat) :
    (bytes.extract start start).IsValidUTF8 := by
  have hempty : bytes.extract start start = ([] : List Char).utf8Encode := by
    rw [ByteArray.extract_same]
    rfl
  exact ⟨[], hempty⟩

/-- A character that is read is encoded by the bytes from there on. -/
theorem extract_of_decodeChar {start : Nat} {c : Char}
    (h : bytes.utf8DecodeChar? start = some c) :
    bytes.extract start (start + c.utf8Size) = [c].utf8Encode := by
  have hsome : (bytes.utf8DecodeChar? start).isSome = true := by
    rw [h]
    rfl
  have hc : bytes.utf8DecodeChar start hsome = c := by
    rw [ByteArray.utf8DecodeChar, Option.get_of_eq_some _ h]
  rw [List.utf8Encode_singleton, ← hc, ByteArray.utf8EncodeChar_utf8DecodeChar]

/-- What encodes a text and is not empty begins with a character, and the rest encodes a text. -/
theorem exists_char_of_isValidUTF8 {start stop : Nat} (hlt : start < stop)
    (hle : stop ≤ bytes.size) (h : (bytes.extract start stop).IsValidUTF8) :
    ∃ c, bytes.utf8DecodeChar? start = some c ∧ start + c.utf8Size ≤ stop ∧
      (bytes.extract (start + c.utf8Size) stop).IsValidUTF8 := by
  have hsize : (bytes.extract start stop).size = stop - start := by
    rw [ByteArray.size_extract]
    omega
  obtain ⟨text, htext⟩ := h
  rcases text with _ | ⟨c, rest⟩
  · rw [htext, List.utf8Encode_nil, ByteArray.size_empty] at hsize
    omega
  · rw [List.utf8Encode_cons] at htext
    have hc : bytes.utf8DecodeChar? start = some c := by
      have hsplit : bytes.extract start stop ++ bytes.extract stop bytes.size =
          bytes.extract start bytes.size := by
        rw [ByteArray.extract_append_extract]
        congr 1 <;> omega
      rw [ByteArray.utf8DecodeChar?_eq_utf8DecodeChar?_extract, ← hsplit]
      refine ByteArray.utf8DecodeChar?_append_eq_some ?_ _
      rw [htext]
      exact List.utf8DecodeChar?_utf8Encode_singleton_append
    have hroom : start + c.utf8Size ≤ stop := by
      rw [htext, ByteArray.size_append, List.utf8Encode_singleton, List.size_toByteArray,
        String.length_utf8EncodeChar] at hsize
      omega
    refine ⟨c, hc, hroom, ?_⟩
    have hsplit : [c].utf8Encode ++ bytes.extract (start + c.utf8Size) stop =
        bytes.extract start stop := by
      rw [← extract_of_decodeChar hc, ByteArray.extract_append_extract]
      congr 1 <;> omega
    rw [← ByteArray.isValidUTF8_utf8Encode_singleton_append_iff (c := c), hsplit, htext,
      ByteArray.isValidUTF8_utf8Encode_singleton_append_iff]
    exact ⟨rest, rfl⟩

theorem validUpTo_of_none {start : Nat} (h : bytes.utf8DecodeChar? start = none) :
    validUpTo bytes start = start := by
  rw [validUpTo]
  split
  · rfl
  · rename_i hsome
    rw [h] at hsome
    cases hsome

theorem validUpTo_of_some {start : Nat} {c : Char} (h : bytes.utf8DecodeChar? start = some c) :
    validUpTo bytes start = validUpTo bytes (start + c.utf8Size) := by
  rw [validUpTo]
  split
  · rename_i hnone
    rw [h] at hnone
    cases hnone
  · rename_i hsome
    rw [h] at hsome
    cases hsome
    rfl

/-- Up to where decoding stops the bytes encode a text, and no further. -/
theorem validUpTo_spec (bytes : ByteArray) (start : Nat) (h : start ≤ bytes.size) :
    start ≤ validUpTo bytes start ∧ validUpTo bytes start ≤ bytes.size ∧
      (bytes.extract start (validUpTo bytes start)).IsValidUTF8 ∧
      ∀ stop, start ≤ stop → stop ≤ bytes.size → (bytes.extract start stop).IsValidUTF8 →
        stop ≤ validUpTo bytes start := by
  induction start using validUpTo.induct bytes with
  | case1 start hnone =>
    rw [validUpTo_of_none hnone]
    refine ⟨Nat.le_refl _, h, isValidUTF8_extract_self bytes start, fun stop _ hle hvalid => ?_⟩
    by_contra hlt
    obtain ⟨c, hc, -⟩ := exists_char_of_isValidUTF8 (by omega) hle hvalid
    rw [hnone] at hc
    cases hc
  | case2 start c hc ih =>
    have hroom := ByteArray.le_size_of_utf8DecodeChar?_eq_some hc
    obtain ⟨hfrom, hto, hvalid, hlongest⟩ := ih hroom
    rw [validUpTo_of_some hc]
    refine ⟨by omega, hto, ?_, fun stop hle hstop hvalid' => ?_⟩
    · have hsplit : bytes.extract start (start + c.utf8Size) ++
          bytes.extract (start + c.utf8Size) (validUpTo bytes (start + c.utf8Size)) =
            bytes.extract start (validUpTo bytes (start + c.utf8Size)) := by
        rw [ByteArray.extract_append_extract]
        congr 1 <;> omega
      rw [← hsplit, extract_of_decodeChar hc,
        ByteArray.isValidUTF8_utf8Encode_singleton_append_iff]
      exact hvalid
    · by_cases hempty : start = stop
      · omega
      · obtain ⟨c', hc', hroom', hrest⟩ :=
          exists_char_of_isValidUTF8 (by omega) hstop hvalid'
        rw [hc] at hc'
        cases hc'
        exact hlongest stop hroom' hstop hrest

theorem longestText_validUpTo (bytes : ByteArray) : LongestText bytes (validUpTo bytes 0) := by
  obtain ⟨-, hle, hvalid, hlongest⟩ := validUpTo_spec bytes 0 (Nat.zero_le _)
  exact ⟨hle, hvalid, fun k hk hvalid' => hlongest k (Nat.zero_le _) hk hvalid'⟩

/-! ## Decoding -/

theorem decode_eq_ok_iff {text : String} : decode bytes = .ok text ↔ bytes = text.toByteArray := by
  constructor
  · intro h
    unfold decode at h
    split at h
    · rename_i chars hchars
      cases h
      have hsome : bytes.utf8Decode?.isSome = true := by
        rw [hchars]
        rfl
      have hbytes := ByteArray.utf8Encode_get_utf8Decode? (h := hsome)
      rw [Option.get_of_eq_some _ hchars] at hbytes
      rw [← hbytes]
      rfl
    · cases h
  · rintro rfl
    exact decode_toByteArray text

/-- Bytes that encode no text are reported by the longest prefix that does. -/
theorem decode_eq_error_iff {n : Nat} :
    decode bytes = .error n ↔ n < bytes.size ∧ LongestText bytes n := by
  have hlongest := longestText_validUpTo bytes
  have hall : bytes.extract 0 bytes.size = bytes := ByteArray.extract_zero_size
  constructor
  · intro h
    unfold decode at h
    split at h
    · cases h
    · rename_i hnone
      cases h
      have hne : validUpTo bytes 0 ≠ bytes.size := by
        intro heq
        have hvalid := hlongest.isValid
        rw [heq, hall, ← ByteArray.isSome_utf8Decode?_iff, hnone] at hvalid
        cases hvalid
      have hle := hlongest.le_size
      exact ⟨by omega, hlongest⟩
  · rintro ⟨hlt, h⟩
    rw [h.unique hlongest]
    unfold decode
    split
    · -- the bytes as a whole would be a longer prefix
      rename_i chars hchars
      have hvalid : bytes.IsValidUTF8 := by
        rw [← ByteArray.isSome_utf8Decode?_iff, hchars]
        rfl
      have hle := h.longest bytes.size (Nat.le_refl _) (by rw [hall]; exact hvalid)
      omega
    · rfl

end EightBit.Utf8
