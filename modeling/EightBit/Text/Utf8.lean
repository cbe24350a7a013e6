/-!
# UTF-8

Decoding bytes as UTF-8 text, and places in a text that are counted in bytes. Bytes that are no
UTF-8 are reported by the place where they stop being so: the length of the longest prefix that
encodes characters.
-/

namespace EightBit.Utf8

/-! ## Decoding -/

/-- Where decoding from `start` on stops: at the first place at which no character is encoded. -/
def validUpTo (bytes : ByteArray) (start : Nat) : Nat :=
  match _h : bytes.utf8DecodeChar? start with
  | none => start
  | some c => validUpTo bytes (start + c.utf8Size)
termination_by bytes.size - start
decreasing_by
  have hlt := ByteArray.lt_size_of_isSome_utf8DecodeChar? (by rw [_h]; rfl)
  have hpos := c.utf8Size_pos
  omega

/-- The text that the bytes encode, or the length of the longest prefix that encodes one. -/
def decode (bytes : ByteArray) : Except Nat String :=
  match bytes.utf8Decode? with
  | some text => .ok (String.ofList text.toList)
  | none => .error (validUpTo bytes 0)

/-- What is encoded is decoded again. -/
theorem decode_toByteArray (text : String) : decode text.toByteArray = .ok text := by
  rw [decode, ← String.utf8Encode_toList, List.utf8Decode?_utf8Encode]
  exact congrArg Except.ok String.ofList_toList

/-! ## Places in a text -/

/-- The number of bytes that a text takes. -/
def size : List Char → Nat
  | [] => 0
  | c :: rest => c.utf8Size + size rest

/-- The part of a text that begins after so many bytes. -/
def drop : Nat → List Char → List Char
  | _, [] => []
  | count, c :: rest => if count = 0 then c :: rest else drop (count - c.utf8Size) rest

/-- The part of a text that begins within so many bytes. -/
def take : Nat → List Char → List Char
  | _, [] => []
  | count, c :: rest => if count = 0 then [] else c :: take (count - c.utf8Size) rest

end EightBit.Utf8
