namespace AssessmentChat.Utf8

/-!
# Text from any bytes

Bytes that should be text may not be.  Each longest beginning of a character
that is not completed, and each byte that begins none, is read as one
replacement character.
-/

/-- The character that stands for bytes that are no text. -/
def replacement : Char := '\ufffd'

/-- What the first byte of a character says about those that follow. -/
structure Lead where
  /-- How many bytes follow. -/
  more : Nat
  /-- The bits that the first byte contributes. -/
  bits : Nat
  /-- The least and the greatest byte that may come second. -/
  least : Nat := 0x80
  greatest : Nat := 0xBF

/-- What a byte says as the first of a character; some begin none. -/
def Lead.ofByte? (byte : UInt8) : Option Lead :=
  let value := byte.toNat
  if value < 0x80 then some ⟨0, value, 0x80, 0xBF⟩
  else if value < 0xC2 then none
  else if value < 0xE0 then some ⟨1, value - 0xC0, 0x80, 0xBF⟩
  else if value = 0xE0 then some ⟨2, 0, 0xA0, 0xBF⟩
  else if value = 0xED then some ⟨2, 0xD, 0x80, 0x9F⟩
  else if value < 0xF0 then some ⟨2, value - 0xE0, 0x80, 0xBF⟩
  else if value = 0xF0 then some ⟨3, 0, 0x90, 0xBF⟩
  else if value < 0xF4 then some ⟨3, value - 0xF0, 0x80, 0xBF⟩
  else if value = 0xF4 then some ⟨3, 4, 0x80, 0x8F⟩
  else none

/-- A character under way: the bits so far and what is still to come. -/
structure Partial where
  bits : Nat
  more : Nat
  least : Nat
  greatest : Nat

/-- The characters of bytes, after a character under way; those found are given in reverse. -/
def decodeAfter (found : List Char) : Option Partial → List UInt8 → List Char
  | none, [] => found.reverse
  | some _, [] => (replacement :: found).reverse
  | under, byte :: rest =>
      let begin (found : List Char) : List Char :=
        match Lead.ofByte? byte with
        | some ⟨0, bits, _, _⟩ => decodeAfter (Char.ofNat bits :: found) none rest
        | some ⟨more, bits, least, greatest⟩ =>
            decodeAfter found (some ⟨bits, more, least, greatest⟩) rest
        | none => decodeAfter (replacement :: found) none rest
      match under with
      | none => begin found
      | some ⟨bits, more, least, greatest⟩ =>
          if least ≤ byte.toNat && byte.toNat ≤ greatest then
            let joined := bits * 64 + (byte.toNat - 0x80)
            if more ≤ 1 then decodeAfter (Char.ofNat joined :: found) none rest
            else decodeAfter found (some ⟨joined, more - 1, 0x80, 0xBF⟩) rest
          else begin (replacement :: found)

/-- The text of bytes. -/
def decode (bytes : List UInt8) : String :=
  String.ofList (decodeAfter [] none bytes)

end AssessmentChat.Utf8
