import AssessmentChat.Text.Utf8

namespace AssessmentChat

/-!
# Text in units of two bytes

A character is one unit or two, the first of which is of a range of its own, and so is
the second.  A unit without the other half is read as a replacement character.  Which
byte of a unit comes first can be told by a mark before the text.
-/

namespace Utf16

/-- Which byte of a unit comes first. -/
inductive ByteOrder
  | littleEndian
  | bigEndian
deriving Repr, DecidableEq

/-- The unit of two bytes. -/
def ByteOrder.unit : ByteOrder → UInt8 → UInt8 → Nat
  | .littleEndian, low, high => high.toNat * 256 + low.toNat
  | .bigEndian, high, low => high.toNat * 256 + low.toNat

/-- Whether a unit is the first half of a character. -/
def isFirstHalf (unit : Nat) : Bool :=
  0xD800 ≤ unit && unit < 0xDC00

/-- Whether a unit is the second half of a character. -/
def isSecondHalf (unit : Nat) : Bool :=
  0xDC00 ≤ unit && unit < 0xE000

/-- The character of two halves. -/
def joined (first second : Nat) : Char :=
  Char.ofNat (0x10000 + (first - 0xD800) * 0x400 + (second - 0xDC00))

/-- The characters of bytes, after a first half; those found are given in reverse. -/
def decodeAfter (order : ByteOrder) (found : List Char) : Option Nat → List UInt8 → List Char
  | none, [] => found.reverse
  | some _, [] => (Utf8.replacement :: found).reverse
  | _, [_] => (Utf8.replacement :: found).reverse
  | half, one :: other :: rest =>
      let unit := order.unit one other
      let begin (found : List Char) : List Char :=
        if isFirstHalf unit then decodeAfter order found (some unit) rest
        else if isSecondHalf unit then decodeAfter order (Utf8.replacement :: found) none rest
        else decodeAfter order (Char.ofNat unit :: found) none rest
      match half with
      | none => begin found
      | some first =>
          if isSecondHalf unit then decodeAfter order (joined first unit :: found) none rest
          else begin (Utf8.replacement :: found)

/-- The text of bytes. -/
def decode (order : ByteOrder) (bytes : List UInt8) : String :=
  String.ofList (decodeAfter order [] none bytes)

end Utf16

/-- The text of bytes: as a mark before them says, or else as they are read otherwise. -/
def decodeMarked (otherwise : List UInt8 → String) : List UInt8 → String
  | 0xEF :: 0xBB :: 0xBF :: rest => Utf8.decode rest
  | 0xFF :: 0xFE :: rest => Utf16.decode .littleEndian rest
  | 0xFE :: 0xFF :: rest => Utf16.decode .bigEndian rest
  | bytes => otherwise bytes

end AssessmentChat
