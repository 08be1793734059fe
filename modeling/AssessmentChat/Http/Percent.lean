namespace AssessmentChat.Percent

/-!
# Percent encoding

In an address a byte can be written as a percent sign and two hexadecimal
digits.  Which characters must be written so depends on the part of the address.
-/

/-- The upper-case hexadecimal digit of a number below sixteen. -/
def hexDigit (value : Nat) : Char :=
  if value < 10 then Char.ofNat (48 + value) else Char.ofNat (55 + value)

/-- A byte in percent encoding. -/
def encodeByte (byte : UInt8) : List Char :=
  ['%', hexDigit (byte.toNat / 16), hexDigit (byte.toNat % 16)]

/-- The characters with some of them encoded, and all that are not ASCII. -/
def encode (mustEncode : Char → Bool) (characters : List Char) : List Char :=
  characters.flatMap fun character =>
    if character.toNat ≥ 0x7F || mustEncode character then
      (String.singleton character).toUTF8.data.toList.flatMap encodeByte
    else [character]

/-- The value of a hexadecimal digit. -/
def hexValue? (character : Char) : Option Nat :=
  if '0' ≤ character ∧ character ≤ '9' then some (character.toNat - 48)
  else if 'a' ≤ character ∧ character ≤ 'f' then some (character.toNat - 87)
  else if 'A' ≤ character ∧ character ≤ 'F' then some (character.toNat - 55)
  else none

/-- The bytes of characters, encoded ones decoded. -/
def decode : List Char → List UInt8
  | '%' :: high :: low :: rest =>
      match hexValue? high, hexValue? low with
      | some upper, some lower => .ofNat (16 * upper + lower) :: decode rest
      | _, _ => 37 :: decode (high :: low :: rest)
  | character :: rest => (String.singleton character).toUTF8.data.toList ++ decode rest
  | [] => []

/-! ## What must be encoded -/

/-- The control characters. -/
def inOpaque (character : Char) : Bool :=
  character.toNat < 0x20

/-- What must be encoded in a fragment. -/
def inFragment (character : Char) : Bool :=
  inOpaque character || [' ', '"', '<', '>', Char.ofNat 0x60].contains character

/-- What must be encoded in a query. -/
def inQuery (character : Char) : Bool :=
  inOpaque character || [' ', '"', '#', '<', '>'].contains character

/-- What must be encoded in the query of an address on the web. -/
def inWebQuery (character : Char) : Bool :=
  inQuery character || character = '\''

/-- What must be encoded in a path. -/
def inPath (character : Char) : Bool :=
  inFragment character || ['#', '?', '\x7b', '\x7d'].contains character

/-- What must be encoded in a user name or a password. -/
def inUserInfo (character : Char) : Bool :=
  inPath character || ['/', ':', ';', '=', '@', '[', '\\', ']', '^', '|'].contains character

end AssessmentChat.Percent
