namespace AssessmentChat.Base64

/-!
# Bytes as text

Three bytes are four digits of six bits.  A last group of one or two bytes is
filled up with pads, and the bits that it does not use are zero.  Reading
accepts exactly the texts that writing produces, and otherwise says what is
wrong and where.
-/

/-- What is wrong with a text, with byte offsets into it. -/
inductive Flaw
  /-- A byte stands where no such byte may stand. -/
  | symbol (byte : UInt8) (offset : Nat)
  /-- The last group has a single digit; the length is that of the text up to it. -/
  | lone (length : Nat)
  /-- The last group is not filled up. -/
  | padding
  /-- The last digit has bits that no byte uses. -/
  | spareBits (byte : UInt8) (offset : Nat)
deriving Repr, DecidableEq

/-- The text of a flaw. -/
def Flaw.message : Flaw → String
  | .symbol byte offset => s!"Invalid symbol {byte.toNat}, offset {offset}."
  | .lone length => s!"Invalid input length: {length}"
  | .padding => "Invalid padding"
  | .spareBits byte offset => s!"Invalid last symbol {byte.toNat}, offset {offset}."

/-- The byte that fills up a group. -/
def pad : UInt8 := 61

/-- The byte that is the digit of a number below sixty-four. -/
def digit (value : Nat) : UInt8 :=
  if value < 26 then .ofNat (65 + value)
  else if value < 52 then .ofNat (71 + value)
  else if value < 62 then .ofNat (value - 4)
  else if value = 62 then 43
  else 47

/-- The value of a digit. -/
def digitValue? (byte : UInt8) : Option Nat :=
  if 65 ≤ byte ∧ byte ≤ 90 then some (byte.toNat - 65)
  else if 97 ≤ byte ∧ byte ≤ 122 then some (byte.toNat - 71)
  else if 48 ≤ byte ∧ byte ≤ 57 then some (byte.toNat + 4)
  else if byte = 43 then some 62
  else if byte = 47 then some 63
  else none

/-- Whether a byte is a digit. -/
def isDigit (byte : UInt8) : Bool :=
  (digitValue? byte).isSome

/-! ## Writing -/

/-- The digits of three bytes. -/
def digitsOfThree (first second third : UInt8) : List UInt8 :=
  let bits := (first.toNat * 256 + second.toNat) * 256 + third.toNat
  [digit (bits / 262144), digit (bits / 4096 % 64), digit (bits / 64 % 64), digit (bits % 64)]

/-- The digits of two last bytes, filled up. -/
def digitsOfTwo (first second : UInt8) : List UInt8 :=
  let bits := (first.toNat * 256 + second.toNat) * 4
  [digit (bits / 4096), digit (bits / 64 % 64), digit (bits % 64), pad]

/-- The digits of one last byte, filled up. -/
def digitsOfOne (first : UInt8) : List UInt8 :=
  let bits := first.toNat * 16
  [digit (bits / 64), digit (bits % 64), pad, pad]

/-- The digits of bytes after those already written, which are given in reverse. -/
def encodeAfter (written : List UInt8) : List UInt8 → List UInt8
  | first :: second :: third :: rest =>
      encodeAfter ((digitsOfThree first second third).reverse ++ written) rest
  | [first, second] => written.reverse ++ digitsOfTwo first second
  | [first] => written.reverse ++ digitsOfOne first
  | [] => written.reverse

/-- The digits of bytes. -/
def digits (bytes : List UInt8) : List UInt8 :=
  encodeAfter [] bytes

/-- The text of bytes. -/
def encode (bytes : ByteArray) : String :=
  String.ofList ((digits bytes.data.toList).map fun byte => Char.ofNat byte.toNat)

/-! ## Reading -/

/-- The number that digits spell, six bits each. -/
def bitsOf (symbols : List UInt8) : Nat :=
  symbols.foldl (fun bits symbol => bits * 64 + (digitValue? symbol).getD 0) 0

/-- The three bytes of twenty-four bits. -/
def threeBytes (bits : Nat) : List UInt8 :=
  [.ofNat (bits / 65536), .ofNat (bits / 256), .ofNat bits]

/-- The symbol that is not a digit and its offset, the first of them. -/
def firstForeign? (offset : Nat) (symbols : List UInt8) : Option Flaw :=
  ((symbols.dropWhile isDigit).head?).map fun foreign =>
    .symbol foreign (offset + (symbols.takeWhile isDigit).length)

/-- The bytes of a group that is not the last. -/
def fullGroup (offset : Nat) (symbols : List UInt8) : Except Flaw (List UInt8) :=
  match firstForeign? offset symbols with
  | some flaw => .error flaw
  | none => .ok (threeBytes (bitsOf symbols))

/--
The bytes of the last group, which has at most four symbols: two digits or more,
then pads up to four symbols.
-/
def lastGroup (offset : Nat) (symbols : List UInt8) : Except Flaw (List UInt8) :=
  let spelled := symbols.takeWhile isDigit
  let after := symbols.dropWhile isDigit
  let filled := spelled.length ≥ 2 && after.all (· = pad)
  match firstForeign? offset symbols with
  | some flaw =>
      if !filled then .error flaw
      else if symbols.length ≠ 4 then .error .padding
      else
        let spare := if spelled.length = 2 then 16 else 4
        let place := if spelled.length = 2 then 65536 else 256
        let bits := bitsOf spelled
        if bits % spare ≠ 0 then
          .error (.spareBits (spelled.getLastD pad) (offset + spelled.length - 1))
        else
          .ok ((threeBytes (bits / spare * place)).take (spelled.length - 1))
  | none =>
      match symbols with
      | [] => .ok []
      | [_] => .error (.lone (offset + 1))
      | [_, _, _, _] => .ok (threeBytes (bitsOf symbols))
      | _ => .error .padding

/-- The bytes of symbols after those already read, which are given in reverse. -/
def decodeAfter (offset : Nat) (read : List UInt8) : List UInt8 → Except Flaw (List UInt8)
  | first :: second :: third :: fourth :: next :: rest =>
      match fullGroup offset [first, second, third, fourth] with
      | .ok bytes => decodeAfter (offset + 4) (bytes.reverse ++ read) (next :: rest)
      | .error flaw => .error flaw
  | symbols => (lastGroup offset symbols).map (read.reverse ++ ·)

/--
The bytes that symbols spell.  A foreign last symbol that is alone in its group,
such as the end of a line, is reported before anything else.
-/
def bytesOf (symbols : List UInt8) : Except Flaw (List UInt8) :=
  match symbols.getLast? with
  | some last =>
      if symbols.length % 4 = 1 ∧ last ≠ pad ∧ !isDigit last then
        .error (.symbol last (symbols.length - 1))
      else decodeAfter 0 [] symbols
  | none => .ok []

/-- The bytes of a text. -/
def decode (text : String) : Except Flaw ByteArray :=
  (bytesOf text.toUTF8.data.toList).map fun bytes => ⟨bytes.toArray⟩

end AssessmentChat.Base64
