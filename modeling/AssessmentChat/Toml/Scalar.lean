import AssessmentChat.Text.Number
import AssessmentChat.Toml.Token

namespace AssessmentChat.Toml

/-!
# Numbers, dates and truth values

What a word means where a value is expected.  Numbers may be grouped by
underscores between digits; dates and times are those of the calendar.
-/

/-- What a word can mean. -/
inductive Scalar
  | bool (value : Bool)
  | integer (value : Int)
  /-- A number that is not an integer, as it is written. -/
  | real (literal : String)
  /-- A date, a time or both, as it is written. -/
  | moment (literal : String)
deriving Repr, DecidableEq

/-! ## Numbers -/

/-- Whether characters are digits of a kind, with single underscores between them. -/
def isGrouped (isDigit : Char → Bool) : List Char → Bool
  | [] => false
  | [last] => isDigit last
  | first :: '_' :: rest => isDigit first && isGrouped isDigit rest
  | first :: rest => isDigit first && isGrouped isDigit rest

/-- The characters that are not underscores. -/
def ungrouped (characters : List Char) : List Char :=
  characters.filter (· ≠ '_')

/-- The value of digits in a base. -/
def valueInBase (base : Nat) (digits : List Char) : Nat :=
  digits.foldl (fun value digit => base * value + (hexadecimal? [digit]).getD 0) 0

/-- Whether a character is a hexadecimal digit. -/
def isHexadecimal (character : Char) : Bool :=
  (hexadecimal? [character]).isSome

/-- The characters after an optional sign, and whether the sign is a minus. -/
def signed : List Char → Bool × List Char
  | '-' :: rest => (true, rest)
  | '+' :: rest => (false, rest)
  | characters => (false, characters)

/-- Whether characters are a decimal number without a needless zero in front. -/
def isDecimal (characters : List Char) : Bool :=
  isGrouped Char.isDigit characters &&
    (characters.head? ≠ some '0' || characters.length = 1)

/-- An integer, if it fits into 64 bits. -/
def integer? (value : Int) : Option Scalar :=
  if Int64.minValue.toInt ≤ value ∧ value ≤ Int64.maxValue.toInt then some (.integer value)
  else none

/-- The integer of digits in a base. -/
def based? (base : Nat) (isDigit : Char → Bool) (digits : List Char) : Option Scalar :=
  if isGrouped isDigit digits then integer? (valueInBase base (ungrouped digits)) else none

/-- The integer that characters spell in decimal. -/
def decimal? (characters : List Char) : Option Scalar :=
  let (negative, digits) := signed characters
  if isDecimal digits then
    let value : Int := decimalValue (ungrouped digits)
    integer? (if negative then -value else value)
  else none

/-- Whether characters are an exponent. -/
def isExponent : List Char → Bool
  | mark :: rest => (mark = 'e' || mark = 'E') && isGrouped Char.isDigit (signed rest).2
  | [] => false

/-- Whether characters are a fraction, an exponent or both. -/
def isFraction : List Char → Bool
  | '.' :: rest =>
      let isMark (character : Char) : Bool := character = 'e' || character = 'E'
      let digits := rest.takeWhile (!isMark ·)
      let exponent := rest.dropWhile (!isMark ·)
      isGrouped Char.isDigit digits && (exponent.isEmpty || isExponent exponent)
  | characters => isExponent characters

/-- The value of the exponent of a number without underscores. -/
def exponentOf (characters : List Char) : Int :=
  let (negative, digits) := signed (characters.dropWhile fun character =>
    character ≠ 'e' && character ≠ 'E').tail
  if negative then -decimalValue digits else decimalValue digits

/--
Whether a number without a minus sign lies above what 64 binary digits of a
floating-point number can hold, the last value rounded down being excluded.
-/
def overflows (characters : List Char) : Bool :=
  let body := ungrouped (signed characters).2
  let mantissa := body.takeWhile fun character => character ≠ 'e' && character ≠ 'E'
  let digits := mantissa.filter Char.isDigit
  let places := ((mantissa.dropWhile (· ≠ '.')).filter Char.isDigit).length
  let exponent : Int := exponentOf body - places
  let value := decimalValue digits
  let limit := Nat.pow 2 1024 - Nat.pow 2 970
  if value = 0 then false
  else if exponent > 400 then true
  else if exponent ≥ 0 then value * Nat.pow 10 exponent.toNat ≥ limit
  else if (-exponent).toNat > digits.length + 400 then false
  else value ≥ limit * Nat.pow 10 (-exponent).toNat

/-- The number that is not an integer and that characters spell. -/
def real? (characters : List Char) : Option Scalar :=
  let (negative, unsigned) := signed characters
  let isWhole (character : Char) : Bool := character.isDigit || character = '_'
  if unsigned = "inf".toList || unsigned = "nan".toList then
    some (.real (String.ofList characters))
  else if isDecimal (unsigned.takeWhile isWhole) && isFraction (unsigned.dropWhile isWhole) &&
      (negative || !overflows characters) then
    some (.real (String.ofList characters))
  else none

/-! ## Dates and times -/

/-- The value of characters that must all be digits. -/
def digitsValue? (digits : List Char) : Option Nat :=
  if digits.all Char.isDigit then some (decimalValue digits) else none

/-- Whether digits spell a number within bounds. -/
def isWithin (least most : Nat) (digits : List Char) : Bool :=
  match digitsValue? digits with
  | some value => least ≤ value && value ≤ most
  | none => false

/-- The number of days of a month. -/
def daysOfMonth (year month : Nat) : Nat :=
  if month = 2 then
    if (year % 4 = 0 ∧ year % 100 ≠ 0) ∨ year % 400 = 0 then 29 else 28
  else if month ∈ [4, 6, 9, 11] then 30
  else 31

/-- The text after a date of the calendar. -/
def afterDate? : List Char → Option (List Char)
  | y₁ :: y₂ :: y₃ :: y₄ :: '-' :: m₁ :: m₂ :: '-' :: d₁ :: d₂ :: rest => do
      let year ← digitsValue? [y₁, y₂, y₃, y₄]
      let month ← digitsValue? [m₁, m₂]
      if 1 ≤ month ∧ month ≤ 12 ∧ isWithin 1 (daysOfMonth year month) [d₁, d₂] then
        some rest
      else none
  | _ => none

/-- The text after a time of the day, whose seconds may have a fraction. -/
def afterTime? : List Char → Option (List Char)
  | h₁ :: h₂ :: ':' :: m₁ :: m₂ :: ':' :: s₁ :: s₂ :: rest =>
      if isWithin 0 23 [h₁, h₂] && isWithin 0 59 [m₁, m₂] && isWithin 0 60 [s₁, s₂] then
        match rest with
        | '.' :: digit :: more =>
            if digit.isDigit then some (more.dropWhile Char.isDigit) else none
        | _ => some rest
      else none
  | _ => none

/-- Whether characters are an offset from universal time, or nothing. -/
def isOffset : List Char → Bool
  | [] => true
  | ['Z'] => true
  | ['z'] => true
  | [sign, h₁, h₂, ':', m₁, m₂] =>
      (sign = '+' || sign = '-') && isWithin 0 23 [h₁, h₂] && isWithin 0 59 [m₁, m₂]
  | _ => false

/-- Whether characters are a date, a time, or a date with a time. -/
def isMoment (characters : List Char) : Bool :=
  match afterDate? characters with
  | some [] => true
  | some (mark :: rest) =>
      (mark = 'T' || mark = 't' || mark = ' ') && ((afterTime? rest).map isOffset).getD false
  | none => afterTime? characters = some []

/-- The meaning of a word. -/
def Scalar.ofWord? (letters : List Char) : Option Scalar :=
  if letters = "true".toList then some (.bool true)
  else if letters = "false".toList then some (.bool false)
  else if isMoment letters then some (.moment (String.ofList letters))
  else
    match letters with
    | '0' :: 'x' :: digits => based? 16 isHexadecimal digits
    | '0' :: 'o' :: digits => based? 8 (fun digit => '0' ≤ digit && digit ≤ '7') digits
    | '0' :: 'b' :: digits => based? 2 (fun digit => digit = '0' || digit = '1') digits
    | _ => (decimal? letters).orElse fun _ => real? letters

end AssessmentChat.Toml
