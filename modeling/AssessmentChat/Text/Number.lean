namespace AssessmentChat

/-!
# Numbers in plain text

A natural number as a person types it: decimal digits, with an optional plus
sign, below a limit.
-/

/-- The number that decimal digits denote. -/
def decimalValue (digits : List Char) : Nat :=
  digits.foldl (fun value digit => 10 * value + (digit.toNat - '0'.toNat)) 0

/-- The digits after an optional plus sign. -/
def withoutPlus : List Char → List Char
  | '+' :: rest => rest
  | characters => characters

/-- The natural number below `limit` that a text spells. -/
def naturalBelow? (limit : Nat) (text : String) : Option Nat :=
  let digits := withoutPlus text.toList
  if !digits.isEmpty && digits.all Char.isDigit && decimalValue digits < limit then
    some (decimalValue digits)
  else none

end AssessmentChat
