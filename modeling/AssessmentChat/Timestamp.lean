import AssessmentChat.Text.Blank
import AssessmentChat.Text.Number

namespace AssessmentChat

/-!
# Timestamps

Moments of universal time, read from a date with an offset and written without
one.  A leap second is kept as the second before it with a fraction of a second
or more.
-/

/-- A moment: seconds since 1970 and nanoseconds; a leap second has more than 10^9 of them. -/
structure Timestamp where
  seconds : Int
  nanoseconds : Nat
deriving Repr, DecidableEq

namespace Timestamp

/-- The number of nanoseconds in a second. -/
def nanosecondsPerSecond : Nat := 1000000000

/-! ## Days of the calendar -/

/-- The days from the first of March of year zero to a day of the proleptic calendar, less the
719468 that lead to the first of January 1970. -/
def daysOfDate (year : Int) (month day : Nat) : Int :=
  let shifted := if month ≤ 2 then year - 1 else year
  let monthFromMarch := (month + 9) % 12
  let dayOfYear : Int := ((153 * monthFromMarch + 2) / 5 + day - 1 : Nat)
  let era := shifted.fdiv 400
  let yearOfEra := shifted - era * 400
  let dayOfEra := yearOfEra * 365 + yearOfEra.fdiv 4 - yearOfEra.fdiv 100 + dayOfYear
  era * 146097 + dayOfEra - 719468

/-- The year, month and day of a number of days since 1970. -/
def dateOfDays (days : Int) : Int × Nat × Nat :=
  let shifted := days + 719468
  let era := shifted.fdiv 146097
  let dayOfEra := (shifted - era * 146097).toNat
  let yearOfEra := (dayOfEra - dayOfEra / 1460 + dayOfEra / 36524 - dayOfEra / 146096) / 365
  let dayOfYear := dayOfEra - (365 * yearOfEra + yearOfEra / 4 - yearOfEra / 100)
  let monthFromMarch := (5 * dayOfYear + 2) / 153
  let day := dayOfYear - (153 * monthFromMarch + 2) / 5 + 1
  let month := if monthFromMarch < 10 then monthFromMarch + 3 else monthFromMarch - 9
  let year := yearOfEra + era * 400
  (if month ≤ 2 then year + 1 else year, month, day)

/-- Whether a year has a twenty-ninth of February. -/
def isLeapYear (year : Int) : Bool :=
  year % 4 = 0 && (year % 100 != 0 || year % 400 = 0)

/-- The number of days in a month. -/
def daysInMonth (year : Int) (month : Nat) : Nat :=
  if month = 2 then if isLeapYear year then 29 else 28
  else if month = 4 || month = 6 || month = 9 || month = 11 then 30
  else 31

/-- The first year of the calendar. -/
def firstYear : Int := -262143

/-- The last year of the calendar. -/
def lastYear : Int := 262142

/-! ## Writing -/

/-- The digits of a number, filled up with zeros on the left. -/
def padded (width value : Nat) : String :=
  let digits := toString value
  String.ofList (List.replicate (width - digits.length) '0') ++ digits

/-- A year: four digits, and a sign where four digits do not hold it. -/
def writeYear (year : Int) : String :=
  if 0 ≤ year ∧ year ≤ 9999 then padded 4 year.toNat
  else if year < 0 then "-" ++ padded 4 year.natAbs
  else "+" ++ padded 4 year.natAbs

/-- A fraction of a second in the fewest of three, six and nine digits. -/
def writeFraction (nanoseconds : Nat) : String :=
  if nanoseconds = 0 then ""
  else if nanoseconds % 1000000 = 0 then "." ++ padded 3 (nanoseconds / 1000000)
  else if nanoseconds % 1000 = 0 then "." ++ padded 6 (nanoseconds / 1000)
  else "." ++ padded 9 nanoseconds

/-- The text of a moment in universal time. -/
def write (moment : Timestamp) : String :=
  let (year, month, day) := dateOfDays (moment.seconds.fdiv 86400)
  let second := (moment.seconds.fmod 86400).toNat
  let leap := moment.nanoseconds / nanosecondsPerSecond
  writeYear year ++ "-" ++ padded 2 month ++ "-" ++ padded 2 day ++ "T" ++
    padded 2 (second / 3600) ++ ":" ++ padded 2 (second / 60 % 60) ++ ":" ++
    padded 2 (second % 60 + leap) ++
    writeFraction (moment.nanoseconds % nanosecondsPerSecond) ++ "Z"

/-! ## Reading -/

/-- A number of at most `width` digits and at least one, and the text after it. -/
def digits? (width : Nat) (text : List Char) : Option (List Char × List Char) :=
  let digits := (text.take width).takeWhile Char.isDigit
  if digits.isEmpty then none else some (digits, text.drop digits.length)

/-- A number with blanks before it, within bounds. -/
def component? (least greatest : Nat) (text : List Char) : Option (Nat × List Char) := do
  let (digits, rest) ← digits? 2 (trimStart text)
  let value := decimalValue digits
  if least ≤ value ∧ value ≤ greatest then some (value, rest) else none

/-- A year: up to four digits, or any number of them after a sign. -/
def year? (text : List Char) : Option (Int × List Char) :=
  match trimStart text with
  | '-' :: rest => do
      let (digits, rest) ← digits? rest.length rest
      return (-(decimalValue digits : Int), rest)
  | '+' :: rest => do
      let (digits, rest) ← digits? rest.length rest
      return (decimalValue digits, rest)
  | rest => do
      let (digits, rest) ← digits? 4 rest
      return (decimalValue digits, rest)

/-- The text after blanks and the given character. -/
def separator? (expected : Char) (text : List Char) : Option (List Char) :=
  match trimStart text with
  | found :: rest => if found = expected then some rest else none
  | [] => none

/-- Nanoseconds from the digits of a fraction, of which the ninth is the last that counts. -/
def fraction? (text : List Char) : Option (Nat × List Char) :=
  match text with
  | '.' :: rest => do
      let (digits, rest) ← digits? 9 rest
      return (decimalValue digits * Nat.pow 10 (9 - digits.length), rest.dropWhile Char.isDigit)
  | rest => some (0, rest)

/-- The seconds that a pair of digits counts for, and the text after it. -/
def pair? (greatestTens : Char) (unit : Int) : List Char → Option (Int × List Char)
  | tens :: ones :: rest =>
      if tens.isDigit && ones.isDigit && tens ≤ greatestTens then
        some (unit * decimalValue [tens, ones], rest)
      else none
  | _ => none

/-- An offset from universal time in seconds. -/
def offset? (text : List Char) : Option (Int × List Char) :=
  match text with
  | 'Z' :: rest | 'z' :: rest => some (0, rest)
  | sign :: rest => do
      let positive ←
        if sign = '+' then some true
        else if sign = '-' || sign = '−' then some false
        else none
      let (hours, rest) ← pair? '9' 3600 rest
      let rest := rest.dropWhile fun character => character = ':' || isBlank character
      let (minutes, rest) ← pair? '5' 60 rest
      let seconds := hours + minutes
      if seconds < 86400 then return (if positive then seconds else -seconds, rest) else none
  | [] => none

/-- An offset, which may be spelled as the name of universal time. -/
def zone? (text : List Char) : Option (Int × List Char) :=
  match text with
  | u :: t :: c :: rest =>
      if "UTC".toList = [u.toUpper, t.toUpper, c.toUpper] then some (0, rest) else offset? text
  | _ => offset? text

/-- The character between a date and a time. -/
def afterDate? : List Char → Option (List Char)
  | 'T' :: rest | 't' :: rest | ' ' :: rest => some rest
  | _ => none

/--
Reads a date, a time and an offset.  Blanks may stand before each number and
sign, and the numbers may be short.  A day that the calendar does not have is
refused.
-/
def read? (text : String) : Option Timestamp := do
  let (year, rest) ← year? text.toList
  let (month, rest) ← component? 1 12 (← separator? '-' rest)
  let (day, rest) ← component? 1 31 (← separator? '-' rest)
  let (hour, rest) ← component? 0 23 (← afterDate? rest)
  let (minute, rest) ← component? 0 59 (← separator? ':' rest)
  let (second, rest) ← component? 0 60 (← separator? ':' rest)
  let (fraction, rest) ← fraction? rest
  let (offset, rest) ← zone? (trimStart rest)
  if (trimStart rest).isEmpty && firstYear ≤ year && year ≤ lastYear &&
      day ≤ daysInMonth year month then
    let leap := if second = 60 then nanosecondsPerSecond else 0
    let seconds :=
      daysOfDate year month day * 86400 + hour * 3600 + minute * 60 + min second 59 - offset
    let (universalYear, _, _) := dateOfDays (seconds.fdiv 86400)
    if firstYear ≤ universalYear && universalYear ≤ lastYear then
      return ⟨seconds, fraction + leap⟩
    else none
  else none

end Timestamp

end AssessmentChat
