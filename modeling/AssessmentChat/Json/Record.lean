import AssessmentChat.Json.Tree

namespace AssessmentChat.Json

/-!
# Reading typed values

A record is written as an object or as an array of its fields in order.  Fields
that the record does not have are passed over, and a field that it has may be
given only once.  What may be left out differs: an object may omit an optional
field, an array only the trailing fields that have a default.
-/

/-! ## Simple values -/

/-- The text of a string. -/
def text? : Json → Option String
  | .string spelled => spelled
  | _ => none

/-- The truth value of a Boolean. -/
def bool? : Json → Option Bool
  | .bool value => some value
  | _ => none

/-- The natural number below `limit` that is written with digits alone. -/
def natBelow? (limit : Nat) : Json → Option Nat
  | .number literal =>
      let digits := literal.toList
      if digits.all Char.isDigit && decimalValue digits < limit then some (decimalValue digits)
      else none
  | _ => none

/-- A natural number of 64 bits. -/
def nat64? : Json → Option Nat :=
  natBelow? UInt64.size

/-- A natural number of 32 bits. -/
def nat32? : Json → Option Nat :=
  natBelow? UInt32.size

/-- The items of an array, each read in the same way. -/
def list? (read : Json → Option α) : Json → Option (List α)
  | .array items => items.mapM read
  | _ => none

/-- A value that `null` stands for the absence of. -/
def nullable? (read : Json → Option α) : Json → Option (Option α)
  | .null => some none
  | value => (read value).map some

/-- The name that selects a case: the name alone, or the only key of an object of `null`. -/
def caseName? : Json → Option String
  | .string spelled => spelled
  | .object [(some name, .null)] => some name
  | _ => none

/--
The name that selects a case inside a value kept in full, where an empty object
does as well as `null`.
-/
def keptCaseName? : Json → Option String
  | .object [(some name, .object [])] => some name
  | value => value.caseName?

/-! ## Records -/

/-- The names that a field may have, the first being the one it is written with. -/
abbrev FieldNames := List String

/-- The fields of a record as found, in the order of their declaration. -/
structure Record where
  /-- Whether the fields were given by name. -/
  keyed : Bool
  fields : List (String × Option Json)

namespace Record

/-- The values given for one field. -/
def occurrences (names : FieldNames) (fields : List (Spelled × Json)) : List Json :=
  fields.filterMap fun (key, value) =>
    match key with
    | some name => if names.contains name then some value else none
    | none => none

/-- A field's only value, if it has one; a field that is repeated is refused. -/
def only? : List Json → Option (Option Json)
  | [] => some none
  | [value] => some (some value)
  | _ => none

/-- A record given by name. -/
def ofFields? (declared : List FieldNames) (fields : List (Spelled × Json)) : Option Record := do
  if fields.any fun (key, _) => key.isNone then none
  else
    let found ← declared.mapM fun names => do
      return (names.headD "", ← only? (occurrences names fields))
    return ⟨true, found⟩

/-- The declared fields beside the items given for them. -/
def pairUp : List FieldNames → List Json → List (String × Option Json)
  | [], _ => []
  | names :: declared, [] => (names.headD "", none) :: pairUp declared []
  | names :: declared, item :: items => (names.headD "", some item) :: pairUp declared items

/-- A record given by position. -/
def ofItems? (declared : List FieldNames) (items : List Json) : Option Record :=
  if items.length ≤ declared.length then some ⟨false, pairUp declared items⟩ else none

/-- What was given for a field. -/
def given (record : Record) (name : String) : Option Json :=
  (record.fields.lookup name).join

/-- A field that must be given. -/
def required (record : Record) (name : String) (read : Json → Option α) : Option α :=
  record.given name >>= read

/-- A field that may be `null`, and left out where fields are given by name. -/
def optional (record : Record) (name : String) (read : Json → Option α) :
    Option (Option α) :=
  match record.given name with
  | some value => value.nullable? read
  | none => if record.keyed then some none else none

/-- A field that may be left out. -/
def withDefault (record : Record) (name : String) (default : α) (read : Json → Option α) :
    Option α :=
  match record.given name with
  | some value => read value
  | none => some default

end Record

/-- The fields of a record, given by name or by position. -/
def record? (declared : List FieldNames) : Json → Option Record
  | .object fields => Record.ofFields? declared fields
  | .array items => Record.ofItems? declared items
  | _ => none

/--
The case of a tagged record and the rest of it.  The tag is the field `type` of
an object or the first item of an array.
-/
def tagged? : Json → Option (String × Json)
  | .object fields => do
      let tag ← (← Record.only? (Record.occurrences ["type"] fields)) >>= text?
      return (tag, .object (fields.filter fun (key, _) => key != some "type"))
  | .array (tag :: items) => do
      return (← tag.text?, .array items)
  | _ => none

end AssessmentChat.Json
