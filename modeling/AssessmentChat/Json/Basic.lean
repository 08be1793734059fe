namespace AssessmentChat

/-!
# JSON values

A value keeps what its text says: numbers keep their digits, fields keep their
order and their repetitions.
-/

/--
What a JSON string spells.  There is no text when the string escapes one half
of a surrogate pair without the other.
-/
abbrev Spelled := Option String

/-- A JSON value as it is written. -/
inductive Json
  | null
  | bool (value : Bool)
  | number (literal : String)
  | string (spelled : Spelled)
  | array (items : List Json)
  | object (fields : List (Spelled × Json))
deriving Repr, BEq, Inhabited

namespace Json

/-- The JSON string that spells a text. -/
def text (content : String) : Json :=
  .string (some content)

/-- The JSON number for a natural number. -/
def nat (value : Nat) : Json :=
  .number (toString value)

/-- The text, or `null` when there is none. -/
def optionalText : Option String → Json
  | some content => .text content
  | none => .null

/-- An object with the given fields, in order. -/
def record (fields : List (String × Json)) : Json :=
  .object (fields.map fun (name, value) => (some name, value))

end Json

end AssessmentChat
