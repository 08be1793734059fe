import AssessmentChat.Fault
import AssessmentChat.Json.Record

namespace AssessmentChat

/-!
# Wire forms

A type on the wire is written as a JSON value and read from one.  Most types are
read from a text as deep as it goes; a type with a tag is kept in full first.
-/

/-- A type with a form on the wire. -/
class Wire (α : Type) where
  toJson : α → Json
  ofJson? : Json → Option α
  /-- The value of a text, before it is read as the type. -/
  parse? : String → Option Json := Json.parse?

namespace Wire

/-- The text of a value. -/
def write [Wire α] (value : α) : String :=
  (toJson value).compact

/-- The value of a text. -/
def read? (α : Type) [Wire α] (text : String) : Option α := do
  ofJson? (← parse? α text)

/-- The value of a text, or the fault of a text that has none. -/
def read (α : Type) [Wire α] (text : String) : Except Fault α :=
  match read? α text with
  | some value => .ok value
  | none => .error .malformedJson

/-- The member of a list whose name selects it. -/
def named? (members : List α) (name : α → String) (selected : String) : Option α :=
  members.find? fun member => name member = selected

end Wire

instance : Wire String where
  toJson := .text
  ofJson? := Json.text?

/-- A natural number of 64 bits on the wire. -/
instance : Wire UInt64 where
  toJson value := .nat value.toNat
  ofJson? json := json.nat64?.map UInt64.ofNat

/-- A natural number of 32 bits on the wire. -/
instance : Wire UInt32 where
  toJson value := .nat value.toNat
  ofJson? json := json.nat32?.map UInt32.ofNat

end AssessmentChat
