import AssessmentChat.Toml.Scalar

namespace AssessmentChat

/-!
# TOML tables

A table remembers how it came about, because that decides who may still add to
it: a header completes a table once, a dotted key adds to tables that dotted keys
made, and a table written in braces is closed.
-/

/-- How a table came about. -/
inductive TableOrigin
  /-- Written in braces. -/
  | braces
  /-- Needed by the header of a table inside it. -/
  | implied
  /-- Needed by a dotted key. -/
  | dotted
  /-- Opened by its own header. -/
  | header
deriving Repr, DecidableEq

/-- A TOML value. -/
inductive Toml
  | text (content : String)
  | scalar (value : Toml.Scalar)
  | array (items : List Toml)
  | table (origin : TableOrigin) (fields : List (String × Toml))
  /-- The tables under one repeated header, the latest first. -/
  | tables (latestFirst : List Toml)
deriving Repr, Inhabited

namespace Toml

/-- The fields of a table under construction. -/
abbrev Fields := List (String × Toml)

/-- The fields with one of them set, in its place or else at the end. -/
def Fields.set (fields : Fields) (key : String) (value : Toml) : Fields :=
  match fields with
  | [] => [(key, value)]
  | (present, old) :: rest =>
      if present = key then (key, value) :: rest else (present, old) :: Fields.set rest key value

/-- The fields after the header of a table; there are none when it may not be opened. -/
def Fields.open? (fields : Fields) : List String → Option Fields
  | [] => none
  | [key] =>
      match fields.lookup key with
      | none => some (fields.set key (.table .header []))
      | some (.table .implied inner) => some (fields.set key (.table .header inner))
      | some _ => none
  | key :: next :: path =>
      match fields.lookup key with
      | none => do
          return fields.set key (.table .implied (← Fields.open? [] (next :: path)))
      | some (.table origin inner) => do
          if origin = .braces then none
          else return fields.set key (.table origin (← Fields.open? inner (next :: path)))
      | some (.tables (.table origin inner :: older)) => do
          return fields.set key
            (.tables (.table origin (← Fields.open? inner (next :: path)) :: older))
      | some _ => none

/-- The fields after the header of one more table of several. -/
def Fields.openAnother? (fields : Fields) : List String → Option Fields
  | [] => none
  | [key] =>
      match fields.lookup key with
      | none => some (fields.set key (.tables [.table .header []]))
      | some (.tables latestFirst) =>
          some (fields.set key (.tables (.table .header [] :: latestFirst)))
      | some _ => none
  | key :: next :: path =>
      match fields.lookup key with
      | none => do
          return fields.set key (.table .implied (← Fields.openAnother? [] (next :: path)))
      | some (.table origin inner) => do
          if origin = .braces then none
          else return fields.set key (.table origin (← Fields.openAnother? inner (next :: path)))
      | some (.tables (.table origin inner :: older)) => do
          return fields.set key
            (.tables (.table origin (← Fields.openAnother? inner (next :: path)) :: older))
      | some _ => none

/-- The fields after a key, which may be dotted, was given a value. -/
def Fields.assign? (fields : Fields) (value : Toml) : List String → Option Fields
  | [] => none
  | [key] =>
      match fields.lookup key with
      | none => some (fields.set key value)
      | some _ => none
  | key :: next :: path =>
      match fields.lookup key with
      | none => do
          return fields.set key (.table .dotted (← Fields.assign? [] value (next :: path)))
      | some (.table origin inner) => do
          let mayAdd := origin = .dotted ∨ (origin = .implied ∧ path ≠ [])
          if mayAdd then
            return fields.set key (.table origin (← Fields.assign? inner value (next :: path)))
          else none
      | some (.tables (.table origin inner :: older)) => do
          if path = [] then none
          else
            return fields.set key
              (.tables (.table origin (← Fields.assign? inner value (next :: path)) :: older))
      | some _ => none

/-- The fields after a change to the table that a header opened. -/
def Fields.within? (fields : Fields) (change : Fields → Option Fields) :
    List String → Option Fields
  | [] => change fields
  | key :: path =>
      match fields.lookup key with
      | some (.table origin inner) => do
          return fields.set key (.table origin (← Fields.within? inner change path))
      | some (.tables (.table origin inner :: older)) => do
          return fields.set key
            (.tables (.table origin (← Fields.within? inner change path) :: older))
      | _ => none

end Toml

end AssessmentChat
