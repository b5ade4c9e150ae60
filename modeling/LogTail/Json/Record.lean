import LogTail.Json.Basic

/-!
# Records in JSON

A record is written as an object. It is read from an object, whose foreign entries count for nothing
and whose own entries may not be repeated, or from an array that lists its fields in order.
-/

namespace LogTail.Json

/-- The fields of a record, as the value of each name that is present. -/
structure Fields where
  values : List (String × Json)

def toFields? (names : List String) : Json → Option Fields
  | .object entries =>
    let own := entries.filter fun e => names.contains e.1
    if (own.map (·.1)).Nodup then some ⟨own⟩ else none
  | .array items => if items.length ≤ names.length then some ⟨names.zip items⟩ else none
  | _ => none

namespace Fields

def find? (fs : Fields) (name : String) : Option Json :=
  (fs.values.find? fun e => e.1 == name).map (·.2)

def required? {α : Type} (fs : Fields) (name : String) (read : Json → Option α) : Option α :=
  (fs.find? name).bind read

/-- A field that has a value of its own when it is absent. -/
def optional? {α : Type} (fs : Fields) (name : String) (absent : α) (read : Json → Option α) :
    Option α :=
  match fs.find? name with
  | none => some absent
  | some j => read j

end Fields

end LogTail.Json
