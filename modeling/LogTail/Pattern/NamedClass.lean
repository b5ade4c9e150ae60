import LogTail.Text.Property
import LogTail.Text.Script

/-!
# Classes of characters by name

A class is named by a property, a general category or a script of Unicode, or by the value of a property: `L`,
`Greek`, `White_Space`, `gc=Lu`, `sc:Latin`, `Script!=Latin`. Names are read loosely. Of the properties that have
values only `gc` and `sc` are known.
-/

namespace LogTail.Pattern

open LogTail.Text (RangeTable)

/-- A name as it is looked up: in small letters, without blanks, hyphens, underscores and characters beyond ASCII, and
without `is` in front. -/
def looseName (name : List Char) : List Char :=
  let prefixed := (name.take 2).map Char.toLower = ['i', 's']
  let kept := (if prefixed then name.drop 2 else name).filter fun c =>
    decide (c.toNat < 0x80) && c ≠ ' ' && c ≠ '_' && c ≠ '-'
  let small := kept.map Char.toLower
  -- the short name of a property that has no class, and not that of a category
  if prefixed && small = ['c'] then ['i', 's', 'c'] else small

def lookup? (entries : List (List String × RangeTable)) (name : List Char) : Option RangeTable :=
  (entries.find? fun e => e.1.contains (String.ofList name)).map (·.2)

/-- The class of a name that stands alone. -/
def namedClass? (name : List Char) : Option RangeTable :=
  let name := looseName name
  (lookup? Text.properties name).or ((lookup? Text.generalCategories name).or (lookup? Text.scripts name))

/-- The class of the characters for which a property has a value. -/
def valueClass? (property value : List Char) : Option RangeTable :=
  match String.ofList (looseName property) with
  | "gc" | "generalcategory" => lookup? Text.generalCategories (looseName value)
  | "sc" | "script" => lookup? Text.scripts (looseName value)
  | _ => none

def cut? (separator : List Char) : List Char → Option (List Char × List Char)
  | [] => none
  | c :: cs =>
    if separator.isPrefixOf (c :: cs) then some ([], (c :: cs).drop separator.length)
    else (cut? separator cs).map fun (front, rest) => (c :: front, rest)

/-- The class of a text between braces, and whether all characters but those of the class are meant. -/
def bracedClass? (text : List Char) : Option (Bool × RangeTable) :=
  match cut? ['!', '='] text with
  | some (property, value) => (valueClass? property value).map (true, ·)
  | none =>
    match (cut? [':'] text).or (cut? ['='] text) with
    | some (property, value) => (valueClass? property value).map (false, ·)
    | none => (namedClass? text).map (false, ·)

end LogTail.Pattern
