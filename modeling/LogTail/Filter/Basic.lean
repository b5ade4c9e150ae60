import LogTail.Filter.Template
import LogTail.Pattern.Search

/-!
# Filters

A record is kept if no exclude expression occurs in it and every include expression does. What is
delivered is the record, or the template filled with the groups of the first include expression; without
include expressions the record is the whole match.
-/

namespace LogTail

structure Filter where
  includes : List Pattern
  excludes : List Pattern
  template : Option Template

namespace Filter

def expression (text : String) : Except ConfigError Pattern :=
  match Pattern.compile? text with
  | some p => .ok p
  | none => .error (.badExpression text)

/-- The filter of expressions and a template; an empty template is none. -/
def ofTexts (includes excludes : List String) (template : Option String) : Except ConfigError Filter := do
  let includes ← includes.mapM expression
  let excludes ← excludes.mapM expression
  let template ← match template with
    | none => pure none
    | some text => if text.isEmpty then pure none else (Template.parse text).map some
  return ⟨includes, excludes, template⟩

/-- The text to deliver for a record, or nothing if the record is filtered out. -/
def apply (f : Filter) (record : String) : Option String :=
  if f.excludes.any (·.isMatch record) then none
  else
    match f.includes with
    | [] => some (match f.template with
      | some t => t.render [some record]
      | none => record)
    | first :: others =>
      match first.captures? record with
      | none => none
      | some groups =>
        if others.all (·.isMatch record) then
          some (match f.template with
            | some t => t.render groups
            | none => record)
        else none

end Filter

end LogTail
