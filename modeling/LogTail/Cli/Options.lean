/-!
# Options of a command line

A command line is read from left to right. An option's value follows it, or is attached with `=`; an
option that was not given may have its value in a variable of the environment.

* A value that follows its option is looked at once the next option begins or the line ends, so that of
  two faults an option that is not known comes first.
* Options are setters on a record, so the same reader serves every command.
-/

namespace LogTail.Cli

/-- Why the arguments of a command line are not carried out. -/
inductive Stop where
  | helpAsked
  | versionAsked
  | missingArgument
  | missingCommand
  | unknownArgument
  | repeatedArgument
  | surplusValue
  | invalidValue
  | invalidNumber
  deriving DecidableEq

def Stop.message : Stop → String
  | .helpAsked => "usage: logrt [start|state|version] [options]"
  | .versionAsked => "the version was asked for"
  | .missingArgument => "a required argument was not provided"
  | .missingCommand => "a command is required"
  | .unknownArgument => "unexpected argument found"
  | .repeatedArgument => "an argument cannot be used multiple times"
  | .surplusValue => "unexpected value for an argument that takes none"
  | .invalidValue => "invalid value"
  | .invalidNumber => "invalid number"

inductive Arity where
  /-- Nothing: giving it sets it to `true`. -/
  | flag
  /-- One value; the option is given once. -/
  | single
  /-- One value; the option may be given again. -/
  | repeatable
  deriving DecidableEq

/-- An option: its name without hyphens, a letter that stands for it, its variable, and what its value
does to a record. -/
structure Setting (α : Type) where
  name : String
  letter : Option Char := none
  variableName : Option String := none
  arity : Arity := .single
  required : Bool := false
  set : String → α → Except Stop α

/-- A line that is being read: the record so far, the options that were given, the option whose value
is not yet looked at, or not yet seen, and whether `--` ended the options. -/
structure Line (α : Type) where
  record : α
  given : List String := []
  pending : Option (Setting α × Option String) := none
  ended : Bool := false

namespace Line

variable {α : Type}

/-- Sets an option. One that takes a single value cannot be given twice. -/
def assign (r : Line α) (s : Setting α) (value : String) : Except Stop (Line α) :=
  if s.arity ≠ .repeatable ∧ r.given.contains s.name then .error .repeatedArgument
  else (s.set value r.record).map fun record => { r with record := record, given := s.name :: r.given }

def settle (r : Line α) : Except Stop (Line α) :=
  match r.pending with
  | none => .ok r
  | some (_, none) => .error .invalidValue
  | some (s, some value) => { r with pending := none }.assign s value

def awaitsValue (r : Line α) : Bool :=
  match r.pending with
  | some (_, none) => !r.ended
  | _ => false

def option (settings : List (Setting α)) (r : Line α) (name : String) (attached : Option String) :
    Except Stop (Line α) :=
  match settings.find? fun s => s.name == name, attached with
  | none, _ => .error .unknownArgument
  | some s, some value =>
    if s.arity = .flag then .error .surplusValue else r.settle.bind fun r => r.assign s value
  | some s, none =>
    r.settle.bind fun r =>
      if s.arity = .flag then r.assign s "true" else .ok { r with pending := some (s, none) }

/-- Reads letters after one hyphen; only the first counts, as every letter ends the line. -/
def letters (settings : List (Setting α)) (r : Line α) (letter : Char) : Except Stop (Line α) :=
  match settings.find? fun s => s.letter = some letter with
  | none => .error .unknownArgument
  | some s => r.settle.bind fun r => r.assign s "true"

def splitAttached (cs : List Char) : String × Option String :=
  let name := cs.takeWhile (· ≠ '=')
  let attached := if name.length < cs.length then some (cs.drop (name.length + 1)) else none
  (String.ofList name, attached.map String.ofList)

def step (settings : List (Setting α)) (r : Line α) (argument : String) : Except Stop (Line α) :=
  if r.ended then .error .unknownArgument
  else
    match argument.toList with
    | ['-', '-'] => .ok { r with ended := true }
    | '-' :: '-' :: cs => let (name, attached) := splitAttached cs; r.option settings name attached
    | '-' :: c :: _ => r.letters settings c
    | _ =>
      match r.pending with
      | some (s, none) => .ok { r with pending := some (s, some argument) }
      | _ => .error .unknownArgument

/-- Reads arguments up to one that is the name of a command; gives that name and what follows it. -/
def arguments (settings : List (Setting α)) (commands : List String) (r : Line α) :
    List String → Except Stop (Line α × Option (String × List String))
  | [] => .ok (r, none)
  | argument :: rest =>
    if commands.contains argument && !r.awaitsValue && !r.ended then .ok (r, some (argument, rest))
    else (r.step settings argument).bind fun r => arguments settings commands r rest

def fromVariable (environment : String → Option String) (r : Line α) (s : Setting α) :
    Except Stop (Line α) :=
  if r.given.contains s.name then .ok r
  else
    match s.variableName.bind environment with
    | none => .ok r
    | some value => r.assign s value

/-- The record at the end of a line: variables stand in for options that were not given, and then no
required option may be missing. -/
def finish (settings : List (Setting α)) (environment : String → Option String) (r : Line α) :
    Except Stop α := do
  let r ← r.settle
  let r ← settings.foldlM (fromVariable environment) r
  if settings.any fun s => s.required && !r.given.contains s.name then .error .missingArgument
  else return r.record

end Line

def help {α : Type} : Setting α :=
  { name := "help", letter := some 'h', arity := .flag, set := fun _ _ => .error .helpAsked }

def parse {α : Type} (settings : List (Setting α)) (environment : String → Option String) (start : α)
    (line : List String) : Except Stop α := do
  let (r, _) ← ({ record := start } : Line α).arguments settings [] line
  r.finish settings environment

end LogTail.Cli
