import GrammarTables.Command.FlagFile
import GrammarTables.Command.Suggestion

/-!
# Command lines

Command lines name values by flags: `--name=value` or `--name value`, with one dash or
two.  A switch needs no value, and is turned off by `--noname`.  Of several values for a
flag the last one counts.  Other arguments may stand between flags and do not matter, and
two dashes end the flags.  A flag that is not defined is refused, and those that look like
it are suggested, unless the command line permits it.
-/

namespace GrammarTables.Command

/-- What an argument is. -/
inductive Argument where
  | flag (name : String) (value : Option String)
  | positional
  | ending
  deriving DecidableEq, Repr

namespace Argument

/-- Reads an argument.  Nothing but dashes, as in a lone dash, is no flag. -/
def read (argument : String) : Argument :=
  let ofBody (body : List Char) : Argument :=
    let name := body.takeWhile (· != '=')
    let value :=
      match body.dropWhile (· != '=') with
      | [] => none
      | _ :: value => some (String.ofList value)
    if name.isEmpty then positional else flag (String.ofList name) value
  match argument.toList with
  | ['-', '-'] => ending
  | '-' :: '-' :: body => ofBody body
  | '-' :: body => ofBody body
  | _ => positional

end Argument

/-- What a command line says: the values given to flags, in order, the names of flags that
it permits, and the flags that are not defined. -/
structure Assignments where
  values : List (String × FlagValue)
  permitted : List String
  unknown : List String
  deriving DecidableEq, Repr

namespace Assignments

/-- The assignments of an empty command line. -/
def none : Assignments := ⟨[], [], []⟩

/-- The assignments with an earlier one in front. -/
def assign (name : String) (value : FlagValue) (later : Assignments) : Assignments :=
  { later with values := (name, value) :: later.values }

/-- The assignments with more permitted names, each also with the mark of a switch that is
turned off. -/
def permit (names : String) (later : Assignments) : Assignments :=
  let names := FlagValue.splitCommas names
  { later with permitted := names ++ names.map ("no" ++ ·) ++ later.permitted }

/-- The flag that permits flags which are not defined. -/
def permittingFlag : String := "undefok"

def definition? (defined : List FlagDefinition) (name : String) : Option FlagDefinition :=
  defined.find? fun definition => definition.names.contains name

/-- The switch that a name turns off. -/
def turnedOff? (defined : List FlagDefinition) (name : String) : Option FlagDefinition :=
  match name.toList with
  | 'n' :: 'o' :: rest =>
    (definition? defined (String.ofList rest)).filter fun definition =>
      definition.kind == .switch
  | _ => Option.none

/-- Reads the arguments of a command line. -/
def read (defined : List FlagDefinition) : List String → Except FlagError Assignments
  | [] => .ok none
  | argument :: rest =>
    let set (definition : FlagDefinition) (value : String)
        (later : Except FlagError Assignments) : Except FlagError Assignments := do
      let value ← FlagValue.read definition value
      return (← later).assign definition.name value
    match Argument.read argument with
    | .ending => .ok none
    | .positional => read defined rest
    | .flag name given =>
      if name == permittingFlag then
        match given, rest with
        | some names, rest => (read defined rest).map (permit names)
        | Option.none, names :: rest => (read defined rest).map (permit names)
        | Option.none, [] => .error (.missingValue argument)
      else
        match definition? defined name with
        | some definition =>
          if definition.kind == .switch && given.isNone then
            set definition "true" (read defined rest)
          else
            match given, rest with
            | some value, rest => set definition value (read defined rest)
            | Option.none, value :: rest => set definition value (read defined rest)
            | Option.none, [] => .error (.missingValue argument)
        | Option.none =>
          match turnedOff? defined name with
          | some definition =>
            if given.isSome then .error (.unexpectedValue argument)
            else set definition "false" (read defined rest)
          | Option.none =>
            (read defined rest).map fun later =>
              { later with unknown := name :: later.unknown }

end Assignments

/-- The values of flags on a command line. -/
structure Flags where
  values : List (String × FlagValue)
  deriving DecidableEq, Repr

namespace Flags

/-- Reads a command line.  What is wrong with a value counts before a flag that is not
defined. -/
def read (defined : List FlagDefinition) (workspace : Workspace) (arguments : List String) :
    Except FlagError Flags := do
  let arguments ← FlagFile.expand workspace arguments
  let assignments ← Assignments.read defined arguments
  match assignments.unknown.find? fun name => !assignments.permitted.contains name with
  | some name =>
    .error (.unknown name (suggestions (defined.flatMap FlagDefinition.names) name))
  | none => return ⟨assignments.values⟩

/-- The last text given to a flag. -/
def get? (flags : Flags) (name : String) : Option String :=
  flags.values.reverse.findSome? fun
    | (flag, .text value) => if flag == name then some value else none
    | _ => none

/-- The severity from which events are reported: the last one set, or else that of
information. -/
def severity (flags : Flags) : Nat :=
  (flags.values.reverse.findSome? fun
    | (_, .reporting severity) => severity
    | _ => none).getD Level.info.severity

/-- Whether an event is reported. -/
def reports (flags : Flags) (event : Event) : Bool := flags.severity ≤ event.level.severity

end Flags

end GrammarTables.Command
