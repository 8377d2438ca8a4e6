import GrammarTables.Command.Workspace
import GrammarTables.Event
import GrammarTables.Number.Numeral
import GrammarTables.Text.CaseFolding

/-!
# Flags

What can be set on a command line: texts, switches, and how much a command reports.  Each
kind of flag has its own values, and says of a text that is none of them what is wrong.
The flags for logging, profiling and debugging belong to every command; apart from those
that set how much is reported they change nothing here.
-/

namespace GrammarTables.Command

/-- What the value of a flag is. -/
inductive FlagKind where
  | text
  | switch
  /-- How many of the less serious events are reported. -/
  | verbosity
  /-- For loggers by name, how serious an event must be. -/
  | loggerLevels
  /-- How serious an event must be to reach the standard error. -/
  | threshold
  deriving DecidableEq, Repr

/-- A flag that can be set. -/
structure FlagDefinition where
  name : String
  kind : FlagKind
  /-- The other names of the flag. -/
  aliases : List String
  deriving DecidableEq, Repr

namespace FlagDefinition

/-- A flag with a text as its value. -/
def ofText (name : String) : FlagDefinition := ⟨name, .text, []⟩

/-- A flag that is set or not. -/
def ofSwitch (name : String) : FlagDefinition := ⟨name, .switch, []⟩

def names (definition : FlagDefinition) : List String := definition.name :: definition.aliases

def common : List FlagDefinition :=
  [.ofSwitch "logtostderr", .ofSwitch "alsologtostderr", .ofText "log_dir",
   ⟨"verbosity", .verbosity, ["v"]⟩, ⟨"logger_levels", .loggerLevels, []⟩,
   ⟨"stderrthreshold", .threshold, []⟩, .ofSwitch "showprefixforinfo",
   .ofSwitch "run_with_pdb", ⟨"pdb_post_mortem", .switch, ["pdb"]⟩,
   .ofSwitch "run_with_profiling", .ofText "profile_file",
   .ofSwitch "use_cprofile_for_profiling", .ofSwitch "only_check_args"]

end FlagDefinition

/-- What is wrong with the text for a value. -/
inductive ValueProblem where
  | notSwitch
  | notInteger (base : Nat)
  | tooManyDigits (count : Nat)
  | noLevel
  deriving DecidableEq, Repr

/-- The greatest length of a quoted text in the message about an integer. -/
def quotedValueLimit : Nat := 200

def ValueProblem.message (value : String) : ValueProblem → String
  | notSwitch => "('Non-boolean argument to boolean flag', " ++ Text.quoted value ++ ")"
  | notInteger base =>
    "invalid literal for int() with base " ++ toString base ++ ": " ++
      String.ofList ((Text.quotedChars value.toList).take quotedValueLimit)
  | tooManyDigits count =>
    "Exceeds the limit (4300 digits) for integer string conversion: value has " ++
      toString count ++ " digits; use sys.set_int_max_str_digits() to increase the limit"
  | noLevel => "not enough values to unpack (expected 2, got 1)"

/-- A reason to refuse a command line. -/
inductive FlagError where
  /-- The command line ends where the value of a flag is expected. -/
  | missingValue (argument : String)
  /-- A flag is not defined. -/
  | unknown (name : String) (suggestions : List String)
  /-- A text is no value of a flag. -/
  | illegalValue (flag value : String) (problem : ValueProblem)
  /-- A switch is turned off and given a value. -/
  | unexpectedValue (argument : String)
  /-- No level has the name. -/
  | unknownLevel (name : String)
  /-- No threshold has the name. -/
  | unknownThreshold (value : String)
  /-- The command line ends where the name of a flag file is expected. -/
  | missingFile
  /-- A line of a flag file refers to another one but does not name it. -/
  | namelessFile (line : String)
  | unreadableFile (error : FileError)
  | undecodableFile (error : Text.Utf8.DecodeError)
  deriving DecidableEq, Repr

def FlagError.message : FlagError → String
  | missingValue argument => "Missing value for flag " ++ argument
  | unknown name suggestions =>
    "Unknown command line flag '" ++ name ++ "'" ++
      (if suggestions.isEmpty then ""
        else ". Did you mean: " ++ ", ".intercalate suggestions ++ " ?")
  | illegalValue flag value problem =>
    "flag --" ++ flag ++ "=" ++ value ++ ": " ++ problem.message value
  | unexpectedValue argument => argument ++ " does not take an argument"
  | unknownLevel name => "Unknown level: " ++ Text.quoted name
  | unknownThreshold value =>
    "--stderrthreshold must be one of (case-insensitive) 'debug', 'info', 'warning', " ++
      "'error', 'fatal', or '0', '1', '2', '3', not '" ++ value ++ "'"
  | missingFile => "--flagfile with no argument"
  | namelessFile line => "Hit illegal --flagfile type: " ++ line
  | unreadableFile (.entry problem name) =>
    "ERROR:: Unable to open flagfile: " ++ (FileError.entry problem name).message
  | unreadableFile .embeddedNull => FileError.embeddedNull.message
  | undecodableFile error => error.message

inductive FlagValue where
  | text (value : String)
  | switch (isOn : Bool)
  /-- The severity from which events are reported, if the flag sets it. -/
  | reporting (severity : Option Nat)
  deriving DecidableEq, Repr

namespace FlagValue

/-- The severity from which events are reported at a verbosity.  Nothing is less serious
than information. -/
def severityOfVerbosity (verbosity : Int) : Nat :=
  if 0 ≤ verbosity then Level.info.severity
  else if verbosity = -1 then Level.warning.severity
  else if verbosity = -2 then Level.error.severity
  else Level.error.severity + 1

/-- Reads an integer: in base sixteen or eight after the prefixes for these, and else in
base ten. -/
def readInteger (value : String) : Except ValueProblem Int :=
  let inBase (base : Nat) : Except ValueProblem Int :=
    match Numeral.readPrefixed base value with
    | some number => .ok number
    | none => .error (.notInteger base)
  match value.toList with
  | '0' :: 'x' :: _ :: _ => inBase 16
  | '0' :: 'o' :: _ :: _ => inBase 8
  | _ =>
    match Numeral.readInt value with
    | .ok number => .ok number
    | .error .malformed => .error (.notInteger 10)
    | .error (.tooManyDigits count) => .error (.tooManyDigits count)

def readSwitch (value : String) : Except ValueProblem Bool :=
  let word := Text.lowerCase value
  if ["true", "t", "1"].contains word then .ok true
  else if ["false", "f", "0"].contains word then .ok false
  else .error .notSwitch

/-- The parts of a text between the places where a character stands. -/
def splitAt (mark : Char) : List Char → List (List Char)
  | [] => [[]]
  | character :: rest =>
    if character == mark then [] :: splitAt mark rest
    else
      match splitAt mark rest with
      | part :: parts => (character :: part) :: parts
      | [] => [[character]]

/-- The parts of a text between commas, each trimmed. -/
def splitCommas (value : String) : List String :=
  (splitAt ',' value.toList).map fun part => Text.trim (String.ofList part)

/-- Reads the levels of loggers: a name and a level, divided by a colon, for each. -/
def readLoggerLevels (value : String) : Except ValueProblem (List (String × String)) :=
  ((splitCommas value).filter (!·.isEmpty)).mapM fun part =>
    let name := part.toList.takeWhile (· != ':')
    match part.toList.dropWhile (· != ':') with
    | [] => .error .noLevel
    | _ :: level => .ok (Text.trim (String.ofList name), Text.trim (String.ofList level))

/-- The severities that levels of loggers stand for.  A logger without a level of its own
reports what its parent does: warnings and what is more serious. -/
def levelSeverities : List (String × Nat) :=
  [("CRITICAL", Level.error.severity + 1), ("FATAL", Level.error.severity + 1),
   ("ERROR", Level.error.severity), ("WARN", Level.warning.severity),
   ("WARNING", Level.warning.severity), ("INFO", Level.info.severity),
   ("DEBUG", Level.info.severity), ("NOTSET", Level.warning.severity)]

/-- The name of the logger to which commands report. -/
def loggerName : String := "absl"

/-- The last level of each logger, in the order of the loggers. -/
def lastLevels (levels : List (String × String)) : List (String × String) :=
  levels.map fun level => (level.1, (levels.reverse.lookup level.1).getD level.2)

/-- The severity that levels of loggers set for the events of commands. -/
def severityOfLevels (levels : List (String × String)) : Except FlagError (Option Nat) :=
  let last := lastLevels levels
  match last.find? fun level => (levelSeverities.lookup level.2).isNone with
  | some level => .error (.unknownLevel level.2)
  | none => .ok ((last.lookup loggerName).bind fun level => levelSeverities.lookup level)

/-- The names of thresholds. -/
def thresholds : List String :=
  ["0", "1", "2", "3", "debug", "info", "warning", "warn", "error", "fatal"]

/-- Reads the value of a flag. -/
def read (definition : FlagDefinition) (value : String) : Except FlagError FlagValue :=
  let illegal (problem : ValueProblem) : FlagError :=
    .illegalValue definition.name value problem
  match definition.kind with
  | .text => .ok (text value)
  | .switch => ((readSwitch value).mapError illegal).map switch
  | .verbosity =>
    ((readInteger value).mapError illegal).map fun verbosity =>
      reporting (some (severityOfVerbosity verbosity))
  | .loggerLevels => do
    let levels ← (readLoggerLevels value).mapError illegal
    return reporting (← severityOfLevels levels)
  | .threshold =>
    if thresholds.contains (Text.lowerCase value) then .ok (text value)
    else .error (.unknownThreshold value)

end FlagValue

end GrammarTables.Command
