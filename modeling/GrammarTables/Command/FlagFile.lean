import GrammarTables.Command.Flag

/-!
# Flag files

A command line may take arguments from files, one from each line.  They stand in the place
of the argument that names the file.  Blank lines and comments do not matter, and a file
may refer to others; a file that would contain itself is left out there.
-/

namespace GrammarTables.Command

/-- An argument or line that refers to a flag file: with its name, or without. -/
inductive FileReference where
  | named (name : String)
  | nameless
  deriving DecidableEq, Repr

namespace FileReference

/-- The flag that refers to a file. -/
def flag : String := "flagfile"

/-- Reads a reference, with one dash or two. -/
def read? (argument : String) : Option FileReference :=
  ["-" ++ flag, "--" ++ flag].findSome? fun beginning =>
    if argument == beginning then some nameless
    else if argument.startsWith (beginning ++ "=") then
      let name := argument.toList.drop (beginning.length + 1)
      some (named (Text.trim (String.ofList name)))
    else none

end FileReference

namespace FlagFile

/-- The lines of a text, each with whether a line feed ends it. -/
def lines (text : String) : List (String × Bool) :=
  let parts := (FlagValue.splitAt '\n' text.toList).map String.ofList
  let ended := parts.dropLast.map fun line => (line, true)
  match parts.getLast? with
  | some line => if line.isEmpty then ended else ended ++ [(line, false)]
  | none => ended

/-- Whether a line holds no argument. -/
def isSkipped (line : String) : Bool :=
  Text.isBlankText line || line.startsWith "#" || line.startsWith "//"

/-- The text of a flag file.  Its last bytes are looked at on their own, so that an
unfinished sequence has the first place. -/
def readText (bytes : List UInt8) : Except Text.Utf8.DecodeError String :=
  (Text.Utf8.readText bytes).mapError fun error =>
    if error.problem == .unexpectedEnd then { error with position := 0 } else error

/-- The arguments in the file of a name, inside of the files with the given names.  The
depth bounds how many files are inside of each other. -/
def arguments (workspace : Workspace) (around : List String) (name : String) :
    Nat → Except FlagError (List String)
  | 0 => .ok []
  | depth + 1 =>
    if name.isEmpty || around.contains name then .ok []
    else do
      let bytes ← (workspace.readFile (.readStrict name) name).mapError .unreadableFile
      let text ← (readText bytes).mapError .undecodableFile
      let parts ← (lines text).mapM fun (line, isEnded) =>
        if isSkipped line then .ok []
        else
          match FileReference.read? line with
          | some (.named inner) => arguments workspace (name :: around) inner depth
          | some .nameless => if isEnded then .ok [line] else .error (.namelessFile line)
          | none => .ok [Text.trim line]
      return parts.flatten

/-- A depth that is not reached: inside of each other there are files of different names
only, and all names but one are lines of files. -/
def depthLimit (workspace : Workspace) : Nat :=
  (workspace.files.flatMap fun file => file.2).length + 2

/-- The arguments of a command line with those of flag files in their places.  Two dashes
end the flags, and with them the references to files. -/
def expand (workspace : Workspace) : List String → Except FlagError (List String)
  | [] => .ok []
  | argument :: rest =>
    if argument == "--" then .ok (argument :: rest)
    else
      let inserted (name : String) := arguments workspace [] name (depthLimit workspace)
      match FileReference.read? argument, rest with
      | none, rest => (expand workspace rest).map (argument :: ·)
      | some (.named name), rest => do
        let lines ← inserted name
        return lines ++ (← expand workspace rest)
      | some .nameless, name :: rest => do
        let lines ← inserted name
        return lines ++ (← expand workspace rest)
      | some .nameless, [] => .error .missingFile

end FlagFile

end GrammarTables.Command
