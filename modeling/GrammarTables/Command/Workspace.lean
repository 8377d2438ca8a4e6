import GrammarTables.Command.Path
import GrammarTables.Text.Quoted
import GrammarTables.Text.Utf8

/-!
# Workspaces

What a command finds around it: files in a working directory, given by their bytes, and
the standard input.  Directories are there as far as files lie in them or a command makes
them.  Outside of the working directory only what every system has is known.  The standard
input can be read once; after that it is empty.
-/

namespace GrammarTables.Command

/-- Why a file cannot be read or written, or a directory made. -/
inductive FileProblem where
  | notFound
  | alreadyExists
  | notDirectory
  | isDirectory
  | nameTooLong
  deriving DecidableEq, Repr

namespace FileProblem

def number : FileProblem → Nat
  | notFound => 2
  | alreadyExists => 17
  | notDirectory => 20
  | isDirectory => 21
  | nameTooLong => 36

def words : FileProblem → String
  | notFound => "No such file or directory"
  | alreadyExists => "File exists"
  | notDirectory => "Not a directory"
  | isDirectory => "Is a directory"
  | nameTooLong => "File name too long"

end FileProblem

/-- What goes wrong with files. -/
inductive FileError where
  /-- A problem with the entry of a name. -/
  | entry (problem : FileProblem) (name : String)
  /-- A name holds the character that ends names. -/
  | embeddedNull
  deriving DecidableEq, Repr

def FileError.message : FileError → String
  | entry problem name =>
    "[Errno " ++ toString problem.number ++ "] " ++ problem.words ++ ": " ++ Text.quoted name
  | embeddedNull => "embedded null byte"

/-- Why a document cannot be read. -/
inductive ReadError where
  | file (error : FileError)
  | undecodable (error : Text.Utf8.DecodeError)
  deriving DecidableEq, Repr

def ReadError.message : ReadError → String
  | file error => error.message
  | undecodable error => error.message

/-- The directories from which places are counted. -/
inductive Base where
  | workingDirectory
  /-- The root of the system. -/
  | root
  /-- A directory above the working directory. -/
  | above
  deriving DecidableEq, Repr

/-- Where in the file system something is or could be: the names that lead there. -/
structure Place where
  base : Base
  names : List String
  deriving DecidableEq, Repr

namespace Place

/-- The directory above a place.  The root lies in itself. -/
def parent (place : Place) : Place :=
  match place.base, place.names with
  | .workingDirectory, [] | .above, [] => ⟨.above, []⟩
  | base, names => ⟨base, names.dropLast⟩

/-- The place of an entry in the directory at a place. -/
def child (place : Place) (name : String) : Place :=
  { place with names := place.names ++ [name] }

/-- Whether the second place lies in the directory at the first, at any depth. -/
def isAbove (place inner : Place) : Bool :=
  place.base == inner.base && place.names.length < inner.names.length &&
    place.names.isPrefixOf inner.names

/-- The place at which a path starts. -/
def start (path : Path) : Place :=
  ⟨if path.anchor == .relative then .workingDirectory else .root, []⟩

/-- The place to which a path leads if all directories on the way exist. -/
def ofPath (path : Path) : Place :=
  path.parts.foldl (fun place part =>
    if part == "." then place else if part == ".." then place.parent else place.child part)
    (start path)

end Place

/-- What is at a place. -/
inductive Entry where
  | file (bytes : List UInt8)
  | directory
  deriving DecidableEq, Repr

/-- The directories that every system has. -/
def systemDirectories : List Place :=
  ["bin", "dev", "etc", "home", "lib", "opt", "proc", "root", "run", "sbin", "sys", "tmp",
   "usr", "var"].map fun name => ⟨.root, [name]⟩

/-- The files that every system has: the one that is always empty. -/
def systemFiles : List (Place × List UInt8) := [(⟨.root, ["dev", "null"]⟩, [])]

/-- A directory that is made: its path, and the place to which that leads. -/
structure MadeDirectory where
  path : Path
  place : Place
  deriving DecidableEq, Repr

/-- Files, directories and standard input. -/
structure Workspace where
  files : List (Place × List UInt8)
  directories : List Place
  input : List UInt8

namespace Workspace

/-- The workspace with the given files and input. -/
def ofFiles (files : List (String × List UInt8)) (input : List UInt8) : Workspace :=
  ⟨files.map fun file => (Place.ofPath (.read file.1), file.2), [], input⟩

/-- What is at a place, if anything is. -/
def entry? (workspace : Workspace) (place : Place) : Option Entry :=
  match (workspace.files ++ systemFiles).lookup place with
  | some bytes => some (.file bytes)
  | none =>
    if place.names.isEmpty || (workspace.directories ++ systemDirectories).contains place ||
        workspace.files.any fun file => place.isAbove file.1 then some .directory
    else none

/-- The greatest count of bytes in a name. -/
def nameLimit : Nat := 255

/-- The greatest count of bytes in a path. -/
def pathLimit : Nat := 4095

/-- Goes from a directory to one of its entries, which need not exist. -/
def enter (workspace : Workspace) (place : Place) (part : String) :
    Except FileProblem Place :=
  match workspace.entry? place with
  | none => .error .notFound
  | some (.file _) => .error .notDirectory
  | some .directory =>
    if part == "." then .ok place
    else if part == ".." then .ok place.parent
    else if nameLimit < part.utf8ByteSize then .error .nameTooLong
    else .ok (place.child part)

/-- Follows the parts of a path from a place. -/
def follow (workspace : Workspace) (place : Place) : List String → Except FileProblem Place
  | [] => .ok place
  | part :: rest =>
    match workspace.enter place part with
    | .error problem => .error problem
    | .ok place => workspace.follow place rest

/-- The place to which a path leads.  Nothing need be there. -/
def locate (workspace : Workspace) (path : Path) : Except FileProblem Place :=
  if pathLimit < path.render.utf8ByteSize then .error .nameTooLong
  else workspace.follow (.start path) path.parts

/-- Whether a name holds the character that ends names. -/
def hasNull (name : String) : Bool := name.toList.contains '\x00'

/-- The bytes of the file to which a path leads, where the error goes by a name. -/
def readFile (workspace : Workspace) (path : Path) (name : String) :
    Except FileError (List UInt8) :=
  if hasNull name then .error .embeddedNull
  else
    match workspace.locate path with
    | .error problem => .error (.entry problem name)
    | .ok place =>
      match workspace.entry? place with
      | some (.file bytes) => .ok bytes
      | some .directory => .error (.entry .isDirectory name)
      | none => .error (.entry .notFound name)

/-- Whether the name of a document stands for the standard input. -/
def isInputName (name : String) : Bool := name.isEmpty || name == "-"

/-- Reads the document of a name, and leaves the workspace as it is afterwards. -/
def readDocument (workspace : Workspace) (name : String) :
    Except ReadError (String × Workspace) := do
  let decode (bytes : List UInt8) : Except ReadError String :=
    (Text.Utf8.readText bytes).mapError .undecodable
  if isInputName name then
    return (← decode workspace.input, { workspace with input := [] })
  else
    let path := Path.read name
    let bytes ← (workspace.readFile path path.render).mapError .file
    return (← decode bytes, workspace)

def isDirectory (workspace : Workspace) (path : Path) : Bool :=
  match workspace.locate path with
  | .ok place => workspace.entry? place == some .directory
  | .error _ => false

/-- The workspace in which directories have been made. -/
def withDirectories (workspace : Workspace) (made : List MadeDirectory) : Workspace :=
  { workspace with directories := made.map MadeDirectory.place ++ workspace.directories }

/-- The place of a directory that can be made in a directory which is there. -/
def addDirectory (workspace : Workspace) (path : Path) : Except FileProblem Place :=
  match workspace.locate path with
  | .error problem => .error problem
  | .ok place =>
    if (workspace.entry? place).isSome then .error .alreadyExists else .ok place

/-- Makes one directory, unless it is there already. -/
def needDirectory (workspace : Workspace) (path : Path) :
    Except FileError (List MadeDirectory) :=
  match workspace.addDirectory path with
  | .ok place => .ok [⟨path, place⟩]
  | .error problem =>
    if problem != .notFound && workspace.isDirectory path then .ok []
    else .error (.entry problem path.render)

/-- Makes a directory and those it lies in, as far as they are missing.  Directories that
are made before an error remain. -/
def needDirectories (workspace : Workspace) (path : Path) :
    List MadeDirectory × Option FileError :=
  match workspace.needDirectory path with
  | .error (.entry .notFound name) =>
    if isStart : path.parts = [] then ([], some (.entry .notFound name))
    else
      have := Path.length_parent_lt isStart
      match workspace.needDirectories path.parent with
      | (made, some error) => (made, some error)
      | (made, none) =>
        match (workspace.withDirectories made).needDirectory path with
        | .error error => (made, some error)
        | .ok last => (made ++ last, none)
  | .error error => ([], some error)
  | .ok made => (made, none)
  termination_by path.parts.length

/-- Makes a directory and those it lies in, unless its name is none. -/
def makeDirectory (workspace : Workspace) (path : Path) :
    List MadeDirectory × Option FileError :=
  if hasNull path.render then ([], some .embeddedNull) else workspace.needDirectories path

/-- The place of a file that can be written at a path. -/
def writable (workspace : Workspace) (path : Path) : Except FileError Place :=
  match workspace.locate path with
  | .error problem => .error (.entry problem path.render)
  | .ok place =>
    if workspace.entry? place == some .directory then
      .error (.entry .isDirectory path.render)
    else .ok place

end Workspace

end GrammarTables.Command
