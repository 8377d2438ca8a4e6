/-!
# Paths

The text that leads to a file or directory: where it starts, and the names on the way.
A name of two dots leads to the directory above, whatever that is, so it stays in the path
until the path is followed.
-/

namespace GrammarTables.Command

/-- The slashes in front of a path.  One or more than two of them mean the root; what
exactly two mean is left to the system, so that they are kept. -/
inductive Anchor where
  | relative
  | root
  | doubleRoot
  deriving DecidableEq, Repr

namespace Anchor

/-- The text of the slashes. -/
def text : Anchor → String
  | relative => ""
  | root => "/"
  | doubleRoot => "//"

def ofText (characters : List Char) : Anchor :=
  match (characters.takeWhile (· == '/')).length with
  | 0 => relative
  | 2 => doubleRoot
  | _ => root

end Anchor

/-- A path: where it starts, and its parts. -/
structure Path where
  anchor : Anchor
  parts : List String
  deriving DecidableEq, Repr

namespace Path

/-- The parts of a text between slashes. -/
def splitSlashes : List Char → List (List Char)
  | [] => [[]]
  | '/' :: rest => [] :: splitSlashes rest
  | character :: rest =>
    match splitSlashes rest with
    | part :: parts => (character :: part) :: parts
    | [] => [[character]]

/-- Reads a path.  Empty parts and single dots do not matter. -/
def read (text : String) : Path :=
  let parts := (splitSlashes text.toList).filter fun part => !part.isEmpty && part != ['.']
  ⟨.ofText text.toList, parts.map String.ofList⟩

/-- Reads a path in which empty parts and single dots demand a directory, so that a slash
at the end does not lead to a file. -/
def readStrict (text : String) : Path :=
  let parts := (splitSlashes text.toList).map fun part => if part.isEmpty then ['.'] else part
  ⟨.ofText text.toList, parts.map String.ofList⟩

/-- The path of an entry in the directory at a path. -/
def child (path : Path) (name : String) : Path := { path with parts := path.parts ++ [name] }

def parent (path : Path) : Path := { path with parts := path.parts.dropLast }

def render (path : Path) : String :=
  let relative := "/".intercalate path.parts
  if path.anchor == .relative && path.parts.isEmpty then "." else path.anchor.text ++ relative

theorem length_parent_lt {path : Path} (h : path.parts ≠ []) :
    path.parent.parts.length < path.parts.length := by
  have positive : 0 < path.parts.length := List.length_pos_iff.mpr h
  simp only [parent, List.length_dropLast]
  omega

end Path

end GrammarTables.Command
