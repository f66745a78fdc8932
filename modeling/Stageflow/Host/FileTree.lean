import Stageflow.Table
import Stageflow.Text.Utf8

namespace Stageflow.Host

/-- Why a file is not opened or a program not started. -/
inductive FileError where
  | notFound
  | permissionDenied
  | alreadyExists
  | notDirectory
  | isDirectory
  | nameTooLong
  | directoryNotEmpty
  /-- The bytes of a file that has to be text are no UTF-8. -/
  | notText
  /-- A file name holds the character that ends names. -/
  | zeroInName
  /-- An argument of a program holds that character. -/
  | zeroInArgument
  deriving DecidableEq, Repr

namespace FileError

/-- The number of an error that the operating system knows. -/
def number? : FileError → Option Nat
  | .notFound => some 2
  | .permissionDenied => some 13
  | .alreadyExists => some 17
  | .notDirectory => some 20
  | .isDirectory => some 21
  | .nameTooLong => some 36
  | .directoryNotEmpty => some 39
  | .notText | .zeroInName | .zeroInArgument => none

def text : FileError → String
  | .notFound => "No such file or directory"
  | .permissionDenied => "Permission denied"
  | .alreadyExists => "File exists"
  | .notDirectory => "Not a directory"
  | .isDirectory => "Is a directory"
  | .nameTooLong => "File name too long"
  | .directoryNotEmpty => "Directory not empty"
  | .notText => "stream did not contain valid UTF-8"
  | .zeroInName => "file name contained an unexpected NUL byte"
  | .zeroInArgument => "nul byte found in provided data"

/-- The text with the number, where there is one. -/
def message (error : FileError) : String :=
  match error.number? with
  | some n => s!"{error.text} (os error {n})"
  | none => error.text

end FileError

/-- What stands at a place of a file tree. -/
inductive FileNode where
  | directory
  | file (content : List UInt8)
  /-- An installed program, by the name of what it does. -/
  | program (name : String)
  /-- A file that is always empty, whatever is written to it. -/
  | void
  deriving DecidableEq, Repr, Inhabited

/-- A place in a file tree: the names that lead to it from the root, the last one first. -/
abbrev Place :=
  List String

def Place.path (place : Place) : String :=
  "/" ++ "/".intercalate place.reverse

/-- The files and directories below a root, by their absolute paths. -/
structure FileTree where
  nodes : Table FileNode
  deriving DecidableEq, Repr

namespace FileTree

def empty : FileTree :=
  ⟨.empty⟩

instance : Inhabited FileTree :=
  ⟨empty⟩

/-- What stands at a place; the root is always a directory. -/
def node? (tree : FileTree) (place : Place) : Option FileNode :=
  match place with
  | [] => some .directory
  | place => tree.nodes.get? place.path

def put (tree : FileTree) (place : Place) (node : FileNode) : FileTree :=
  ⟨tree.nodes.insert place.path node⟩

def remove (tree : FileTree) (place : Place) : FileTree :=
  ⟨tree.nodes.erase place.path⟩

/-- Makes a directory at a place and at every place on the way to it. -/
def putDirectories (tree : FileTree) : Place → FileTree
  | [] => tree
  | name :: parent => (putDirectories tree parent).put (name :: parent) .directory

/-- The longest name and the longest path, in bytes. -/
def nameLimit : Nat := 255

def pathLimit : Nat := 4095

/-- Follows names from a place. Everything on the way has to be a directory; at the place that the
    last name leads to nothing needs to be. An empty name and `.` stay where they are, `..` leads
    one name back, and at the root nowhere else. -/
def walk (tree : FileTree) (here : Place) : List String → Except FileError (Place × Option FileNode)
  | [] => .ok (here, tree.node? here)
  | name :: names =>
    match tree.node? here with
    | none => .error .notFound
    | some .directory =>
      if name = "" ∨ name = "." then walk tree here names
      else if name = ".." then walk tree here.tail names
      else if nameLimit < name.utf8ByteSize then .error .nameTooLong
      else walk tree (name :: here) names
    | some _ => .error .notDirectory

/-- The place that a path names, seen from a directory, and what stands there. -/
def locate (tree : FileTree) (directory : Place) (path : String) :
    Except FileError (Place × Option FileNode) :=
  if path.toList.contains '\x00' then .error .zeroInName
  else if path.isEmpty then .error .notFound
  else if pathLimit < path.utf8ByteSize then .error .nameTooLong
  else walk tree (if path.toList.head? = some '/' then [] else directory) (path.splitOn "/")

/-- Whether there is anything at the place that a path names. -/
def pathExists (tree : FileTree) (directory : Place) (path : String) : Bool :=
  match tree.locate directory path with
  | .ok (_, node) => node.isSome
  | .error _ => false

def read (tree : FileTree) (directory : Place) (path : String) : Except FileError (List UInt8) :=
  match tree.locate directory path with
  | .error error => .error error
  | .ok (_, none) => .error .notFound
  | .ok (_, some .directory) => .error .isDirectory
  | .ok (_, some (.file content)) => .ok content
  | .ok (_, some (.program _)) | .ok (_, some .void) => .ok []

def readText (tree : FileTree) (directory : Place) (path : String) : Except FileError String :=
  match tree.read directory path with
  | .error error => .error error
  | .ok bytes =>
    match Text.decode? bytes with
    | some cs => .ok (String.ofList cs)
    | none => .error .notText

/-- Opens the file at a path for writing; one that is not there is made. -/
def openForWriting (tree : FileTree) (directory : Place) (path : String) (truncate : Bool) :
    Except FileError (Place × FileTree) :=
  match tree.locate directory path with
  | .error error => .error error
  | .ok (_, some .directory) => .error .isDirectory
  | .ok (_, some (.program _)) => .error .permissionDenied
  | .ok (place, some .void) => .ok (place, tree)
  | .ok (place, some (.file _)) => .ok (place, if truncate then tree.put place (.file []) else tree)
  | .ok (place, none) => .ok (place, tree.put place (.file []))

def append (tree : FileTree) (place : Place) (bytes : List UInt8) : FileTree :=
  match tree.node? place with
  | some (.file content) => tree.put place (.file (content ++ bytes))
  | _ => tree

/-- Removes what stands at a place and below it. -/
def removeAll (tree : FileTree) (place : Place) : FileTree :=
  let below := place.path ++ "/"
  ⟨tree.nodes.filter fun path => path != place.path && !below.toList.isPrefixOf path.toList⟩

/-- The names in a directory, in increasing order. -/
def names (tree : FileTree) (place : Place) : List String :=
  tree.nodes.entries.filterMap fun entry =>
    match entry.1.splitOn "/" with
    | "" :: rest =>
      match rest.reverse with
      | name :: parent => if parent = place then some name else none
      | [] => none
    | _ => none

end FileTree

end Stageflow.Host
