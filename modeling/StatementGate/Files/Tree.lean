import StatementGate.Settings.Validation

/-! # File trees

Files by their paths from a working directory. Directories are there as far as files need them;
what is outside the working directory holds no files. -/

namespace StatementGate

inductive FileError where
  | notFound | notDirectory | isDirectory | nulInName
  deriving DecidableEq

namespace FileError

def message : FileError → String
  | .notFound => "No such file or directory (os error 2)"
  | .notDirectory => "Not a directory (os error 20)"
  | .isDirectory => "Is a directory (os error 21)"
  | .nulInName => "file name contained an unexpected NUL byte"

end FileError

/-- The parts of a path from the working directory lead to the content of a file. -/
abbrev FileTree (α : Type) := List (List String × α)

namespace FileTree

variable {α : Type}

/-- Where a path leads: into the working directory, or out of it. -/
inductive Place where
  | inside (parts : List String)
  | outside
  deriving DecidableEq

def file? (t : FileTree α) (parts : List String) : Option α := t.lookup parts

/-- A directory is the working directory or holds a file. -/
def isDirectory (t : FileTree α) (parts : List String) : Bool :=
  parts.isEmpty || t.any fun (path, _) => parts.length < path.length && parts.isPrefixOf path

/-- Goes from a directory to what a part of a path names; what does not exist may still be the last
part. -/
def walk (t : FileTree α) : Place → List String → Except FileError Place
  | place, [] => .ok place
  | .outside, part :: rest =>
    if part = "" ∨ part = "." ∨ part = ".." then walk t .outside rest else .error .notFound
  | .inside parts, part :: rest =>
    if (t.file? parts).isSome then .error .notDirectory
    else if !t.isDirectory parts then .error .notFound
    else if part = "" ∨ part = "." then walk t (.inside parts) rest
    else if part = ".." then
      walk t (if parts.isEmpty then .outside else .inside parts.dropLast) rest
    else walk t (.inside (parts ++ [part])) rest

def locate (t : FileTree α) (path : String) : Except FileError Place :=
  if path.isEmpty then .error .notFound
  else if path.toList.contains '\x00' then .error .nulInName
  else
    match Settings.pathParts path with
    | "" :: rest => t.walk .outside rest
    | parts => t.walk (.inside []) parts

/-- The parts and the content of a file that is there. -/
def find (t : FileTree α) (path : String) : Except FileError (List String × α) := do
  match ← t.locate path with
  | .outside => throw .isDirectory
  | .inside parts =>
    match t.file? parts with
    | some content => pure (parts, content)
    | none => throw (if t.isDirectory parts then .isDirectory else .notFound)

def read (t : FileTree α) (path : String) : Except FileError α := (t.find path).map (·.2)

/-- The parts of a file that is there or can be created. -/
def writable (t : FileTree α) (path : String) : Except FileError (List String) := do
  match ← t.locate path with
  | .outside => throw .isDirectory
  | .inside parts =>
    if t.isDirectory parts then throw .isDirectory
    else if (t.file? parts).isSome || t.isDirectory parts.dropLast then pure parts
    else throw .notFound

/-- Creates a file unless it is there. -/
def create (t : FileTree α) (parts : List String) (content : α) : FileTree α :=
  if (t.file? parts).isSome then t else t ++ [(parts, content)]

/-- Replaces the content of a file. -/
def put (t : FileTree α) (parts : List String) (content : α) : FileTree α :=
  t.map fun (path, old) => (path, if path = parts then content else old)

/-- The tree of files that are written one after another, with the directories they need. -/
def ofList (files : List (String × α)) : FileTree α :=
  files.foldl (fun t (path, content) =>
    let parts := (Settings.pathParts path).filter fun part => part != "" && part != "."
    FileTree.put (FileTree.create t parts content) parts content) []

end FileTree

end StatementGate
