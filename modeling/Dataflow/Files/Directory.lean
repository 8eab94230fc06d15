import Dataflow.Files.Source
import Dataflow.Text.Lines

/-!
File stores: where programs are read from and written to.

`FileStore` is what the command line asks of a file system. `Directory` is one held as a value: a
single directory of named files, in which paths are resolved as a system does it. Names in a path
are parted by slashes; empty names and single dots stay where they are. A path that starts with a
slash or goes up with two dots leads into the directories above. Nothing is found there but those
directories themselves, and what is written there is not kept.
-/

set_option autoImplicit false

namespace Dataflow

/-- What the command line asks of a file system. -/
structure FileStore (m : Type → Type) where
  /-- The source of a file's bytes. A directory can be opened, but its source fails. -/
  openFile : String → m (Except FileError ByteSource)
  /-- Gives a file new contents, and makes it if there is none. -/
  createFile : String → List UInt8 → m (Except FileError Unit)

structure Directory where
  /-- Names with contents; of several files of one name the first counts. -/
  files : List (String × List UInt8)
deriving DecidableEq

namespace Directory

/-- A directory that a path leads to. -/
inductive Place where
  | inside
  | above
deriving DecidableEq

def find? (directory : Directory) (name : String) : Option (List UInt8) :=
  directory.files.lookup name

def insert (directory : Directory) (name : String) (contents : List UInt8) : Directory :=
  ⟨(name, contents) :: directory.files.filter fun (other, _) => other != name⟩

def longestName : Nat := 255

def longestPath : Nat := 4095

/-- The fault that rules a path out before anything is looked for. -/
def pathFault? (path : String) : Option FileError :=
  if path.contains '\x00' then some .nulInPath
  else if longestPath < path.utf8ByteSize then some .nameTooLong
  else if path = "" then some .notFound
  else none

def names (path : String) : List String := (Text.split '/' path.toList).map String.ofList

def start (path : String) : Place := if path.startsWith "/" then .above else .inside

/-- Whether a name leads to a directory: empty names and one dot to the same one, two dots to the
one above. -/
def isStep (name : String) : Bool := name = "" || name = "." || name = ".."

/-- The contents of a file in a place. -/
def contents? (directory : Directory) (place : Place) (name : String) :
    Except FileError (Option (List UInt8)) :=
  if longestName < name.utf8ByteSize then .error .nameTooLong
  else match place with
    | .inside => .ok (directory.find? name)
    | .above => .ok none

/-- The place that a name leads to from another place. -/
def enter (directory : Directory) (place : Place) (name : String) : Except FileError Place := do
  if name = ".." then return .above
  if isStep name then return place
  match ← directory.contents? place name with
  | some _ => throw .notDirectory
  | none => throw .notFound

def openFile (directory : Directory) (path : String) : Except FileError ByteSource := do
  if let some fault := pathFault? path then throw fault
  let name := (names path).getLastD ""
  let place ← (names path).dropLast.foldlM directory.enter (start path)
  if isStep name then return .failing .isDirectory
  match ← directory.contents? place name with
  | some contents => return .ofBytes contents
  | none => throw .notFound

/-- The names of a path without slashes at its end. -/
def stem (path : String) : List String :=
  ((names path).reverse.dropWhile (· = "")).reverse

/-- The directory after a file got new contents. A slash at the end of a path asks for a
directory, which a file cannot be. -/
def createFile (directory : Directory) (path : String) (contents : List UInt8) :
    Except FileError Directory := do
  if let some fault := pathFault? path then throw fault
  let name := (stem path).getLastD ""
  let place ← (stem path).dropLast.foldlM directory.enter (start path)
  if path.endsWith "/" || isStep name then throw .isDirectory
  let _ ← directory.contents? place name
  match place with
  | .inside => return directory.insert name contents
  | .above => return directory

def store : FileStore (StateM Directory) where
  openFile path := fun directory => (directory.openFile path, directory)
  createFile path contents := fun directory =>
    match directory.createFile path contents with
    | .ok changed => (.ok (), changed)
    | .error cause => (.error cause, directory)

theorem find?_insert (directory : Directory) (name : String) (contents : List UInt8) :
    (directory.insert name contents).find? name = some contents := by
  simp [insert, find?]

end Directory

end Dataflow
