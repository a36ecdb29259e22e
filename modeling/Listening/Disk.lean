import Listening.Entries

/-!
# Files

A small file system: files and directories, each under the row of names that
leads to it. A file is written by making the directories above it first.
Whatever stands in the way – a directory where the file should be, a file
where a directory should be – leaves everything as it was.

A `Path` is a text without what says nothing: empty names and single dots.
Two dots lead back up.
-/

namespace Listening

/-- **A way to a file.** -/
structure Path where
  /-- The slashes it begins with: none, one, or two. -/
  root : String
  /-- The names after them. -/
  names : List String
  deriving DecidableEq, Repr

namespace Path

/-- The path a text writes. -/
def ofText (s : String) : Path :=
  let slashes := (s.toList.takeWhile (· == '/')).length
  let root := if slashes = 0 then "" else if slashes = 2 then "//" else "/"
  ⟨root, (s.splitOn "/").filter fun name => name != "" && name != "."⟩

/-- A path as text. -/
def toText (p : Path) : String :=
  if p.root.isEmpty && p.names.isEmpty then "."
  else p.root ++ String.intercalate "/" p.names

/-- A path and one more name. -/
def child (p : Path) (name : String) : Path := { p with names := p.names ++ [name] }

end Path

/-- **A file system.** A row of names that begins with a slash leads from
the root, any other from the working directory. -/
structure Disk where
  /-- The files and what they hold. -/
  files : List (List String × ByteArray) := []
  /-- The directories other than the root and the working directory. -/
  directories : List (List String) := []

namespace Disk

/-- A place one name further. Two dots lead back up. -/
def enter (place : List String) (name : String) : List String :=
  if name = ".." then
    match place.getLast? with
    | none => [".."]
    | some ".." => place ++ [".."]
    | some "/" => place
    | some _ => place.dropLast
  else place ++ [name]

/-- Where the walk along a path begins. -/
def beginning (p : Path) : List String := if p.root.isEmpty then [] else ["/"]

/-- Whether there is a directory at a place. -/
def isDirectory (d : Disk) (place : List String) : Bool :=
  place.isEmpty || place == ["/"] || place.all (· == "..") || d.directories.contains place

/-- What a file holds. -/
def file? (d : Disk) (place : List String) : Option ByteArray := d.files.lookup place

/-- Walks along directories that are there. -/
def walk (d : Disk) (place : List String) : List String → Option (List String)
  | [] => if d.isDirectory place then some place else none
  | name :: rest => if d.isDirectory place then d.walk (enter place name) rest else none

/-- Walks along directories and makes those that are missing. -/
def make (d : Disk) (place : List String) : List String → Option (Disk × List String)
  | [] => some (d, place)
  | name :: rest =>
    let next := enter place name
    if d.isDirectory next then d.make next rest
    else if (d.file? next).isSome then none
    else Disk.make { d with directories := d.directories ++ [next] } next rest

/-- The place of a file on a path, if all directories on the way are
there. -/
def place? (d : Disk) (p : Path) : Option (List String) := do
  let name ← p.names.getLast?
  let above ← d.walk (beginning p) p.names.dropLast
  some (enter above name)

/-- **What the file on a path holds**, if it can be read. -/
def read? (d : Disk) (p : Path) : Option ByteArray := do
  d.file? (← d.place? p)

/-- **Writes a file**, if that is possible. The directories on the way stay
even if it is not. -/
def write (d : Disk) (p : Path) (content : ByteArray) : Disk :=
  match p.names.getLast?, d.make (beginning p) p.names.dropLast with
  | some name, some (d, above) =>
    let place := enter above name
    if d.isDirectory place then d else { d with files := Entries.put place content d.files }
  | _, _ => d

/-- The files below the working directory, by the paths that lead to them
from there. -/
def belowHere (d : Disk) : List (String × ByteArray) :=
  (d.files.filter fun (place, _) => place.head? != some "/" && place.head? != some "..").map
    fun (place, content) => (String.intercalate "/" place, content)

end Disk

end Listening
