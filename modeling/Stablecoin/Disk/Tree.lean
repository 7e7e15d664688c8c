import Stablecoin.Disk.Basic
import Stablecoin.Path

/-!
A disk in memory: the files and directories below a working directory, and what has
been written to the streams. Nothing stands beside the working directory.
-/
namespace Stablecoin

/-- A place below the working directory: the names on the way to it. -/
abbrev Place := List (List Char)

/-- Files and directories, and the texts of the streams. -/
structure DiskTree where
  directories : List Place
  files : List (Place × ByteArray)
  printed : String
  complaints : String

namespace DiskTree

def empty : DiskTree := ⟨[], [], "", ""⟩

def isDirectory (tree : DiskTree) (place : Place) : Bool := place.isEmpty || tree.directories.contains place

def file? (tree : DiskTree) (place : Place) : Option ByteArray := tree.files.lookup place

/-- The place of a segment seen from a place, which has to be a directory. -/
def enter (tree : DiskTree) (place : Place) (segment : List Char) : Except DiskFault Place :=
  if tree.isDirectory place then
    if ¬ Path.Names segment then pure place
    else if segment = ['.', '.'] then
      if place.isEmpty then throw .missing else pure place.dropLast
    else pure (place ++ [segment])
  else if (tree.file? place).isSome then throw .notDirectory
  else throw .missing

/-- The segments of a path that does not start at the root. -/
def segments (path : String) : Except DiskFault (List (List Char)) :=
  let path := Path.ofText path
  if path.front = ['/'] then throw .missing else pure path.segments

def read (tree : DiskTree) (path : String) : Except DiskFault ByteArray := do
  let place ← (← segments path).foldlM tree.enter []
  match tree.file? place with
  | some content => return content
  | none => if tree.isDirectory place then throw .isDirectory else throw .missing

def write (tree : DiskTree) (path content : String) : Except DiskFault DiskTree := do
  let segments ← segments path
  let directory ← segments.dropLast.foldlM tree.enter []
  let name := segments.getLast?.getD []
  let place ← tree.enter directory name
  if ¬ Path.Names name ∨ tree.isDirectory place then throw .isDirectory
  return { tree with files := tree.files.filter (·.1 != place) ++ [(place, content.toUTF8)] }

/-- Makes the directory of a segment seen from a place. -/
def makeDirectory (state : DiskTree × Place) (segment : List Char) : Except DiskFault (DiskTree × Place) := do
  let (tree, place) := state
  let place ← tree.enter place segment
  if (tree.file? place).isSome then throw .occupied
  if tree.isDirectory place then return (tree, place)
  return ({ tree with directories := tree.directories ++ [place] }, place)

def makeDirectories (tree : DiskTree) (path : String) : Except DiskFault DiskTree := do
  return (← (← segments path).foldlM makeDirectory (tree, [])).1

/-- The tree that a change makes, or the tree as it was and the fault. -/
def settle (tree : DiskTree) : Except DiskFault DiskTree → Except DiskFault Unit × DiskTree
  | .ok changed => (pure (), changed)
  | .error fault => (throw fault, tree)

instance : Disk (StateM DiskTree) where
  read path := fun tree => (tree.read path, tree)
  write path content := fun tree => tree.settle (tree.write path content)
  makeDirectories path := fun tree => tree.settle (tree.makeDirectories path)
  print text := fun tree => ((), { tree with printed := tree.printed ++ text })
  complain text := fun tree => ((), { tree with complaints := tree.complaints ++ text })

end DiskTree
end Stablecoin
