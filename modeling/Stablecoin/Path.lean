/-!
Paths of files. A path is what it starts with, the root or the dot of the current
directory, and the segments between its slashes. Empty segments and single dots
name nothing, and the last segment that names something is the name of the file.
-/
namespace Stablecoin

/-- A path taken apart. -/
structure Path where
  /-- The slash of the root, the dot that a path starts with, or nothing. -/
  front : List Char
  segments : List (List Char)
deriving Repr, DecidableEq

namespace Path

/-- The characters between the slashes. -/
def split : List Char → List (List Char)
  | [] => [[]]
  | c :: rest =>
    if c = '/' then [] :: split rest
    else
      match split rest with
      | [] => [[c]]
      | segment :: segments => (c :: segment) :: segments

def ofChars (text : List Char) : Path :=
  match text with
  | '/' :: rest => ⟨['/'], split rest⟩
  | ['.'] => ⟨['.'], split []⟩
  | '.' :: '/' :: rest => ⟨['.'], split ('/' :: rest)⟩
  | _ => ⟨[], split text⟩

def toChars (path : Path) : List Char := path.front ++ List.intercalate ['/'] path.segments

def ofText (text : String) : Path := ofChars text.toList

def text (path : Path) : String := String.ofList path.toChars

/-- The segment names a file or a directory. -/
def Names (segment : List Char) : Prop := segment ≠ [] ∧ segment ≠ ['.']

instance (segment : List Char) : Decidable (Names segment) := inferInstanceAs (Decidable (_ ∧ _))

/-- The path without what stands behind its last name. -/
def trim (path : Path) : Path :=
  { path with segments := (path.segments.reverse.dropWhile fun segment => ¬ Names segment).reverse }

/-- The last name of the path, if the path ends in one and not in a step upwards. -/
def fileName? (path : Path) : Option (List Char) :=
  match path.trim.segments.getLast? with
  | some name => if name = ['.', '.'] then none else some name
  | none => none

/-- The path without its last name. -/
def parent (path : Path) : Path := trim { path with segments := path.trim.segments.dropLast }

/-- The path of something inside a directory. -/
def inside (directory : List Char) (name : List Char) : List Char :=
  match directory.getLast? with
  | none => name
  | some last => if last = '/' then directory ++ name else directory ++ '/' :: name

/-- The path with another file name, or with a file name behind it if it has none. -/
def withFileName (path : Path) (name : List Char) : List Char :=
  match path.fileName? with
  | some _ => inside path.parent.toChars name
  | none => inside path.toChars name

/-- A file name cut at its last dot. A name without a dot, or with no other dot than
    the one it starts with, has no extension. -/
def splitName (name : List Char) : List Char × Option (List Char) :=
  let extension := (name.reverse.takeWhile (· ≠ '.')).reverse
  let stem := name.take (name.length - extension.length - 1)
  if extension.length < name.length ∧ stem ≠ [] then (stem, some extension) else (name, none)

/-- What stands behind the last dot of the file name. -/
def extension? (path : Path) : Option (List Char) := path.fileName?.bind fun name => (splitName name).2

/-- The path with another extension, or as it was if it has no file name. -/
def withExtension (path : Path) (extension : List Char) : Path :=
  match path.fileName? with
  | some name =>
    { path with segments := path.trim.segments.dropLast ++ [(splitName name).1 ++ '.' :: extension] }
  | none => path

/-- The file name of the table of a seed. -/
def seedName (name : Option (List Char)) (seed : UInt64) : List Char :=
  let (stem, extension) := ((name.map splitName).getD ("run".toList, none))
  let marked := stem ++ "_seed".toList ++ (toString seed.toNat).toList
  match extension with
  | some extension => marked ++ '.' :: extension
  | none => marked

/-- The path of the table of a seed: beside the given one, the seed in its name. -/
def forSeed (path : Path) (seed : UInt64) : List Char := path.withFileName (seedName path.fileName? seed)

end Path
end Stablecoin
