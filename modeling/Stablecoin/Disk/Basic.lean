namespace Stablecoin

/-- Why a file or a directory is refused. -/
inductive DiskFault where
  | missing
  | notDirectory
  | isDirectory
  /-- A file stands where a directory is to be made. -/
  | occupied
  | notText
  | other (text : String)
deriving Repr, DecidableEq

/-- The text of a fault, with the number that the system gives it. -/
def DiskFault.message : DiskFault → String
  | missing => "No such file or directory (os error 2)"
  | notDirectory => "Not a directory (os error 20)"
  | isDirectory => "Is a directory (os error 21)"
  | occupied => "File exists (os error 17)"
  | notText => "stream did not contain valid UTF-8"
  | other text => text

/-- What a program can do to the world outside. -/
class Disk (m : Type → Type) where
  read : String → m (Except DiskFault ByteArray)
  write : String → String → m (Except DiskFault Unit)
  /-- Makes a directory, and those on the way to it. -/
  makeDirectories : String → m (Except DiskFault Unit)
  /-- Writes to the standard output. -/
  print : String → m Unit
  /-- Writes to the stream for errors. -/
  complain : String → m Unit

end Stablecoin
