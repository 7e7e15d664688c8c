import Stablecoin.Program.Basic

open Stablecoin

/-- The fault that an error of the system tells. -/
def diskFault : IO.Error → DiskFault
  | .noFileOrDirectory .. => .missing
  | .alreadyExists .. => .occupied
  | .inappropriateType .. => .notDirectory
  | error => .other (toString error)

/-- The result of an action, with the fault where it fails. -/
def faultOf {β : Type} (action : IO β) : IO (Except DiskFault β) := do
  try
    return .ok (← action)
  catch error => return .error (diskFault error)

instance : Disk IO where
  read path := faultOf (IO.FS.readBinFile path)
  write path content := faultOf (IO.FS.writeFile path content)
  makeDirectories path := faultOf (IO.FS.createDirAll path)
  print text := do (← IO.getStdout).putStr text
  complain text := do (← IO.getStderr).putStr text

def main (arguments : List String) : IO UInt32 := Program.main arguments
