import BucketQuery.Program.Run

set_option autoImplicit false

/-! # The program

The outer layer: variables, files and outputs of the machine. Nothing here can reach a
network, so every exchange with a query service is lost; buckets in files and scripts work.
-/

namespace BucketQuery.Main

/-- What is found at a path. The code 20 says that the path goes through something that is no
directory. -/
def look (path : String) : IO FileState := do
  try
    return .text (← IO.FS.readFile path)
  catch
    | .noFileOrDirectory .. => return .absent
    | .inappropriateType _ code _ => return if code = 20 then .absent else .unreadable
    | _ => return .unreadable

/-- The surroundings on a machine. -/
def surroundings : Surroundings IO :=
  { variableValue := fun name => IO.getEnv name
    look := look
    send := fun _ => return none }

end BucketQuery.Main

/-- Runs the program. -/
def main (words : List String) : IO UInt32 := do
  let work ← IO.currentDir
  let ending ← BucketQuery.run BucketQuery.Main.surroundings work.toString words
  IO.print ending.out
  IO.eprint ending.err
  return ending.code
