import AssetWatch.Cli.Project

/-!
# The program

Runs the program with its arguments on the project that a document on standard input
describes.
-/

namespace AssetWatch

partial def readAll (input : IO.FS.Stream) (taken : String) : IO String := do
  let line ← input.getLine
  if line.isEmpty then return taken else readAll input (taken ++ line)

end AssetWatch

open AssetWatch in
def main (args : List String) : IO UInt32 := do
  let text ← readAll (← IO.getStdin) ""
  match Cli.Project.ofDocument text with
  | none =>
    (← IO.getStderr).putStr "the description of the project is not understood\n"
    return 2
  | some project =>
    let transcript := project.run args
    (← IO.getStdout).putStr transcript.out
    (← IO.getStderr).putStr transcript.err
    return UInt32.ofNat transcript.exit
