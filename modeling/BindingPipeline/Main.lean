/-
BindingPipeline/Main.lean

The program: its words are the command line, its input is the file tree on which that is carried out, and it
prints what the command line prints.
-/
import BindingPipeline.CommandLine.Run
import BindingPipeline.CommandLine.Snapshot

namespace BindingPipeline.CommandLine

/-- All that a stream still has. -/
partial def readAll (input : IO.FS.Stream) (before : String) : IO String := do
  let line ← input.getLine
  if line.isEmpty then return before else readAll input (before ++ line)

end BindingPipeline.CommandLine

open BindingPipeline in
/-- The command line carried out on the tree that the standard input describes. -/
def main (words : List String) : IO UInt32 := do
  let text ← CommandLine.readAll (← IO.getStdin) ""
  let now := Time.ofSeconds 0 (← IO.monoNanosNow)
  match CommandLine.Session.ofSnapshot now text with
  | .error message =>
    IO.eprintln message
    return 2
  | .ok s =>
    let (code, s) := CommandLine.run CommandLine.snapshotLauncher words s
    IO.print s.output
    IO.eprint s.complaints
    return UInt32.ofNat code
