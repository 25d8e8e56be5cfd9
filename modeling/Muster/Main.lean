import Muster.CommandLine

/-!
# The program

Connects the command line with the files and the terminal. A run is repeated from its beginning with
every further line that is typed, and what it writes beyond the run before is shown.
-/

namespace Muster.Program

open Muster.CommandLine

/-- A tree to which a path has been added as it is found on the disk. What is there and cannot be
read is taken for a directory. -/
def observe (tree : FileTree) (path : String) : IO FileTree := do
  try
    return tree.write path (← IO.FS.readFile path)
  catch _ =>
    try
      let _ ← IO.FS.realPath path
      return tree.makeDirectory (tree.place path)
    catch _ => return tree

/-- The files and directories that a run with the given arguments looks at. -/
def observeAll (args : List String) : IO FileTree := do
  let here := (FilePath.components (← IO.currentDir).toString).filter (· != "")
  let tree := ({ workingDirectory := here } : FileTree).makeDirectory here
  match Options.parse args with
  | .ok options => (pathsRead options).foldlM observe tree
  | .error _ => return tree

/-- Writes what follows after so many characters. -/
def showFrom (shown : Nat) (text : String) : IO Unit := do
  let output ← IO.getStdout
  output.putStr (String.ofList (text.toList.drop shown))
  output.flush

/-- Runs the program until it needs no more lines or there are none. -/
def interact (args : List String) (tree : FileTree) : IO UInt32 := do
  let input ← IO.getStdin
  let terminal ← input.isTty
  let mut lines : List String := []
  let mut shown := 0
  repeat
    let report := run args tree lines
    match report.awaiting with
    | some (written, prompt) =>
      showFrom shown written
      shown := written.length
      if terminal then
        showFrom 0 prompt
      let line ← input.getLine
      unless line.isEmpty do
        lines := lines ++ inputLines line
        continue
    | none => pure ()
    showFrom shown report.output
    (← IO.getStderr).putStr report.errors
    return report.exitCode.toUInt32
  return 0

end Muster.Program

/-- Runs the program with the arguments it is given. -/
def main (args : List String) : IO UInt32 := do
  Muster.Program.interact args (← Muster.Program.observeAll args)
