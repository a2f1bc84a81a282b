import Assessment.CommandLine.Run

/-!
# The program

Reads the files that the command line names, runs the command, prints what it gives, and ends with
its status. All that decides anything is in `CommandLine.run`, which is given the texts of the
files.
-/

namespace Assessment

open CommandLine

/-- The text of a file; `none` when it cannot be read. -/
def readFile? (path : String) : IO (Option String) := do
  try
    let text ← IO.FS.readFile path
    return some text
  catch _ => return none

/-- The texts of files, each with its path. -/
def readFiles : List String → IO (List (String × Option String))
  | [] => return []
  | path :: rest => do
    let text ← readFile? path
    let more ← readFiles rest
    return (path, text) :: more

/-- A function from the paths of files to their texts. -/
def filesOf (texts : List (String × Option String)) : Files := fun path =>
  (Table.find? path texts).bind id

end Assessment

/-- Runs the program. -/
def main (args : List String) : IO UInt32 := do
  let paths := ((Assessment.CommandLine.readArguments args).map fun r => r.paths).getD []
  let texts ← Assessment.readFiles paths
  let chosen ← IO.rand 0 (UInt64.size - 1)
  let out := Assessment.CommandLine.run (Assessment.filesOf texts) chosen.toUInt64 args
  IO.print out.stdout
  IO.eprint out.stderr
  return out.status.toUInt32
