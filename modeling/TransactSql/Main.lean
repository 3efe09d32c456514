import TransactSql.CommandLine.Arguments
import TransactSql.CommandLine.Sources

/-!
# The program

Reads the files that the command line names, prints what the run gives and ends with its exit
code.
-/

namespace TransactSql.CommandLine

/-- The lines of a stream up to its end, behind those read before. -/
partial def readLines (stream : IO.FS.Stream) (read : String) : IO String := do
  let line ← stream.getLine
  if line.isEmpty then return read else readLines stream (read ++ line)

/-- A file with its text, if there is such a file. -/
def readInput (name : String) : IO Input := do
  if name = standardInputName then return ⟨name, some (← readLines (← IO.getStdin) "")⟩
  try
    return ⟨name, some (← IO.FS.readFile name)⟩
  catch
    | .noFileOrDirectory .. => return ⟨name, none⟩
    | e => throw e

/-- The outcome of a run with the given arguments. -/
def runArguments (arguments : List String) : IO Outcome := do
  match Invocation.ofArguments arguments with
  | .error e => return ⟨usageErrorCode, "", e.message⟩
  | .ok i => return run i.command (← i.files.mapM readInput)

end TransactSql.CommandLine

open TransactSql in
def main (arguments : List String) : IO UInt32 := do
  let outcome ← CommandLine.runArguments arguments
  IO.print outcome.stdout
  IO.eprint outcome.stderr
  return outcome.code.toUInt32
