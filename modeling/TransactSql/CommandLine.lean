import TransactSql.Report.Format

/-!
# The command line

What a run on given files prints, and its exit code.
-/

namespace TransactSql.CommandLine

open Report

inductive Command where
  /-- Print what the files contain. -/
  | parse (format : Format) (expression : Bool)
  /-- Print errors only. -/
  | check
deriving Repr, DecidableEq

/-- A file by its name, with its text unless there is no such file. -/
structure Input where
  name : String
  text : Option String
deriving Repr, DecidableEq

structure Outcome where
  code : Nat
  stdout : String
  stderr : String
deriving Repr, DecidableEq

/-- What is said about a file that does not exist. -/
def missingFile (name : String) : String :=
  "Error: Failed to read " ++ name
    ++ "\n\nCaused by:\n    No such file or directory (os error 2)\n"

/-- The reports on the files up to the first that is missing, and the name of that one. -/
def analyze (report : String → String → FileReport) :
    List Input → List FileReport × Option String
  | [] => ([], none)
  | input :: inputs =>
    match input.text with
    | none => ([], some input.name)
    | some text =>
      let (reports, missing) := analyze report inputs
      (report input.name text :: reports, missing)

/-- The outcome of a run that printed `stdout`. A missing file ends it. -/
def finish (reports : List FileReport) (missing : Option String) (stdout : String) : Outcome :=
  let errors := String.join (reports.map FileReport.errorLines)
  match missing with
  | some name => ⟨1, stdout, errors ++ missingFile name⟩
  | none => ⟨if reports.any FileReport.hasErrors then 1 else 0, stdout, errors⟩

def run (command : Command) (inputs : List Input) : Outcome :=
  match command with
  | .check =>
    let (reports, missing) := analyze analyzeScript inputs
    finish reports missing ""
  | .parse format expression =>
    let (reports, missing) :=
      analyze (if expression then analyzeExpression else analyzeScript) inputs
    match format with
    | .json =>
      -- errors are part of the reports, which are printed only if all files were read
      match missing with
      | some name => ⟨1, "", missingFile name⟩
      | none => { finish reports none (jsonText reports) with stderr := "" }
    | format => finish reports missing (String.join (reports.map (·.statementLines format)))

end TransactSql.CommandLine
