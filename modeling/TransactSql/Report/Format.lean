import TransactSql.Report.Basic
import TransactSql.Report.Json

/-!
# Texts of reports
-/

namespace TransactSql.Report

inductive Format where
  /-- One line a statement: place, kind and object. -/
  | text
  | json
  /-- The clean text of each statement. -/
  | clean
deriving Repr, DecidableEq

/-- The file and a line in it. -/
def place (file : String) (line : Nat) : String := file ++ ":" ++ toString line ++ ": "

def StatementSummary.line (s : StatementSummary) (format : Format) (file : String) : String :=
  match format with
  | .clean => s.clean ++ "\n"
  | _ => place file s.location.line ++ s.kind.label ++ (s.object.map (" " ++ ·)).getD "" ++ "\n"

namespace FileReport

/-- A line for each statement. -/
def statementLines (r : FileReport) (format : Format) : String :=
  String.join (r.batches.map fun b =>
    String.join (b.statements.map fun s => s.line format r.file))

/-- A line for each batch that has an error. -/
def errorLines (r : FileReport) : String :=
  String.join (r.batches.map fun b =>
    match b.error with
    | none => ""
    | some e =>
      place r.file ((e.location.map Location.line).getD b.line) ++ "error: " ++ e.message ++ "\n")

end FileReport

/-! ### JSON -/

def Location.json (l : Location) : Json :=
  .object [("start", .number l.start), ("end", .number l.stop), ("line", .number l.line)]

def StatementSummary.json (s : StatementSummary) : Json :=
  .object ([("kind", .string s.kind.label)]
    ++ (s.object.map fun o => ("object", .string o)).toList
    ++ (if s.params.isEmpty then [] else [("params", .array (s.params.map .string))])
    ++ [("span", s.location.json)])

def ErrorSummary.json (e : ErrorSummary) : Json :=
  .object (("message", .string e.message)
    :: (e.location.map fun l => ("location", l.json)).toList)

def BatchReport.json (b : BatchReport) : Json :=
  .object ([("line", .number b.line), ("statements", .array (b.statements.map (·.json)))]
    ++ (b.error.map fun e => ("error", e.json)).toList)

def FileReport.json (r : FileReport) : Json :=
  .object [("file", .string r.file), ("batches", .array (r.batches.map (·.json)))]

/-- The reports on all files. -/
def jsonText (reports : List FileReport) : String :=
  (Json.array (reports.map (·.json))).text 0 ++ "\n"

end TransactSql.Report
