import TransactSql.Batch
import TransactSql.Parse

/-!
# Reports

What the batches of a file contain, with places counted from the start of the file.
-/

namespace TransactSql.Report

/-- A span in a file, with the number of the line it starts on. -/
structure Location where
  start : Nat
  stop : Nat
  line : Nat
deriving Repr, DecidableEq

/-- The place in the file of a span in a batch. -/
def Location.ofSpan (b : Batch) (s : Span) : Location where
  start := b.offset + s.start
  stop := b.offset + s.stop
  line := b.line + ((Text.takeBytes s.start b.text.toList).map (·.count '\n')).getD 0

structure StatementSummary where
  kind : NodeKind
  /-- The object a statement creates or alters. -/
  object : Option String
  /-- The names of the parameters of a routine. -/
  params : List String
  location : Location
  clean : String
deriving Repr

structure ErrorSummary where
  message : String
  location : Option Location
deriving Repr

structure BatchReport where
  line : Nat
  statements : List StatementSummary
  error : Option ErrorSummary
deriving Repr

structure FileReport where
  file : String
  batches : List BatchReport
deriving Repr

def FileReport.hasErrors (r : FileReport) : Bool := r.batches.any (·.error.isSome)

def StatementSummary.ofStatement (b : Batch) (s : Statement) : StatementSummary where
  kind := s.kind
  object := s.objectName?
  params := s.params.map (·.name.text)
  location := .ofSpan b s.tree.span
  clean := s.tree.clean

def StatementSummary.ofExpr (b : Batch) (e : Expr) : StatementSummary where
  kind := e.kind
  object := none
  params := []
  location := .ofSpan b e.tree.span
  clean := e.tree.clean

def ErrorSummary.ofFailure (b : Batch) (f : Failure) : ErrorSummary where
  message := f.describe
  location := match f with
    | .grammar d => some (.ofSpan b d.span)
    | _ => none

/-- The report on a batch, given what its text was parsed to. -/
def BatchReport.ofResult (b : Batch) :
    Except Failure (List StatementSummary) → BatchReport
  | .ok statements => ⟨b.line, statements, none⟩
  | .error f => ⟨b.line, [], some (.ofFailure b f)⟩

/-- The report on a script, batch by batch. -/
def analyzeScript (file text : String) : FileReport where
  file
  batches := (splitBatches text).map fun b =>
    .ofResult b ((parseScript b.text).map (·.map (.ofStatement b)))

/-- The report on a text that is one expression. -/
def analyzeExpression (file text : String) : FileReport :=
  let b : Batch := ⟨text, 0, 1⟩
  { file, batches := [.ofResult b ((parseExpression text).map fun e => [.ofExpr b e])] }

end TransactSql.Report
