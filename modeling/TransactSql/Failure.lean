import TransactSql.ShapeError

/-!
# Failures

Why a text was not accepted.
-/

namespace TransactSql

/-- Why the grammar does not go on at a token. -/
inductive Fault where
  | expected (what : String)
  | expectedFound (what found : String)
  | unexpected (found : String)
  | missing (what : String)
  | invalid (what : String)
  /-- The message of an error token. -/
  | stated (message : String)
  | nestingTooDeep
  | assignmentTarget
  | tableInitialValue
deriving Repr, DecidableEq

def Fault.message : Fault → String
  | .expected what => "expected " ++ what
  | .expectedFound what found => "expected " ++ what ++ ", found " ++ found
  | .unexpected found => "unexpected " ++ found
  | .missing what => "missing " ++ what
  | .invalid what => "invalid " ++ what
  | .stated message => message
  | .nestingTooDeep => "nesting too deep"
  | .assignmentTarget => "assignment target must be a name"
  | .tableInitialValue => "table variables take no initial value"

/-- A fault in the text, with what it led to: the root cause comes last. -/
structure Diagnostic where
  faults : List Fault
  span : Span
  /-- The start of the line at the fault, once the text is known. -/
  near : String := ""
deriving Repr, DecidableEq

namespace Diagnostic

def message (d : Diagnostic) : String := ": ".intercalate (d.faults.map Fault.message)

/-- The number of characters of the text that are shown. -/
def nearWidth : Nat := 40

/-- The characters up to the end of the line, which is before `\n` or `\r\n`. -/
def firstLine : List Char → List Char
  | [] => []
  | '\n' :: _ => []
  | '\r' :: '\n' :: _ => []
  | c :: cs => c :: firstLine cs

/-- Shows the start of the line at the fault. -/
def withSource (d : Diagnostic) (text : String) : Diagnostic :=
  let rest := (Text.dropBytes d.span.start text.toList).getD []
  { d with near := .ofList ((firstLine rest).take nearWidth) }

/-- The message with its position and the text there. -/
def describe (d : Diagnostic) : String :=
  d.message ++ " at position " ++ toString d.span.start ++ ".." ++ toString d.span.stop
    ++ if d.near.isEmpty then "" else " near '" ++ d.near ++ "'"

end Diagnostic

inductive Failure where
  /-- The text does not follow the grammar. -/
  | grammar (d : Diagnostic)
  /-- Parts do not make a node. -/
  | shape (e : ShapeError)
  /-- The text is a statement of another kind than asked for. -/
  | mismatch (expected found : NodeKind)
  /-- The text uses a construct that is refused. -/
  | unsupported (what : String)
deriving Repr, DecidableEq

namespace Failure

def describe : Failure → String
  | .grammar d => d.describe
  | .shape e => e.message
  | .mismatch expected found => "expected " ++ expected.label ++ ", found " ++ found.label
  | .unsupported what => what ++ " is not supported"

def withSource (text : String) : Failure → Failure
  | .grammar d => .grammar (d.withSource text)
  | f => f

end Failure

end TransactSql
