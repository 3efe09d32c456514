import TransactSql.Parse

/-!
# Parsing in steps

Several parsers run one after another on the same cursor. A fault that one of them leaves is
seen by all later ones.
-/

namespace TransactSql

namespace Session

inductive Step where
  | expr (min : Precedence)
  | statement
  | statements
  | expectEnd
  | atEnd
deriving Repr, DecidableEq

inductive Reply where
  | expr (e : Expr)
  | statement (s : Statement)
  | statements (ss : List Statement)
  | finished
  | atEnd (answer : Bool)

/-- The parser of a step, with nesting up to `depth`. -/
def Step.parser (depth : Nat) : Step → Parser Reply
  | .expr min => return .expr (← Parser.expr depth min)
  | .statement => return .statement (← Parser.statement depth)
  | .statements => return .statements (← Parser.statements depth)
  | .expectEnd => do
    Parser.expectEnd
    return .finished
  | .atEnd => return .atEnd (← Parser.atEnd)

/-- The outcome of every step, from the given cursor on. -/
def run (depth : Nat) : List Step → Cursor → List (Except Failure Reply)
  | [], _ => []
  | step :: steps, c =>
    match step.parser depth c with
    | .ok reply c => .ok reply :: run depth steps c
    | .error e c => .error e :: run depth steps c

end Session

end TransactSql
