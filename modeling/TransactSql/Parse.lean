import TransactSql.Grammar.Statement
import TransactSql.Statement.Tree

/-!
# Parsing texts

The entry points. Each requires the whole text to be read.
-/

namespace TransactSql

/-- The nesting of expressions and statements that texts may have. -/
def defaultDepth : Nat := 64

namespace Parser

/-- Runs `p` on all of a text. A failure shows the text where it occurred. -/
def parseAll (p : Parser α) (text : String) : Except Failure α :=
  let whole : Parser α := do
    let a ← p
    expectEnd
    return a
  match whole (.ofText text) with
  | .ok a _ => .ok a
  | .error e _ => .error (e.withSource text)

/-- Statements up to the end of input. -/
def statements (depth : Nat) : Parser (List Statement) := Grammar.statements (statement depth)

/-- A statement that makes up all of the input: a block keeps its tokens if its body does not
follow the grammar. -/
def topStatement (depth : Nat) : Parser Statement := do
  if ← Grammar.atBlock then return .block (← Grammar.blockRecovering (statement depth))
  else statement depth

end Parser

/-- Parses a text as one expression. -/
def parseExpression (text : String) : Except Failure Expr :=
  Parser.parseAll (Parser.withAssignment false (Parser.expr defaultDepth .none)) text

/-- Parses a text as one statement. -/
def parseStatement (text : String) : Except Failure Statement :=
  Parser.parseAll (Parser.topStatement defaultDepth) text

/-- Parses a text as one statement, which has to be of the given kind. -/
def parseStatementOf (kind : NodeKind) (text : String) : Except Failure Statement := do
  let s ← parseStatement text
  if s.kind = kind then return s else throw (.mismatch kind s.kind)

/-- Parses a text as a sequence of statements. -/
def parseScript (text : String) : Except Failure (List Statement) :=
  Parser.parseAll (Parser.statements defaultDepth) text

end TransactSql
