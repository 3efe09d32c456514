import TransactSql.Expr.Checked
import TransactSql.Parser.Extent
import TransactSql.Token.Precedence

/-!
# Names, parentheses and data types

The parts of expressions that need no operators. `sub` reads an expression one level deeper, all
of whose operators bind tighter than a given power.
-/

namespace TransactSql.Grammar

open TransactSql.Parser

/-! ### Names -/

/-- One more dot, or more, and the part behind it. Nothing follows `*`. -/
def namePart (parts : List Token) : Parser (Option (List Token)) := do
  if Name.isWildcard ⟨parts⟩ || !(← atKind .dot) then return none
  let dots ← takeRun fun ts => (ts.takeWhile (·.kind == .dot)).length
  if ← atKind (.arithmetic .star) then return some (parts ++ dots ++ [← take])
  return some (parts ++ dots ++ [← word "name"])

/-- A possibly qualified name: `a`, `a.b`, `db..t`, `t.*`. -/
def name : Parser Name := do
  let first ← word "name"
  let parts ← loop namePart [first]
  build (Checked.name parts)

/-! ### Parentheses -/

/-- An operand that runs into such a token is missing. -/
def isCutShort (t : Token) : Bool := t.isEof || t.kind == .rightParen || t.kind == .comma

/-- Keeps what stands in the present parentheses as raw tokens. -/
def rawParenBody : Parser (Option Expr × Token) := do
  let (tokens, rparen) ← readToCloseParen
  return (some (.raw (← build (Checked.rawTokens tokens))), rparen)

/-- What follows a `(`, up to and including the matching `)`. It is read in comparison context.
If it is not an expression its tokens are kept raw, unless the expression was merely cut
short. -/
def parenBody (sub : Precedence → Parser Expr) : Parser (Option Expr × Token) := do
  if let some rparen ← eatKind .rightParen then return (none, rparen)
  withAssignment false <| recording do
    match ← attempt (sub .none) with
    | .ok inner =>
      if ← atKind .rightParen then return (some inner, ← take) else rawParenBody
    | .error (.grammar d) =>
      if isCutShort (← rawCurrent) then throw (.grammar d) else rawParenBody
    | .error e => throw e

/-! ### Data types -/

/-- `TABLE (column definitions)`. -/
def tableType : Parser TableType := do
  let tableToken ← keyword .TABLE
  let lparen ← leftParen
  let (definition, rparen) ← recording readToCloseParen
  if definition.isEmpty then fail (.expected "column definitions")
  build (Checked.tableType tableToken lparen (← build (Checked.rawTokens definition)) rparen)

/-- A type without arguments. -/
def simpleType (name : Name) : DataType := .named name .placeholder none .placeholder

/-- `int`, `varchar(max)`, `dbo.Amount`, `TABLE (...)`. -/
def dataType (sub : Precedence → Parser Expr) : Parser DataType := do
  if ← atKeyword .TABLE then return .table (← tableType)
  let name ← context (.expected "data type") name
  match ← eatKind .leftParen with
  | none => return simpleType name
  | some lparen =>
    let (args, rparen) ← parenBody sub
    if args.isNone then fail (.expected "type arguments")
    build (Checked.typeName name lparen args rparen)

/-- `= value`, where the sign is read as an assignment and the value as a comparison. -/
def assignSign : Parser (Option Token) := withAssignment true (eatKind (.assignment none))

end TransactSql.Grammar
