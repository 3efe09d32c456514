import TransactSql.Grammar.Query
import TransactSql.Statement.Checked

/-!
# Declarations

Variables, cursors and parameters. `expr` reads an expression.
-/

namespace TransactSql.Grammar

open TransactSql.Parser

variable (expr : Precedence → Parser Expr)

/-- An expression in which `=` is a comparison. -/
def value (min : Precedence) : Parser Expr := withAssignment false (expr min)

/-- `@name [AS] type [= value]`. -/
def varDecl : Parser VarDecl := do
  let name ← variableName
  let asToken ← optionalAs
  let type ← dataType expr
  match ← assignSign with
  | none => build (Checked.varDecl name asToken type .absent)
  | some eq =>
    if type.isTable then fail .tableInitialValue
    build (Checked.varDecl name asToken type (.present eq (← value expr .comma)))

/-- `FOR UPDATE [OF columns]`, if it follows. -/
def updateClause : Parser (Option RawTokens) := do
  if ← atKeywords .FOR .UPDATE then
    return some (← build (Checked.rawTokens (← statementTail [])))
  else return none

/-- `name [options] CURSOR [options] FOR query`, `DECLARE` having been read. -/
def declareCursor (declareToken : Token) : Parser Statement := do
  let name ← take
  let isoOptions ← takeRun (rawExtent (·.isKeyword .CURSOR))
  let cursorToken ← keyword .CURSOR
  let options ← takeRun (rawExtent (·.isKeyword .FOR))
  let forToken ← keyword .FOR
  let query ← value expr .none
  if !query.isQuery then fail (.expected "query after FOR")
  let update ← updateClause
  let isoOptions ← build (Checked.rawTokens isoOptions)
  let options ← build (Checked.rawTokens options)
  let terminator ← terminator
  build (Checked.declareCursor
    { declareToken, name, isoOptions, cursorToken, options, forToken, query, update, terminator })

/-- `DECLARE` of a cursor if a plain name follows, else of variables. -/
def declare : Parser Statement := do
  let declareToken ← keyword .DECLARE
  if (← current).isPlainIdentifier then declareCursor expr declareToken
  else
    let (items, separators) ← commaSeparated (varDecl expr)
    let declarations ← build (Checked.declarations items separators)
    build (Checked.declare declareToken declarations (← terminator))

/-- `OUT`, `OUTPUT` and `READONLY`, as many as follow. -/
def modifiers : Parser (List Token) :=
  takeRun fun ts => (ts.takeWhile (·.isAnyKeyword [.OUT, .OUTPUT, .READONLY])).length

/-- `= default`, if it follows. -/
def paramDefault : Parser Tail := do
  match ← assignSign with
  | some eq => return .present eq (← value expr .comma)
  | none => return .absent

/-- `@name [AS] type [VARYING] [= default] [OUT|OUTPUT] [READONLY]`. -/
def paramDecl : Parser ParamDecl := do
  let name ← variableName
  let asToken ← optionalAs
  let type ← dataType expr
  let varying ← eatKeyword .VARYING
  let initial ← paramDefault expr
  build (Checked.paramDecl name asToken type varying initial (← modifiers))

def params : Parser (SeparatedList ParamDecl) := do
  let (items, separators) ← commaSeparated (paramDecl expr)
  build (Checked.declarations items separators)

/-- Parameters, or none before a `)`. -/
def optionalParams : Parser (Option (SeparatedList ParamDecl)) := do
  if ← atKind .rightParen then return none else return some (← params expr)

end TransactSql.Grammar
