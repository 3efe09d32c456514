import TransactSql.Grammar.Block
import TransactSql.Grammar.Declaration

/-!
# Routines

`CREATE` and `ALTER` of procedures, views and functions. Other objects are kept as tokens.
-/

namespace TransactSql.Grammar

open TransactSql.Parser

variable (expr : Precedence → Parser Expr) (statement : Parser Statement)

/-! ### Parts -/

/-- Refuses a routine whose body is external code. -/
def rejectExternal : Parser Unit := do
  if ← atKeywords .EXTERNAL .NAME then throw (.unsupported "CLR routine")

/-- How many tokens are options of a routine. An `AS` right after `EXECUTE` is part of one. -/
def optionsExtent (afterExecute : Bool) : List Token → Nat
  | [] => 0
  | t :: ts =>
    if t.isError || t.kind == .semicolon || (t.isKeyword .AS && !afterExecute)
        || t.isAnyKeyword [.FOR, .BEGIN, .RETURN] then 0
    else optionsExtent (t.isAnyKeyword [.EXEC, .EXECUTE]) ts + 1

/-- `WITH option, ...`, if it follows. -/
def routineOptions : Parser (Option RoutineOptions) := do
  match ← eatKeyword .WITH with
  | none => return none
  | some withToken =>
    let tokens ← takeRun (optionsExtent false)
    if tokens.isEmpty then fail (.expected "routine option")
    return some (← build (Checked.routineOptions withToken (← build (Checked.rawTokens tokens))))

/-- A query in which `=` is a comparison. -/
def queryBody (what : String) : Parser Expr := do
  let query ← value expr .none
  if !query.isQuery then fail (.expected what)
  return query

/-! ### Procedures -/

/-- Parameters in parentheses, or without, or none. -/
def procedureParams : Parser (Token × Option (SeparatedList ParamDecl) × Token) := do
  match ← eatKind .leftParen with
  | some lparen =>
    let params ← optionalParams expr
    return (lparen, params, ← rightParen)
  | none =>
    if (← current).isVariable then return (.placeholder, some (← params expr), .placeholder)
    else return (.placeholder, none, .placeholder)

def procedure (create : List Token) : Parser Statement := do
  let procedureToken ← take
  let name ← name
  let (lparen, params, rparen) ← procedureParams expr
  let options ← routineOptions
  let replication ← optionalPair .FOR .REPLICATION
  let asToken ← keyword .AS
  rejectExternal
  let body ← procedureBody statement
  build (Checked.createProcedure
    { create, procedureToken, name, lparen, params, rparen, options, replication, asToken } body)

/-! ### Views -/

def columnNames : Parser (SeparatedList Token) := do
  let (items, separators) ← commaSeparated (identifier "column name")
  build (Checked.names items separators)

/-- Column names in parentheses, if they follow. -/
def viewColumns : Parser (Token × Option (SeparatedList Token) × Token) := do
  match ← eatKind .leftParen with
  | some lparen =>
    let columns ← columnNames
    return (lparen, some columns, ← rightParen)
  | none => return (.placeholder, none, .placeholder)

/-- `WITH CHECK OPTION`, if it follows. -/
def checkOption : Parser (Option (Token × Token × Token)) := do
  if ← atKeywords .WITH .CHECK then return some (← take, ← take, ← keyword .OPTION)
  else return none

def view (create : List Token) : Parser Statement := do
  let viewToken ← take
  let name ← name
  let (lparen, columns, rparen) ← viewColumns
  let options ← routineOptions
  let asToken ← keyword .AS
  let query ← queryBody expr "query"
  let checkOption ← checkOption
  let terminator ← terminator
  build (Checked.createView
    { create, viewToken, name, lparen, columns, rparen, options, asToken, query, checkOption,
      terminator })

/-! ### Functions -/

def functionBody : Parser Block := do
  if ← atKeyword .BEGIN then blockRecovering statement else failExpected "BEGIN"

def functionSignature (create : List Token) : Parser FunctionSignature := do
  let functionToken ← take
  let name ← name
  let lparen ← leftParen
  let params ← optionalParams expr
  let rparen ← rightParen
  let returnsToken ← keyword .RETURNS
  build (Checked.functionSignature
    { create, functionToken, name, lparen, params, rparen, returnsToken })

/-- `TABLE [WITH options] [AS] RETURN query`. -/
def inlineFunction (signature : FunctionSignature) : Parser Statement := do
  let tableToken ← take
  let options ← routineOptions
  let asToken ← optionalAs
  let returnToken ← keyword .RETURN
  let query ← queryBody expr "query after RETURN"
  let terminator ← terminator
  build (Checked.createInlineFunction
    { signature, tableToken, options, asToken, returnToken, query, terminator })

/-- `@result TABLE (...) [WITH options] [AS] BEGIN ... END`. -/
def tableFunction (signature : FunctionSignature) : Parser Statement := do
  let result ← take
  let tableType ← tableType
  let options ← routineOptions
  let asToken ← optionalAs
  rejectExternal
  let body ← functionBody statement
  build (Checked.createTableFunction signature result tableType options asToken body)

/-- `type [WITH options] [AS] BEGIN ... END`. -/
def scalarFunction (signature : FunctionSignature) : Parser Statement := do
  let returnType ← dataType expr
  let options ← routineOptions
  let asToken ← optionalAs
  rejectExternal
  let body ← functionBody statement
  build (Checked.createScalarFunction signature returnType options asToken body)

/-- The form of a function shows in what it returns. -/
def function (create : List Token) : Parser Statement := do
  let signature ← functionSignature expr create
  if ← atKeyword .TABLE then inlineFunction expr signature
  else if (← current).isVariable then tableFunction statement signature
  else scalarFunction expr statement signature

/-! ### All objects -/

/-- `OR ALTER` behind a `CREATE`, if it follows. -/
def orAlter (first : Token) : Parser (List Token) := do
  if first.isKeyword .CREATE && (← atKeywords .OR .ALTER) then return [← take, ← take]
  else return []

/-- An unmodeled statement that starts with tokens already read. -/
def unmodeledFrom (before : List Token) : Parser Statement := do
  let tail ← statementTail before
  rawStatement (before ++ tail) (← terminator)

def create : Parser Statement := do
  let first ← take
  let tokens := first :: (← orAlter first)
  match (← current).keyword? with
  | some .PROC | some .PROCEDURE => procedure expr statement tokens
  | some .VIEW => view expr tokens
  | some .FUNCTION => function expr statement tokens
  | _ => unmodeledFrom tokens

end TransactSql.Grammar
