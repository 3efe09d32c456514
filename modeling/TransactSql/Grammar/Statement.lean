import TransactSql.Grammar.Expression
import TransactSql.Grammar.Routine

/-!
# Statements

Each statement is told by its first word. Statements inside a statement are read one level
deeper, so their nesting is bounded by the depth.
-/

namespace TransactSql.Grammar

open TransactSql.Parser

variable (expr : Precedence → Parser Expr) (statement : Parser Statement)

def expressionStatement : Parser Statement := do
  let e ← value expr .none
  build (Checked.expression e (← terminator))

/-- A statement kept as its tokens, the first one whatever it is. -/
def unmodeled : Parser Statement := do unmodeledFrom [← take]

/-! ### Blocks -/

def beginTransaction : Parser Statement := do
  let beginToken ← take
  let transaction ← take
  let name ← eat fun t => t.isWord && !t.isReserved
  build (Checked.beginTransaction beginToken transaction name (← terminator))

def keywordPair (first second : Keyword) : Parser (Token × Token) :=
  return (← keyword first, ← keyword second)

def tryCatch : Parser Statement := do
  let beginTry := (← take, ← take)
  let tryBody ← blockBody statement
  let endTry ← keywordPair .END .TRY
  let beginCatch ← keywordPair .BEGIN .CATCH
  let catchBody ← blockBody statement
  let endCatch ← keywordPair .END .CATCH
  build (Checked.tryCatch beginTry tryBody endTry beginCatch catchBody endCatch (← terminator))

/-- What a `BEGIN` starts shows in the word after it. -/
def beginStatement : Parser Statement := do
  match (← lookahead).keyword? with
  | some .TRAN | some .TRANSACTION => beginTransaction
  | some .TRY => tryCatch statement
  | some .DIALOG | some .CONVERSATION | some .DISTRIBUTED => unmodeled
  | _ => return .block (← block statement)

/-! ### Control flow -/

def elseBranch : Parser ElseBranch := do
  match ← eatKeyword .ELSE with
  | some keyword => return .present keyword (← statement)
  | none => return .absent

def ifElse : Parser Statement := do
  let ifToken ← take
  let condition ← value expr .comma
  let thenBranch ← statement
  build (Checked.ifElse ifToken condition thenBranch (← elseBranch statement))

def whileLoop : Parser Statement := do
  let whileToken ← take
  let condition ← value expr .comma
  build (Checked.whileLoop whileToken condition (← statement))

def loopControl : Parser Statement := do
  let keyword ← take
  build (Checked.loopControl keyword (← terminator))

/-- The value behind a `RETURN`, if one follows. A query is not a returned value. -/
def optionalValue : Parser (Option Expr) := do
  let token ← current
  if token.startsExpression && !token.isKeyword .SELECT then return some (← value expr .comma)
  else return none

def returnValue : Parser Statement := do
  let returnToken ← take
  let value ← optionalValue expr
  build (Checked.returnValue returnToken value (← terminator))

def goto : Parser Statement := do
  let gotoToken ← take
  let label ← identifier "label"
  build (Checked.goto gotoToken label (← terminator))

def label : Parser Statement := do
  let label ← take
  build (Checked.label label (← take))

/-! ### Set -/

/-- `@variable = value`, or a compound assignment, `SET` having been read. -/
def setVariable (setToken : Token) : Parser Statement := do
  let next := (← lookahead).kind
  if next != .comparison .eq && !next.isAssignment then
    fail (.expected "assignment to variable")
  let variableName ← take
  let (operator, value) ← withAssignment true do
    let operator ← take
    pure (operator, ← expr .assignment)
  build (Checked.setVariable setToken variableName operator value (← terminator))

/-- `option[, option...] value`, `SET` having been read. -/
def setOption (setToken : Token) : Parser Statement := do
  let (items, separators) ← commaSeparated (word "option name")
  let options ← build (Checked.names items separators)
  let value ← build (Checked.rawTokens (← statementTail []))
  build (Checked.setOption setToken options value (← terminator))

def set : Parser Statement := do
  let setToken ← take
  if (← current).isVariable then setVariable expr setToken else setOption setToken

/-! ### All statements -/

/-- The statement that a word starts. -/
def wordStatement (token : Token) : Parser Statement := do
  let next ← lookahead
  match token.keyword? with
  | some .BEGIN => beginStatement statement
  | some .IF => ifElse expr statement
  | some .WHILE => whileLoop expr statement
  | some .BREAK | some .CONTINUE => loopControl
  | some .RETURN => returnValue expr
  | some .GOTO => goto
  | some .SET => set expr
  | some .DECLARE => declare expr
  | some .CREATE | some .ALTER => create expr statement
  | some .SELECT => expressionStatement expr
  | some .END =>
    if next.isKeyword .CONVERSATION then unmodeled else fail (.unexpected token.describe)
  | some .ELSE => fail (.unexpected token.describe)
  | _ =>
    if token.isPlainIdentifier && next.kind == .colon then label
    else if startsStatement token then unmodeled
    else failExpected "statement"

/-- One statement with its optional `;`. -/
def anyStatement : Parser Statement := do
  let token ← current
  match token.kind with
  | .semicolon => build (Checked.empty (← take))
  | .leftParen => expressionStatement expr
  | .word _ => wordStatement expr statement token
  | .error _ => failAtError
  | _ => failExpected "statement"

end TransactSql.Grammar

namespace TransactSql

/-- A statement of at most `depth` levels. -/
def Parser.statement : (depth : Nat) → Parser Statement
  | 0 => fail .nestingTooDeep
  | depth + 1 => Grammar.anyStatement (Parser.expr depth) (Parser.statement depth)

end TransactSql
