import TransactSql.Parser.Extent
import TransactSql.Statement.Checked

/-!
# Sequences of statements

Statement lists and blocks, and what is kept of a body that does not follow the grammar: its
tokens, as one statement. `statement` reads one statement.
-/

namespace TransactSql.Grammar

open TransactSql.Parser

variable (statement : Parser Statement)

/-- One more statement, unless the input is at its end. -/
def moreStatements (ss : List Statement) : Parser (Option (List Statement)) := do
  if ← atEnd then return none else return some (ss ++ [← statement])

/-- Statements up to the end of input. -/
def statements : Parser (List Statement) := loop (moreStatements statement) []

/-- Whether an `END` closes the present block. -/
def atBlockEnd : Parser Bool :=
  return (← current).isKeyword .END && !(← lookahead).isKeyword .CONVERSATION

/-- One more statement, unless the block is at its end. -/
def moreBlockStatements (ss : List Statement) : Parser (Option (List Statement)) := do
  if (← atEnd) || (← atBlockEnd) then return none else return some (ss ++ [← statement])

/-- Statements up to the `END` of the present block. -/
def blockBody : Parser (List Statement) := loop (moreBlockStatements statement) []

/-- `BEGIN statements END`. -/
def block : Parser Block := do
  let beginToken ← keyword .BEGIN
  let body ← blockBody statement
  let endToken ← context (.missing "END") (keyword .END)
  build (Checked.block beginToken body endToken (← terminator))

/-! ### Recovery -/

/-- Runs `p`. If the text does not follow the grammar, reads it to its end and gives `recover`
the tokens since the start of `p`, with a final `;` apart. -/
def recovering (p : Parser α) (recover : List Token → Option Token → Parser α) : Parser α :=
  recording do
    match ← attempt p with
    | .ok a => return a
    | .error (.grammar _) =>
      let (tokens, terminator) ← readToEnd
      recover tokens terminator
    | .error e => throw e

/-- A statement kept as its tokens. -/
def rawStatement (tokens : List Token) (terminator : Token) : Parser Statement := do
  build (Checked.unmodeled (← build (Checked.rawTokens tokens)) terminator)

/-- The tokens of a body as at most one statement. -/
def recoveredStatements (tokens : List Token) : Parser (List Statement) := do
  if tokens.isEmpty then return [] else return [← rawStatement tokens .placeholder]

/-- `BEGIN tokens END` as a block around one statement. -/
def recoveredBlock (tokens : List Token) (terminator : Option Token) : Parser Block := do
  match tokens.head?, tokens.tail.getLast? with
  | some beginToken, some endToken =>
    if !beginToken.isKeyword .BEGIN || !endToken.isKeyword .END then fail (.missing "END")
    let body ← recoveredStatements tokens.tail.dropLast
    build (Checked.block beginToken body endToken (terminator.getD .placeholder))
  | _, _ => fail (.missing "END")

/-- A block that reads to the end of input if its body does not follow the grammar. -/
def blockRecovering : Parser Block := recovering (block statement) recoveredBlock

/-- Whether a `BEGIN` at the cursor opens a block. -/
def atBlock : Parser Bool :=
  return (← current).isKeyword .BEGIN && !(← lookahead).isAnyKeyword
    [.TRAN, .TRANSACTION, .TRY, .DIALOG, .CONVERSATION, .DISTRIBUTED]

/-- The tokens of a body as one block, or else as one statement. -/
def recoveredBody (tokens : List Token) (terminator : Option Token) :
    Parser (List Statement) := do
  if tokens.head?.any (·.isKeyword .BEGIN) && tokens.getLast?.any (·.isKeyword .END) then
    return [.block (← recoveredBlock tokens terminator)]
  else if tokens.isEmpty then fail (.expected "procedure body")
  else return [← rawStatement tokens (terminator.getD .placeholder)]

/-- The statements of a procedure, up to the end of input. -/
def procedureBody : Parser (List Statement) := do
  if ← atEnd then fail (.expected "procedure body")
  recovering (statements statement) recoveredBody

end TransactSql.Grammar
