import TransactSql.Grammar.Operand
import TransactSql.Grammar.RawStatement

/-!
# Queries

`SELECT` with its clauses, table sources, and the operators on finished queries.
-/

namespace TransactSql.Grammar

open TransactSql.Parser

variable (sub : Precedence → Parser Expr)

/-! ### Clauses -/

/-- A list of expressions, or the expression alone if there is one only. -/
def listOrSingle (read : List Expr × List Token) : Shaped Expr :=
  match read.1 with
  | [e] => .ok e
  | items => Checked.list items read.2

/-- The clause behind a keyword, if the keyword is there. -/
def optionalClause (k : Keyword) (body : Parser Expr) : Parser (Option Clause) := do
  match ← eatKeyword k with
  | none => return none
  | some t => return some (← build (Checked.clause [t] [k] (← body)))

/-- The clause behind a keyword and `BY`, if the keyword is there. -/
def optionalByClause (k : Keyword) (body : Parser Expr) : Parser (Option Clause) := do
  if !(← atKeyword k) then return none
  let first ← take
  let second ← keyword .BY
  return some (← build (Checked.clause [first, second] [k, .BY] (← body)))

/-- An expression with an optional direction. -/
def sortItem : Parser Expr := do
  let e ← sub .comma
  match ← eatAnyKeyword [.ASC, .DESC] with
  | some direction => build (Checked.sort e direction)
  | none => return e

def sortItems : Parser Expr := do build (listOrSingle (← commaSeparated (sortItem sub)))

/-- The count of a `TOP` with its optional parentheses. -/
def topCount : Parser (Token × Expr × Token) := do
  match ← eatKind .leftParen with
  | some lparen =>
    let count ← sub .none
    return (lparen, count, ← rightParen)
  | none => return (.placeholder, ← sub .unary, .placeholder)

/-- Two keywords, if both follow. -/
def optionalPair (first second : Keyword) : Parser (Option (Token × Token)) := do
  if ← atKeywords first second then return some (← take, ← take) else return none

/-- `TOP n` or `TOP (n)`, with `PERCENT` and `WITH TIES`. -/
def topClause : Parser TopClause := do
  let topToken ← take
  withAssignment false do
    let (lparen, count, rparen) ← topCount sub
    let percent ← eatKeyword .PERCENT
    let withTies ← optionalPair .WITH .TIES
    build (Checked.top topToken lparen count rparen percent withTies)

def optionalTop : Parser (Option TopClause) := do
  if ← atKeyword .TOP then return some (← topClause sub) else return none

/-- An expression with an optional alias. Without `AS`, `accepts` tells which tokens are
aliases. -/
def aliased (e : Expr) (accepts : Token → Bool) : Parser Expr := do
  if let some asToken ← eatKeyword .AS then
    let name ← context (.invalid "alias")
      (require (fun t => t.isWord || t.kind == .literal .string) "alias")
    build (Checked.aliased e asToken name)
  else if accepts (← current) then
    build (Checked.aliased e .placeholder (← take))
  else return e

def selectItem : Parser Expr := do
  aliased (← sub .comma) fun t => t.isPlainIdentifier || t.kind == .literal .string

/-- The select list, a list also if it has one item. -/
def selectColumns : Parser Expr := do
  let (items, separators) ← commaSeparated (selectItem sub)
  build (Checked.list items separators)

/-! ### Table sources -/

/-- The words of a join, if one follows. -/
def joinOperator : Parser (Option (List Token)) := do
  match (← current).keyword? with
  | some .JOIN => return some [← take]
  | some .INNER => return some [← take, ← keyword .JOIN]
  | some .LEFT | some .RIGHT | some .FULL =>
    if !(← lookahead).isAnyKeyword [.JOIN, .OUTER] then return none
    let side ← take
    let outer ← eatKeyword .OUTER
    return some (side :: outer.toList ++ [← keyword .JOIN])
  | some .CROSS =>
    let cross ← take
    match ← eatKeyword .APPLY with
    | some apply => return some [cross, apply]
    | none => return some [cross, ← keyword .JOIN]
  | some .OUTER =>
    if (← lookahead).isKeyword .APPLY then return some [← take, ← take] else return none
  | _ => return none

/-- The condition of a join, unless it takes none. -/
def joinCondition (operator : List Token) : Parser Tail := do
  if Checked.isUnconditional operator then return .absent
  let keyword ← keyword .ON
  return .present keyword (← sub .comma)

/-- One more join to the sources on its left. -/
def joinStep (source : Parser Expr) (left : Expr) : Parser (Option Expr) := do
  match ← joinOperator with
  | none => return none
  | some operator =>
    let right ← source
    let on ← joinCondition sub operator
    return some (← build (Checked.join left operator right on))

def joinChain (source : Parser Expr) : Parser Expr := do
  loop (joinStep sub source) (← source)

/-- A table, a query in parentheses, or `sources` in parentheses. -/
def tableOrJoin (sources : Parser Expr) : Parser Expr := do
  let next ← lookahead
  if (← atKind .leftParen) && !next.isKeyword .SELECT && next.kind != .leftParen then
    let lparen ← take
    let inner ← sources
    build (Checked.paren lparen inner (← rightParen))
  else sub .unary

/-- The hints of a table, if there are any. -/
def hinted (table : Expr) : Parser Expr := do
  if !((← atKeyword .WITH) && (← lookahead).kind == .leftParen) then return table
  let keyword ← take
  let lparen ← take
  match ← parenBody sub with
  | (some hints, rparen) => build (Checked.tableHint table keyword lparen hints rparen)
  | (none, _) => fail (.expected "table hints")

/-- A table source with its alias and hints. -/
def tableSource (sources : Parser Expr) : Parser Expr := do
  let source ← tableOrJoin sub sources
  hinted sub (← aliased source Token.isPlainIdentifier)

/-- Join chains with commas between them, with at most `limit` parentheses around joins. -/
def tableSources : (limit : Nat) → Parser Expr
  | 0 => fail .nestingTooDeep
  | limit + 1 => do
    build (listOrSingle (← commaSeparated (joinChain sub (tableSource sub (tableSources limit)))))

/-- The sources behind `FROM`. Each parenthesis is a token, so their number is no limit. -/
def fromSources : Parser Expr := do tableSources sub ((← get).ahead.length + 1)

/-! ### Select -/

def selectClauses : Parser SelectClauses := do
  let into ← optionalClause .INTO (sub .unary)
  let source ← optionalClause .FROM (fromSources sub)
  let condition ← optionalClause .WHERE (sub .comma)
  let grouping ← optionalByClause .GROUP (sub .setOperator)
  let having ← optionalClause .HAVING (sub .comma)
  return { into, source, condition, grouping, having }

/-- `SELECT` up to `HAVING`. Only in the select list is `=` an assignment. -/
def select : Parser Expr := do
  let keyword ← keyword .SELECT
  let quantifier ← eatAnyKeyword [.ALL, .DISTINCT]
  let top ← optionalTop sub
  let columns ← withAssignment true (selectColumns sub)
  let clauses ← withAssignment false (selectClauses sub)
  build (Checked.select keyword quantifier top columns clauses)

/-! ### Operators on queries -/

/-- `ALL` behind a `UNION`, if it follows. -/
def optionalAll (operator : Token) : Parser (Option Token) :=
  if operator.isKeyword .UNION then eatKeyword .ALL else return none

def setOperation (left : Expr) : Parser Expr := do
  let operator ← take
  let all ← optionalAll operator
  let right ← sub .setOperator
  if !right.isQuery then fail (.expected ("query after " ++ operator.text.map Char.toUpper))
  build (Checked.setOperation left operator all right)

def rowsKeyword : Parser Token := do
  match ← eatAnyKeyword [.ROW, .ROWS] with
  | some t => return t
  | none => failExpected "ROW or ROWS"

def fetchClause : Parser (Option FetchClause) := do
  match ← eatKeyword .FETCH with
  | none => return none
  | some fetchToken =>
    let direction ← context (.invalid "FETCH clause")
      (require (·.isAnyKeyword [.FIRST, .NEXT]) "FIRST or NEXT")
    let count ← sub .comma
    let rows ← rowsKeyword
    let only ← keyword .ONLY
    return some (← build (Checked.fetch fetchToken direction count rows only))

def offsetFetch : Parser OffsetFetch := do
  let offsetToken ← take
  let count ← sub .comma
  let rows ← rowsKeyword
  build (Checked.offset offsetToken count rows (← fetchClause sub))

def optionalOffset : Parser (Option OffsetFetch) := do
  if ← atKeyword .OFFSET then return some (← offsetFetch sub) else return none

/-- `ORDER BY` with an optional `OFFSET`. -/
def orderBy (query : Expr) : Parser Expr := withAssignment false do
  let first ← take
  let second ← keyword .BY
  let items ← sortItems sub
  let order ← build (Checked.clause [first, second] [.ORDER, .BY] items)
  build (Checked.orderBy query order (← optionalOffset sub))

/-- `FOR XML` and its like, whose options go on to the end of the statement. -/
def forOption (query : Expr) : Parser Expr := do
  let keyword ← take
  let options ← statementTail []
  build (Checked.queryOption query keyword (← build (Checked.rawTokens options)))

/-- `OPTION (hints)`. -/
def hintOption (query : Expr) : Parser Expr := do
  let keyword ← take
  let lparen ← take
  let (tokens, rparen) ← recording readToCloseParen
  let options ← build (Checked.rawTokens (lparen :: tokens ++ [rparen]))
  build (Checked.queryOption query keyword options)

end TransactSql.Grammar
