import TransactSql.Expr.Basic
import TransactSql.ShapeError

/-!
# Checked construction of expressions

Each function makes one kind of node and refuses parts that do not fit its slots. The checks on
tokens run in the order of the slots unless a comment says otherwise.
-/

namespace TransactSql

namespace Checked

/-! ### Lists and tokens kept raw -/

/-- Items with one comma between each two, at least one. -/
def separated (node : NodeKind) (items : List α) (separators : List Token) :
    Shaped (List α × List Token) := do
  if items.isEmpty then .error (.emptyList node "items")
  else if separators.length + 1 ≠ items.length then
    .error (.separators node items.length separators.length)
  else
    separators.forM fun s => Check.kind node "separator" s .comma "','"
    return (items, separators)

def list (items : List Expr) (separators : List Token) : Shaped Expr := do
  let (items, separators) ← separated .exprList items separators
  return .list items separators

/-- Tokens of the source: no placeholder, no end of input and no error. -/
def rawTokens (tokens : List Token) : Shaped RawTokens :=
  match tokens.find? fun t => t.isPlaceholder || t.isEof || t.isError with
  | some bad => .error (.unexpectedToken .rawTokens "tokens" "source token" bad.kind.name)
  | none => .ok ⟨tokens⟩

/-! ### Operands -/

def literal (token : Token) : Shaped Expr := do
  Check.token .literal "value" token "literal" (token.kind.isLiteral || token.isKeyword .NULL)
  return .literal token

/-- Checks name parts from the left. A dot stands neither first nor last; `*` stands last only.
`first` tells whether the next part is the first one, `wanted` whether it may be a word. -/
def nameParts (first wanted : Bool) : List Token → Shaped Unit
  | [] => .ok ()
  | t :: rest =>
    if t.kind = .dot then do
      Check.token .name "separator" t "name part" (!first && !rest.isEmpty)
      nameParts false true rest
    else do
      Check.token .name "part" t "'.'" wanted
      Check.token .name "part" t "identifier"
        (t.isWord || (t.kind == .arithmetic .star && rest.isEmpty))
      nameParts false false rest

def name (parts : List Token) : Shaped Name := do
  if parts.isEmpty then .error (.emptyList .name "parts")
  else
    nameParts true true parts
    return ⟨parts⟩

def paren (lparen : Token) (inner : Expr) (rparen : Token) : Shaped Expr := do
  Check.parens .paren lparen rparen
  return .paren lparen inner rparen

/-! ### Operators -/

def unary (operator : Token) (operand : Expr) : Shaped Expr := do
  Check.token .unary "operator" operator "prefix operator"
    (operator.kind == .arithmetic .plus || operator.kind == .arithmetic .minus
      || operator.kind == .tilde || operator.isKeyword .NOT)
  return .unary operator operand

def binary (left : Expr) (operator : Token) (right : Expr) : Shaped Expr := do
  Check.token .binary "operator" operator "binary operator"
    (operator.kind.isArithmetic || operator.kind.isComparison
      || operator.isAnyKeyword [.AND, .OR])
  return .binary left operator right

def assignment (target : Expr) (operator : Token) (value : Expr) : Shaped Expr := do
  if target.name?.isNone then
    .error (.invalid .assignment "assignment target must be a name")
  else
    Check.token .assignment "operator" operator "assignment operator"
      operator.kind.isAssignment
    return .assignment target operator value

def isNull (operand : Expr) (isToken : Token) (not : Option Token) (null : Token) :
    Shaped Expr := do
  Check.keyword .isNull "is" isToken .IS
  Check.keyword? .isNull "not" not .NOT
  Check.keyword .isNull "null" null .NULL
  return .isNull operand isToken not null

/-- Checks the keyword of an optional part. -/
def tail (node : NodeKind) (slot : String) (k : Keyword) : Tail → Shaped Unit
  | .absent => .ok ()
  | .present keyword _ => Check.keyword node slot keyword k

def like (operand : Expr) (not : Option Token) (keyword : Token) (pattern : Expr)
    (escape : Tail) : Shaped Expr := do
  Check.keyword? .like "not" not .NOT
  Check.keyword .like "like" keyword .LIKE
  tail .like "escape" .ESCAPE escape
  return .like operand not keyword pattern escape

def between (operand : Expr) (not : Option Token) (keyword : Token) (low : Expr) (and : Token)
    (high : Expr) : Shaped Expr := do
  Check.keyword? .between "not" not .NOT
  Check.keyword .between "between" keyword .BETWEEN
  Check.keyword .between "and" and .AND
  return .between operand not keyword low and high

def isIn (operand : Expr) (not : Option Token) (keyword lparen : Token) (values : Expr)
    (rparen : Token) : Shaped Expr := do
  Check.keyword? .isIn "not" not .NOT
  Check.keyword .isIn "in" keyword .IN
  Check.parens .isIn lparen rparen
  return .isIn operand not keyword lparen values rparen

def collate (operand : Expr) (keyword collation : Token) : Shaped Expr := do
  Check.keyword .collate "collate" keyword .COLLATE
  Check.identifier .collate "collation" collation
  return .collate operand keyword collation

/-! ### Calls -/

def call (callee : Expr) (lparen : Token) (args : Option Expr) (rparen : Token) :
    Shaped Expr := do
  Check.parens .call lparen rparen
  return .call callee lparen args rparen

/-- Checks that a clause, if present, starts with the keyword. -/
def leading (node : NodeKind) (slot : String) (clause : Option Clause) (k : Keyword) :
    Shaped Unit :=
  match clause with
  | some ⟨first :: _, _⟩ => Check.keyword node slot first k
  | _ => .ok ()

def overClause (overToken lparen : Token) (partition order : Option Clause)
    (frame : Option RawTokens) (rparen : Token) : Shaped OverClause := do
  Check.keyword .overClause "over" overToken .OVER
  Check.kind .overClause "open paren" lparen .leftParen "'('"
  leading .overClause "clause" partition .PARTITION
  leading .overClause "clause" order .ORDER
  Check.kind .overClause "close paren" rparen .rightParen "')'"
  return { overToken, lparen, partition, order, frame, rparen }

def window (function : Expr) (overClause : OverClause) : Shaped Expr :=
  if function.isCall then .ok (.window function overClause)
  else .error (.invalid .window "OVER applies to a function call")

def cast (keyword lparen : Token) (operand : Expr) (asToken : Token) (dataType : DataType)
    (rparen : Token) : Shaped Expr := do
  Check.token .cast "cast" keyword "CAST" (keyword.isAnyKeyword [.CAST, .TRY_CAST])
  Check.kind .cast "open paren" lparen .leftParen "'('"
  Check.keyword .cast "as" asToken .AS
  Check.kind .cast "close paren" rparen .rightParen "')'"
  return .cast keyword lparen operand asToken dataType rparen

/-! ### Case -/

def whenClause (whenToken : Token) (condition : Expr) (thenToken : Token) (result : Expr) :
    Shaped WhenClause := do
  Check.keyword .whenClause "when" whenToken .WHEN
  Check.keyword .whenClause "then" thenToken .THEN
  return { whenToken, condition, thenToken, result }

def case (keyword : Token) (operand : Option Expr) (whens : List WhenClause) (otherwise : Tail)
    (endToken : Token) : Shaped Expr := do
  Check.keyword .case "case" keyword .CASE
  if whens.isEmpty then .error (.emptyList .case "WHEN arms")
  else
    tail .case "else" .ELSE otherwise
    Check.keyword .case "end" endToken .END
    return .case keyword operand whens otherwise endToken

/-! ### Data types -/

def typeName (name : Name) (lparen : Token) (args : Option Expr) (rparen : Token) :
    Shaped DataType := do
  Check.parenPair .typeName lparen rparen
  if lparen.isPlaceholder != args.isNone then
    .error (.invalid .typeName "type arguments need parentheses")
  else return .named name lparen args rparen

def tableType (tableToken lparen : Token) (definition : RawTokens) (rparen : Token) :
    Shaped TableType := do
  Check.keyword .tableType "table" tableToken .TABLE
  Check.parens .tableType lparen rparen
  return { tableToken, lparen, definition, rparen }

/-! ### Table sources and select items -/

def aliased (operand : Expr) (asToken name : Token) : Shaped Expr := do
  Check.optionalAs .aliased asToken
  Check.token .aliased "alias" name "alias" (name.isWord || name.kind == .literal .string)
  return .aliased operand asToken name

def sort (operand : Expr) (direction : Token) : Shaped Expr := do
  Check.token .sort "direction" direction "ASC or DESC" (direction.isAnyKeyword [.ASC, .DESC])
  return .sort operand direction

/-- Joins with `CROSS` or `APPLY` take no condition. -/
def isUnconditional (operator : List Token) : Bool :=
  operator.getLast?.any (·.isKeyword .APPLY) || operator.head?.any (·.isKeyword .CROSS)

def join (left : Expr) (operator : List Token) (right : Expr) (on : Tail) : Shaped Expr :=
  match operator.getLast? with
  | none => .error (.emptyList .join "join operator")
  | some last => do
    Check.token .join "operator" last "JOIN or APPLY"
      (operator.length ≤ 3 && last.isAnyKeyword [.JOIN, .APPLY])
    if isUnconditional operator == on.value?.isSome then
      .error (.invalid .join "ON is required for conditional joins only")
    else
      tail .join "on" .ON on
      return .join left operator right on

def tableHint (table : Expr) (keyword lparen : Token) (hints : Expr) (rparen : Token) :
    Shaped Expr := do
  Check.keyword .tableHint "with" keyword .WITH
  Check.parens .tableHint lparen rparen
  return .tableHint table keyword lparen hints rparen

/-! ### Queries -/

/-- A clause behind exactly the expected keywords. -/
def clause (keywords : List Token) (expected : List Keyword) (body : Expr) : Shaped Clause := do
  if keywords.length ≠ expected.length || expected.isEmpty then
    .error (.invalid .clause "keyword count does not match")
  else
    (keywords.zip expected).forM fun (t, k) => Check.keyword .clause "keyword" t k
    return ⟨keywords, body⟩

def top (topToken lparen : Token) (count : Expr) (rparen : Token) (percent : Option Token)
    (withTies : Option (Token × Token)) : Shaped TopClause := do
  Check.keyword .topClause "top" topToken .TOP
  Check.parenPair .topClause lparen rparen
  Check.keyword? .topClause "percent" percent .PERCENT
  Check.keyword? .topClause "with" (withTies.map (·.1)) .WITH
  Check.keyword? .topClause "ties" (withTies.map (·.2)) .TIES
  return { topToken, lparen, count, rparen, percent, withTies }

def select (keyword : Token) (quantifier : Option Token) (top : Option TopClause)
    (columns : Expr) (clauses : SelectClauses) : Shaped Expr := do
  Check.keyword .select "select" keyword .SELECT
  if let some q := quantifier then
    Check.token .select "quantifier" q "ALL or DISTINCT" (q.isAnyKeyword [.ALL, .DISTINCT])
  leading .select "clause" clauses.into .INTO
  leading .select "clause" clauses.source .FROM
  leading .select "clause" clauses.condition .WHERE
  leading .select "clause" clauses.grouping .GROUP
  leading .select "clause" clauses.having .HAVING
  return .select keyword quantifier top columns clauses

/-- `ALL` goes with `UNION` only. -/
def setOperation (left : Expr) (operator : Token) (all : Option Token) (right : Expr) :
    Shaped Expr := do
  Check.token .setOperation "operator" operator "UNION, EXCEPT or INTERSECT"
    (operator.isAnyKeyword [.UNION, .EXCEPT, .INTERSECT])
  if let some all := all then
    Check.keyword .setOperation "all" all .ALL
    Check.keyword .setOperation "operator" operator .UNION
  return .setOperation left operator all right

def rows (node : NodeKind) (t : Token) : Shaped Unit :=
  Check.token node "rows" t "ROW or ROWS" (t.isAnyKeyword [.ROW, .ROWS])

def fetch (fetchToken direction : Token) (count : Expr) (rowsToken only : Token) :
    Shaped FetchClause := do
  Check.keyword .fetchClause "fetch" fetchToken .FETCH
  Check.token .fetchClause "direction" direction "FIRST or NEXT"
    (direction.isAnyKeyword [.FIRST, .NEXT])
  rows .fetchClause rowsToken
  Check.keyword .fetchClause "only" only .ONLY
  return ⟨fetchToken, direction, count, rowsToken, only⟩

def offset (offsetToken : Token) (count : Expr) (rowsToken : Token)
    (fetch : Option FetchClause) : Shaped OffsetFetch := do
  Check.keyword .offsetFetch "offset" offsetToken .OFFSET
  rows .offsetFetch rowsToken
  return ⟨offsetToken, count, rowsToken, fetch⟩

def orderBy (query : Expr) (order : Clause) (offset : Option OffsetFetch) : Shaped Expr := do
  leading .orderBy "order" (some order) .ORDER
  return .orderBy query order offset

def queryOption (query : Expr) (keyword : Token) (options : RawTokens) : Shaped Expr := do
  Check.token .queryOption "keyword" keyword "FOR or OPTION"
    (keyword.isAnyKeyword [.FOR, .OPTION])
  if options.tokens.isEmpty then .error (.emptyList .queryOption "options")
  else return .queryOption query keyword options

end Checked

end TransactSql
