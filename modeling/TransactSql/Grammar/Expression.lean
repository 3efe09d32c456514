import TransactSql.Grammar.Query

/-!
# Expressions

An operand is read first; then operators are applied to what has been read as long as they bind
tighter than the power asked for. An operand behind an operator is read one level deeper, so the
nesting of expressions is bounded by the depth.
-/

namespace TransactSql.Grammar

open TransactSql.Parser

variable (sub : Precedence → Parser Expr)

/-! ### Operands -/

def paren : Parser Expr := do
  let lparen ← take
  match ← parenBody sub with
  | (some inner, rparen) => build (Checked.paren lparen inner rparen)
  | (none, _) => fail (.expected "expression inside parentheses")

/-- `WHEN condition THEN result`. -/
def whenClause : Parser WhenClause := do
  let whenToken ← keyword .WHEN
  let condition ← sub .comma
  let thenToken ← keyword .THEN
  build (Checked.whenClause whenToken condition thenToken (← sub .comma))

def moreWhens (whens : List WhenClause) : Parser (Option (List WhenClause)) := do
  if ← atKeyword .WHEN then return some (whens ++ [← whenClause sub]) else return none

/-- The expression behind a keyword, if the keyword is there. -/
def optionalTail (k : Keyword) (value : Parser Expr) : Parser Tail := do
  match ← eatKeyword k with
  | some keyword => return .present keyword (← value)
  | none => return .absent

/-- The operand of a `CASE`, unless the first `WHEN` stands in its place. -/
def caseOperand : Parser (Option Expr) := do
  if ← atKeyword .WHEN then return none else return some (← sub .comma)

def caseExpr : Parser Expr := do
  let keyword ← take
  withAssignment false do
    let operand ← caseOperand sub
    let whens ← loop (moreWhens sub) [← whenClause sub]
    let otherwise ← optionalTail .ELSE (sub .comma)
    build (Checked.case keyword operand whens otherwise (← Parser.keyword .END))

/-- What an operator can be applied to. -/
def operand : Parser Expr := do
  let token ← current
  match token.kind with
  | .error _ => failAtError
  | .arithmetic .plus | .arithmetic .minus | .tilde =>
    let operator ← take
    build (Checked.unary operator (← sub .unary))
  | .leftParen => paren sub
  | .arithmetic .star => return .name (← build (Checked.name [← take]))
  | .literal _ => build (Checked.literal (← take))
  | .word (.keyword .NULL) => build (Checked.literal (← take))
  | .word (.keyword .NOT) =>
    let operator ← take
    build (Checked.unary operator (← sub .not))
  | .word (.keyword .CASE) => caseExpr sub
  | .word (.keyword .SELECT) => select sub
  | .word _ =>
    if token.startsExpression then return .name (← name) else failExpected "expression"
  | _ => failExpected "expression"

/-! ### Operators -/

def binary (left : Expr) : Parser Expr := do
  let operator ← take
  build (Checked.binary left operator (← sub operator.precedence))

def assignment (target : Expr) : Parser Expr := do
  if !target.name?.any (!·.isWildcard) then fail .assignmentTarget
  let operator ← take
  build (Checked.assignment target operator (← sub .assignment))

/-- All the items behind the commas that follow. -/
def list (first : Expr) : Parser Expr := do
  let (items, separators) ← commaTail first (sub .comma)
  build (Checked.list items separators)

def isNull (e : Expr) : Parser Expr := do
  let isToken ← take
  let not ← eatKeyword .NOT
  build (Checked.isNull e isToken not (← keyword .NULL))

/-- `BETWEEN`, `LIKE` and `IN`, behind a `NOT` that has been read. -/
def pattern (e : Expr) (not : Option Token) : Parser Expr := do
  match (← current).keyword? with
  | some .BETWEEN =>
    let keyword ← take
    let low ← sub .pattern
    let and ← Parser.keyword .AND
    build (Checked.between e not keyword low and (← sub .pattern))
  | some .LIKE =>
    let keyword ← take
    let pattern ← sub .pattern
    build (Checked.like e not keyword pattern (← optionalTail .ESCAPE (sub .pattern)))
  | _ =>
    let keyword ← keyword .IN
    let lparen ← leftParen
    match ← parenBody sub with
    | (some values, rparen) => build (Checked.isIn e not keyword lparen values rparen)
    | (none, _) => fail (.expected "values in IN list")

def collate (e : Expr) : Parser Expr := do
  let keyword ← take
  build (Checked.collate e keyword (← word "collation name"))

/-- `CAST(operand AS type)`, `CAST` having been read. -/
def cast (keyword : Token) : Parser Expr := do
  let lparen ← take
  withAssignment false do
    let e ← sub .comma
    let asToken ← Parser.keyword .AS
    let type ← dataType sub
    build (Checked.cast keyword lparen e asToken type (← rightParen))

/-- The lone `CAST` or `TRY_CAST` that an expression consists of. -/
def castKeyword? (callee : Expr) : Option Token :=
  match callee with
  | .name ⟨[t]⟩ => if t.isAnyKeyword [.CAST, .TRY_CAST] then some t else none
  | _ => none

def call (callee : Expr) : Parser Expr := do
  match castKeyword? callee with
  | some keyword => cast sub keyword
  | none =>
    let lparen ← take
    let (args, rparen) ← parenBody sub
    build (Checked.call callee lparen args rparen)

/-- The rest of the present parentheses as a window frame, if there is any. -/
def windowFrame : Parser (Option RawTokens × Token) := do
  match ← eatKind .rightParen with
  | some rparen => return (none, rparen)
  | none =>
    let (tokens, rparen) ← recording readToCloseParen
    return (some (← build (Checked.rawTokens tokens)), rparen)

def overClause : Parser OverClause := do
  let overToken ← take
  let lparen ← leftParen
  withAssignment false do
    let partition ← optionalByClause .PARTITION (sub .setOperator)
    let order ← optionalByClause .ORDER (sortItems sub)
    let (frame, rparen) ← windowFrame
    build (Checked.overClause overToken lparen partition order frame rparen)

/-- Names can be called, but neither variables nor `*`. -/
def isCallable (e : Expr) : Bool := e.name?.any fun n => !n.isVariable && !n.isWildcard

/-- The operator a keyword stands for behind `left`, if it applies there. -/
def keywordOperator (left : Expr) (k : Keyword) (next : Token) : Option (Parser Expr) :=
  match k with
  | .AND | .OR => some (binary sub left)
  | .IS => some (isNull left)
  | .NOT =>
    if next.isAnyKeyword [.BETWEEN, .LIKE, .IN] then
      some do pattern sub left (some (← take))
    else none
  | .BETWEEN | .LIKE | .IN => some (pattern sub left none)
  | .COLLATE => some (collate left)
  | .OVER =>
    if left.isCall then some do build (Checked.window left (← overClause sub)) else none
  | .UNION | .EXCEPT | .INTERSECT => if left.isQuery then some (setOperation sub left) else none
  | .ORDER => if left.isQuery && next.isKeyword .BY then some (orderBy sub left) else none
  | .FOR =>
    if left.isQuery && next.isAnyKeyword [.XML, .JSON, .BROWSE] then some (forOption left)
    else none
  | .OPTION => if left.isQuery && next.kind == .leftParen then some (hintOption left) else none
  | _ => none

/-- The operator a token stands for behind `left`, if it applies there. -/
def operator? (left : Expr) (token next : Token) : Option (Parser Expr) :=
  match token.kind with
  | .leftParen => if isCallable left then some (call sub left) else none
  | .comma => some (list sub left)
  | .assignment _ => some (assignment sub left)
  | .arithmetic _ | .comparison _ => some (binary sub left)
  | .word (.keyword k) => keywordOperator sub left k next
  | _ => none

/-- Applies the operator at the cursor if it binds tighter than `min`. -/
def applyOperator (min : Precedence) (left : Expr) : Parser (Option Expr) := do
  let token ← current
  if min < token.precedence then
    match operator? sub left token (← lookahead) with
    | some operator => return some (← operator)
    | none => return none
  else return none

/-- An expression all of whose operators bind tighter than `min`. -/
def expression (min : Precedence) : Parser Expr := do
  loop (applyOperator sub min) (← operand sub)

end TransactSql.Grammar

namespace TransactSql

/-- An expression of at most `depth` levels, all of whose operators bind tighter than `min`. -/
def Parser.expr : (depth : Nat) → (min : Precedence) → Parser Expr
  | 0, _ => fail .nestingTooDeep
  | depth + 1, min => Grammar.expression (Parser.expr depth) min

end TransactSql
