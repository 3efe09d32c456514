import TransactSql.Token.Basic
import TransactSql.Tree.NodeKind

/-!
# Expressions

The abstract form of expressions and queries. Every node keeps all of its tokens. Optional
punctuation that is absent leaves a placeholder; an optional clause that is absent leaves
nothing. A query is an expression too: set operators, `ORDER BY` and query options are operators
on queries.
-/

namespace TransactSql

/-- A possibly qualified name, a variable or `*`: the words and the dots between them. -/
structure Name where
  parts : List Token
deriving Repr, DecidableEq, Inhabited

/-- Tokens kept as they are where the grammar goes into no detail. -/
structure RawTokens where
  tokens : List Token
deriving Repr, DecidableEq, Inhabited

/-- `TABLE (column definitions)`. -/
structure TableType where
  tableToken : Token
  lparen : Token
  definition : RawTokens
  rparen : Token
deriving Repr, DecidableEq, Inhabited

mutual

inductive Expr where
  /-- A number, a string, a binary value or `NULL`. -/
  | literal (token : Token)
  | name (name : Name)
  /-- A sign, `~` or `NOT` before its operand. -/
  | unary (operator : Token) (operand : Expr)
  | binary (left : Expr) (operator : Token) (right : Expr)
  | assignment (target : Expr) (operator : Token) (value : Expr)
  | isNull (operand : Expr) (isToken : Token) (not : Option Token) (null : Token)
  | like (operand : Expr) (not : Option Token) (keyword : Token) (pattern : Expr) (escape : Tail)
  | between (operand : Expr) (not : Option Token) (keyword : Token) (low : Expr) (and : Token)
    (high : Expr)
  | isIn (operand : Expr) (not : Option Token) (keyword lparen : Token) (values : Expr)
    (rparen : Token)
  | paren (lparen : Token) (inner : Expr) (rparen : Token)
  | call (callee : Expr) (lparen : Token) (args : Option Expr) (rparen : Token)
  /-- A call with an `OVER` clause. -/
  | window (function : Expr) (overClause : OverClause)
  /-- `CAST` or `TRY_CAST`. -/
  | cast (keyword lparen : Token) (operand : Expr) (asToken : Token) (dataType : DataType)
    (rparen : Token)
  | case (keyword : Token) (operand : Option Expr) (whens : List WhenClause) (otherwise : Tail)
    (endToken : Token)
  | collate (operand : Expr) (keyword collation : Token)
  | list (items : List Expr) (separators : List Token)
  | aliased (operand : Expr) (asToken name : Token)
  | sort (operand : Expr) (direction : Token)
  | join (left : Expr) (operator : List Token) (right : Expr) (on : Tail)
  /-- A table with hints, `t WITH (...)`. -/
  | tableHint (table : Expr) (keyword lparen : Token) (hints : Expr) (rparen : Token)
  | select (keyword : Token) (quantifier : Option Token) (top : Option TopClause) (columns : Expr)
    (clauses : SelectClauses)
  | setOperation (left : Expr) (operator : Token) (all : Option Token) (right : Expr)
  | orderBy (query : Expr) (order : Clause) (offset : Option OffsetFetch)
  /-- A query with `FOR ...` or `OPTION (...)`. -/
  | queryOption (query : Expr) (keyword : Token) (options : RawTokens)
  | raw (tokens : RawTokens)

/-- An optional expression behind its own keyword or `=`. -/
inductive Tail where
  | absent
  | present (keyword : Token) (value : Expr)

inductive DataType where
  | named (name : Name) (lparen : Token) (args : Option Expr) (rparen : Token)
  | table (type : TableType)

/-- `WHEN condition THEN result`. -/
structure WhenClause where
  whenToken : Token
  condition : Expr
  thenToken : Token
  result : Expr

/-- An expression behind one or two keywords, such as `GROUP BY a`. -/
structure Clause where
  keywords : List Token
  body : Expr

/-- `TOP (n) [PERCENT] [WITH TIES]`, the parentheses being optional. -/
structure TopClause where
  topToken : Token
  lparen : Token
  count : Expr
  rparen : Token
  percent : Option Token
  withTies : Option (Token × Token)

/-- The optional clauses of a `SELECT`, in source order. -/
structure SelectClauses where
  into : Option Clause
  source : Option Clause
  condition : Option Clause
  grouping : Option Clause
  having : Option Clause

/-- `OVER ([PARTITION BY ...] [ORDER BY ...] [frame])`. -/
structure OverClause where
  overToken : Token
  lparen : Token
  partition : Option Clause
  order : Option Clause
  frame : Option RawTokens
  rparen : Token

/-- `FETCH FIRST|NEXT n ROW|ROWS ONLY`. -/
structure FetchClause where
  fetchToken : Token
  direction : Token
  count : Expr
  rows : Token
  only : Token

/-- `OFFSET n ROW|ROWS [FETCH ...]`. -/
structure OffsetFetch where
  offsetToken : Token
  count : Expr
  rows : Token
  fetch : Option FetchClause

end

instance : Inhabited Expr := ⟨.literal default⟩

namespace Name

/-- The words without the dots. -/
def words (n : Name) : List Token := n.parts.filter (·.kind != .dot)

def isSingle (n : Name) : Bool := n.parts.length == 1

/-- A lone variable. -/
def isVariable (n : Name) : Bool :=
  match n.parts with
  | [t] => t.isVariable
  | _ => false

/-- `*`, alone or as the last part. -/
def isWildcard (n : Name) : Bool := n.parts.getLast?.any (·.kind == .arithmetic .star)

/-- A lone keyword without quotes. -/
def isKeyword (n : Name) (k : Keyword) : Bool :=
  match n.parts with
  | [t] => t.isKeyword k
  | _ => false

/-- The dotted name without delimiters, `dbo.my table` for `dbo.[my table]`. -/
def dotted (n : Name) : String :=
  String.join (n.parts.map fun t => if t.kind = .dot then "." else t.value)

end Name

namespace Expr

/-- `SELECT`, operations on queries, and queries in parentheses. -/
def isQuery : Expr → Bool
  | .select .. | .setOperation .. | .orderBy .. | .queryOption .. => true
  | .paren _ inner _ => inner.isQuery
  | _ => false

/-- The items of a list, or the expression alone. -/
def items : Expr → List Expr
  | .list items _ => items
  | e => [e]

def name? : Expr → Option Name
  | .name n => some n
  | _ => none

/-- The words of a join in upper case, `LEFT OUTER JOIN`. -/
def joinKind (operator : List Token) : String :=
  " ".intercalate (operator.map fun t => t.text.map Char.toUpper)

def isCall : Expr → Bool
  | .call .. => true
  | _ => false

/-- The arguments of a call or a type, given what stands in its parentheses. -/
def arguments (args : Option Expr) : List Expr := (args.map items).getD []

/-- The literal `NULL`. -/
def isNullLiteral : Expr → Bool
  | .literal t => t.isKeyword .NULL
  | _ => false

/-- `NOT`, before an operand or inside an operator. -/
def isNegated : Expr → Bool
  | .unary op _ => op.isKeyword .NOT
  | .isNull _ _ not _ | .like _ not .. | .between _ not .. | .isIn _ not .. => not.isSome
  | _ => false

/-- `AND` and `OR`. -/
def isLogical : Expr → Bool
  | .binary _ op _ => op.isAnyKeyword [.AND, .OR]
  | _ => false

def isComparison : Expr → Bool
  | .binary _ op _ => op.kind.isComparison
  | _ => false

/-- `TRY_CAST`. -/
def isTryCast : Expr → Bool
  | .cast keyword .. => keyword.isKeyword .TRY_CAST
  | _ => false

/-- `DESC`. -/
def isDescending : Expr → Bool
  | .sort _ direction => direction.isKeyword .DESC
  | _ => false

/-- `SELECT DISTINCT`. -/
def isDistinct : Expr → Bool
  | .select _ quantifier .. => quantifier.any (·.isKeyword .DISTINCT)
  | _ => false

def kind : Expr → NodeKind
  | .literal .. => .literal
  | .name .. => .name
  | .unary .. => .unary
  | .binary .. => .binary
  | .assignment .. => .assignment
  | .isNull .. => .isNull
  | .like .. => .like
  | .between .. => .between
  | .isIn .. => .isIn
  | .paren .. => .paren
  | .call .. => .call
  | .window .. => .window
  | .cast .. => .cast
  | .case .. => .case
  | .collate .. => .collate
  | .list .. => .exprList
  | .aliased .. => .aliased
  | .sort .. => .sort
  | .join .. => .join
  | .tableHint .. => .tableHint
  | .select .. => .select
  | .setOperation .. => .setOperation
  | .orderBy .. => .orderBy
  | .queryOption .. => .queryOption
  | .raw .. => .rawTokens

end Expr

def Tail.value? : Tail → Option Expr
  | .absent => none
  | .present _ e => some e

/-- Whether the first word of the clause is the keyword. -/
def Clause.startsWith (c : Clause) (k : Keyword) : Bool := c.keywords.head?.any (·.isKeyword k)

namespace DataType

def isTable : DataType → Bool
  | .table _ => true
  | .named .. => false

/-- The dotted name of the type. -/
def name : DataType → String
  | .named n .. => n.dotted
  | .table _ => "TABLE"

end DataType

end TransactSql
