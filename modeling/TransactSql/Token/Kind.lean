import TransactSql.Keyword

/-!
# Token kinds

A kind holds all that the grammar sees of a token: the class of a word, its keyword if it spells
one, and the operator a symbol stands for.
-/

namespace TransactSql

/-- The classes of words. -/
inductive Word where
  | keyword (k : Keyword)
  | plain
  /-- `[name]` or `"name"`. -/
  | quoted
  /-- `@name`. -/
  | variable
  /-- `@@name`. -/
  | systemVariable
  /-- `#name` or `##name`. -/
  | temporary
deriving Repr, DecidableEq, Inhabited

inductive LiteralForm where
  | integer | decimal | float | string | nationalString | binary
deriving Repr, DecidableEq, Inhabited

/-- Arithmetic, bitwise and string operators. -/
inductive Arithmetic where
  | plus | minus | star | slash | percent | amp | pipe | caret
deriving Repr, DecidableEq, Inhabited

inductive Comparison where
  | eq | notEq | lt | ltEq | gt | gtEq | notLt | notGt
deriving Repr, DecidableEq, Inhabited

inductive TokenKind where
  | word (w : Word)
  | literal (form : LiteralForm)
  | arithmetic (op : Arithmetic)
  | tilde
  | comparison (op : Comparison)
  /-- `=` read as an assignment, or the compound assignment of an operator. -/
  | assignment (compound : Option Arithmetic)
  | leftParen | rightParen | comma | semicolon | dot | colon | doubleColon
  /-- Fills the slot of optional syntax that is absent. -/
  | placeholder
  | error (message : String)
  | eof
deriving Repr, DecidableEq, Inhabited

namespace Word

/-- The class of a word, by its first characters or the keyword it spells. -/
def ofText (text : String) : Word :=
  match text.toList with
  | '[' :: _ | '"' :: _ => .quoted
  | '@' :: '@' :: _ => .systemVariable
  | '@' :: _ => .variable
  | '#' :: _ => .temporary
  | _ => (Keyword.ofWord? text).elim .plain .keyword

def keyword? : Word → Option Keyword
  | .keyword k => some k
  | _ => none

def isReserved : Word → Bool
  | .keyword k => k.isReserved
  | _ => false

/-- System variables are variables too. -/
def isVariable : Word → Bool
  | .variable | .systemVariable => true
  | _ => false

end Word

def LiteralForm.name : LiteralForm → String
  | .integer => "Integer"
  | .decimal => "Decimal"
  | .float => "Float"
  | .string => "String"
  | .nationalString => "NationalString"
  | .binary => "Binary"

def Arithmetic.name : Arithmetic → String
  | .plus => "Plus"
  | .minus => "Minus"
  | .star => "Star"
  | .slash => "Slash"
  | .percent => "Percent"
  | .amp => "Amp"
  | .pipe => "Pipe"
  | .caret => "Caret"

def Comparison.name : Comparison → String
  | .eq => "Eq"
  | .notEq => "NotEq"
  | .lt => "Lt"
  | .ltEq => "LtEq"
  | .gt => "Gt"
  | .gtEq => "GtEq"
  | .notLt => "NotLt"
  | .notGt => "NotGt"

namespace TokenKind

def name : TokenKind → String
  | .word _ => "Identifier"
  | .literal form => form.name
  | .arithmetic op => op.name
  | .tilde => "Tilde"
  | .comparison op => op.name
  | .assignment none => "Assign"
  | .assignment (some op) => op.name ++ "Assign"
  | .leftParen => "LeftParen"
  | .rightParen => "RightParen"
  | .comma => "Comma"
  | .semicolon => "Semicolon"
  | .dot => "Dot"
  | .colon => "Colon"
  | .doubleColon => "DoubleColon"
  | .placeholder => "Placeholder"
  | .error _ => "Error"
  | .eof => "Eof"

def isWord : TokenKind → Bool
  | .word _ => true
  | _ => false

def isLiteral : TokenKind → Bool
  | .literal _ => true
  | _ => false

def isArithmetic : TokenKind → Bool
  | .arithmetic _ => true
  | _ => false

def isComparison : TokenKind → Bool
  | .comparison _ => true
  | _ => false

def isAssignment : TokenKind → Bool
  | .assignment _ => true
  | _ => false

def isError : TokenKind → Bool
  | .error _ => true
  | _ => false

/-- The keyword of an unquoted word. -/
def keyword? : TokenKind → Option Keyword
  | .word w => w.keyword?
  | _ => none

/-- The kind of the given name, where a word is classed by its text. -/
def ofName? (name text : String) : Option TokenKind :=
  if name = "Identifier" then some (.word (.ofText text))
  else if name = "Error" then some (.error text)
  else fixed.find? fun k => k.name == name
where
  operators : List Arithmetic := [.plus, .minus, .star, .slash, .percent, .amp, .pipe, .caret]
  fixed : List TokenKind :=
    [.literal .integer, .literal .decimal, .literal .float, .literal .string,
     .literal .nationalString, .literal .binary, .tilde, .comparison .eq, .comparison .notEq,
     .comparison .lt, .comparison .ltEq, .comparison .gt, .comparison .gtEq, .comparison .notLt,
     .comparison .notGt, .assignment none, .leftParen, .rightParen, .comma, .semicolon, .dot,
     .colon, .doubleColon, .placeholder, .eof]
    ++ operators.map .arithmetic ++ operators.map fun op => .assignment (some op)

end TokenKind

end TransactSql
