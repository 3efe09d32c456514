import TransactSql.Token.Basic

/-!
# Binding power of operators
-/

namespace TransactSql

/-- Binding power of an operator that follows its left operand, lowest first. -/
inductive Precedence where
  /-- Not an operator. -/
  | none
  /-- `FOR XML` and its like, `OPTION (...)`. -/
  | queryOption
  | orderBy
  /-- `UNION`, `EXCEPT`, `INTERSECT`. -/
  | setOperator
  | comma
  | assignment
  | or
  | and
  /-- What `NOT` before an operand binds. -/
  | not
  /-- Comparisons and `IS`. -/
  | comparison
  /-- `BETWEEN`, `LIKE`, `IN` and the `NOT` before them. -/
  | pattern
  | additive
  | multiplicative
  /-- What a sign or `~` before an operand binds. -/
  | unary
  /-- Calls, `COLLATE`, `OVER`. -/
  | postfixed
deriving Repr, DecidableEq, Inhabited

namespace Precedence

def all : List Precedence :=
  [.none, .queryOption, .orderBy, .setOperator, .comma, .assignment, .or, .and, .not, .comparison,
   .pattern, .additive, .multiplicative, .unary, .postfixed]

def rank (p : Precedence) : Nat := p.ctorIdx

instance : LT Precedence := ⟨fun p q => p.rank < q.rank⟩

instance : LE Precedence := ⟨fun p q => p.rank ≤ q.rank⟩

instance (p q : Precedence) : Decidable (p < q) := inferInstanceAs (Decidable (p.rank < q.rank))

instance (p q : Precedence) : Decidable (p ≤ q) := inferInstanceAs (Decidable (p.rank ≤ q.rank))

def name : Precedence → String
  | .none => "None"
  | .queryOption => "QueryOption"
  | .orderBy => "OrderBy"
  | .setOperator => "SetOperator"
  | .comma => "Comma"
  | .assignment => "Assignment"
  | .or => "Or"
  | .and => "And"
  | .not => "Not"
  | .comparison => "Comparison"
  | .pattern => "Pattern"
  | .additive => "Additive"
  | .multiplicative => "Multiplicative"
  | .unary => "Unary"
  | .postfixed => "Postfix"

end Precedence

def Keyword.precedence : Keyword → Precedence
  | .OR => .or
  | .AND => .and
  | .IS => .comparison
  | .NOT | .BETWEEN | .LIKE | .IN => .pattern
  | .COLLATE | .OVER => .postfixed
  | .UNION | .EXCEPT | .INTERSECT => .setOperator
  | .ORDER => .orderBy
  | .FOR | .OPTION => .queryOption
  | _ => .none

def Arithmetic.precedence : Arithmetic → Precedence
  | .star | .slash | .percent => .multiplicative
  | .plus | .minus | .amp | .pipe | .caret => .additive

/-- The binding power of a token of the kind after a left operand. -/
def TokenKind.precedence : TokenKind → Precedence
  | .comma => .comma
  | .leftParen => .postfixed
  | .arithmetic op => op.precedence
  | .assignment _ => .assignment
  | .comparison _ => .comparison
  | .word (.keyword k) => k.precedence
  | _ => .none

def Token.precedence (t : Token) : Precedence := t.kind.precedence

end TransactSql
