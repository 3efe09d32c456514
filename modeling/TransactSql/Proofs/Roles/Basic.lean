import TransactSql.Proofs.Binding.Basic
import TransactSql.Statement.Basic

/-!
# Roles of operands

Which expressions stand in which places of others. The constructors check few of these facts. The
others hold because of where the grammar applies its operators, and to what.
-/

namespace TransactSql

namespace Expr

/-! ### Places -/

/-- The parts of a node are of the kinds that belong in their places. -/
def Roles : Expr → Prop
  | .setOperation left operator all right =>
    left.isQuery = true ∧ right.isQuery = true ∧ right.kind ∈ [NodeKind.select, .paren] ∧
      (all.isSome = true → operator.isKeyword .UNION = true)
  | .orderBy query .. | .queryOption query .. => query.isQuery = true
  | .call callee .. => ∃ n, callee = .name n ∧ n.isVariable = false ∧ n.isWildcard = false ∧
      n.isKeyword .CAST = false ∧ n.isKeyword .TRY_CAST = false
  | .window function _ => function.kind = .call
  | .assignment target .. => ∃ n, target = .name n ∧ n.isWildcard = false
  | .select _ _ _ columns _ => columns.kind = .exprList
  | .list items _ => ∀ x ∈ items, x.kind ≠ .exprList
  | _ => True

/-- A query with `FOR ...`. -/
def isFor : Expr → Bool
  | .queryOption _ keyword _ => keyword.isKeyword .FOR
  | _ => false

/-- Behind a set operator stands no `ORDER BY` and no option of its own, and a query whose options
go on to the end of the statement is no operand. -/
def Nests : Expr → Prop
  | .setOperation left _ _ right =>
    left.isFor = false ∧ right.isFor = false ∧ right.kind ∉ [NodeKind.orderBy, .queryOption]
  | .orderBy query .. => query.isFor = false
  | _ => True

/-- What holds of every node that the grammar makes. -/
structure Apt (e : Expr) : Prop where
  roles : e.Roles
  nests : e.Nests

/-- All nodes of the expression are apt. -/
abbrev AllApt (e : Expr) : Prop := e.Everywhere Apt

/-! ### Weak operators -/

/-- The power of an operator that binds no tighter than a comma. -/
def weakPower? : Expr → Option Precedence
  | .list .. => some .comma
  | .setOperation .. => some .setOperator
  | .orderBy .. => some .orderBy
  | .queryOption .. => some .queryOption
  | _ => none

/-- An expression that the grammar gives if only operators tighter than `min` are asked for. -/
structure Stands (min : Precedence) (e : Expr) : Prop where
  apt : e.AllApt
  tighter : ∀ p ∈ e.weakPower?, min < p

/-- An expression without a weak operator at its root. -/
structure Strong (e : Expr) : Prop where
  apt : e.AllApt
  closed : e.weakPower? = none

/-- An expression that can be an item of a list. -/
structure Item (e : Expr) : Prop where
  apt : e.AllApt
  single : e.kind ≠ .exprList

variable {e : Expr} {min : Precedence}

theorem Strong.stands (strong : e.Strong) : e.Stands min :=
  ⟨strong.apt, by simp [strong.closed]⟩

/-- A node of which nothing is asked but that its parts are apt. -/
theorem strong_node (roles : e.Roles) (nests : e.Nests) (closed : e.weakPower? = none)
    (parts : ∀ x ∈ e.children, x.AllApt) : e.Strong :=
  ⟨.intro ⟨roles, nests⟩ parts, closed⟩

/-- Where commas are left to others there is no list. -/
theorem Stands.item (stands : e.Stands min) (tight : .comma ≤ min) : e.Item := by
  refine ⟨stands.apt, ?_⟩
  cases e <;> simp only [kind, ne_eq, reduceCtorEq, not_false_eq_true]
  have tighter := stands.tighter .comma rfl
  exact absurd (Precedence.lt_of_le_of_lt tight tighter) (by decide)

theorem Strong.item (strong : e.Strong) : e.Item := by
  refine ⟨strong.apt, ?_⟩
  have closed := strong.closed
  cases e <;> simp [weakPower?, kind] at closed ⊢

/-- Where the operators on queries are left to others, a query is a `SELECT` or in parentheses. -/
theorem Stands.plain_query (stands : e.Stands .setOperator) (query : e.isQuery = true) :
    e.kind ∈ [NodeKind.select, .paren] := by
  have tighter := stands.tighter
  cases e <;> simp [isQuery, weakPower?, kind] at query tighter ⊢
  all_goals exact absurd tighter (by decide)

theorem Strong.isFor_eq_false (strong : e.Strong) : e.isFor = false := by
  have closed := strong.closed
  cases e <;> simp [weakPower?, isFor] at closed ⊢

end Expr

/-! ### Statements -/

def ParamDecl.exprs (p : ParamDecl) : List Expr := p.dataType.exprs ++ p.initial.value?.toList

def VarDecl.exprs (v : VarDecl) : List Expr := v.dataType.exprs ++ v.value.value?.toList

namespace Statement

/-- The expressions of a statement that belong to no parameter. -/
def ownExprs : Statement → List Expr
  | .expression e _ => [e]
  | .ifElse _ condition .. | .whileLoop _ condition _ => [condition]
  | .returnValue _ value _ => value.toList
  | .setVariable _ _ _ value _ => [value]
  | .declare _ declarations _ => declarations.items.flatMap VarDecl.exprs
  | .declareCursor cursor => [cursor.query]
  | .createView view => [view.query]
  | .createScalarFunction _ returnType .. => returnType.exprs
  | .createInlineFunction f => [f.query]
  | _ => []

/-- The expressions right below a statement, without those of the statements inside it. -/
def exprs (s : Statement) : List Expr := s.params.flatMap ParamDecl.exprs ++ s.ownExprs

/-- The queries of a statement are queries. -/
def Roles : Statement → Prop
  | .declareCursor cursor => cursor.query.isQuery = true
  | .createView view => view.query.isQuery = true
  | .createInlineFunction f => f.query.isQuery = true
  | _ => True

/-- What holds of every statement that the grammar makes, without those inside it. -/
structure Apt (s : Statement) : Prop where
  roles : s.Roles
  exprs : ∀ e ∈ s.exprs, e.AllApt

end Statement

end TransactSql
