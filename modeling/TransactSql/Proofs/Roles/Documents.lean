import TransactSql.Document
import TransactSql.Proofs.Roles.Statements

/-!
# Roles in whole documents

What holds of all that the parsers of expressions and of single statements give holds everywhere in
what is returned.
-/

namespace TransactSql

theorem Parser.statement_apt (depth : Nat) : Parser.Returns Statement.Apt (Parser.statement depth) := by
  cases depth with
  | zero => exact .fail
  | succ depth => exact Grammar.anyStatement_apt (Parser.expr_givesApt depth) (statement depth)

namespace Document

/-- What the parsers of expressions and of statements or the entry points return. -/
inductive Returned : Document → Prop
  | expression {depth : Nat} {min : Precedence} {c d : Cursor} {e : Expr}
    (run : Parser.expr depth min c = .ok e d) : Returned (.expression e)
  | expressionText {text : String} {e : Expr} (parsed : parseExpression text = .ok e) :
    Returned (.expression e)
  | statement {s : Statement} (returned : s.Returned) : Returned (.statement s)
  | statements {depth : Nat} {c d : Cursor} {ss : List Statement}
    (run : Parser.statements depth c = .ok ss d) : Returned (.script ss)
  | script {text : String} {ss : List Statement} (parsed : parseScript text = .ok ss) :
    Returned (.script ss)

/-- The first property holds of all expressions in the document, the second one of all statements. -/
def Everywhere (P : Expr → Prop) (Q : Statement → Prop) : Document → Prop
  | .expression e => e.Everywhere P
  | .statement s => s.Everywhere fun t => Q t ∧ ∀ e ∈ t.exprs, e.Everywhere P
  | .script ss => ∀ s ∈ ss, s.Everywhere fun t => Q t ∧ ∀ e ∈ t.exprs, e.Everywhere P

variable {document : Document} {P P' : Expr → Prop} {Q Q' : Statement → Prop}

theorem Everywhere.mono (all : document.Everywhere P Q) (weaker : ∀ e, P e → P' e)
    (weaker' : ∀ s, Q s → Q' s) : document.Everywhere P' Q' := by
  have below : ∀ {s : Statement}, (s.Everywhere fun t => Q t ∧ ∀ e ∈ t.exprs, e.Everywhere P) →
      s.Everywhere fun t => Q' t ∧ ∀ e ∈ t.exprs, e.Everywhere P' := fun held t contains =>
    ⟨weaker' t (held t contains).1, fun e member => ((held t contains).2 e member).mono weaker⟩
  cases document with
  | expression e => exact all.mono weaker
  | statement s => exact below all
  | script ss => exact fun s member => below (all s member)

/-- All that is returned is apt. -/
theorem Returned.apt (returned : document.Returned) : document.Everywhere Expr.Apt Statement.Roles := by
  have ofStatement : ∀ {s : Statement}, s.Returned →
      s.Everywhere fun t => t.Roles ∧ ∀ e ∈ t.exprs, e.AllApt := by
    intro s returned t contains
    have apt := returned.everywhere Parser.statement_apt
      (fun _ _ => Statement.apt_of_kind (by simp [Statement.expressionKinds, Statement.kind]))
      (fun _ => Statement.apt_of_kind (by simp [Statement.expressionKinds, Statement.kind])) t contains
    exact ⟨apt.roles, apt.exprs⟩
  cases returned with
  | expression run => exact ((Parser.expr_givesApt _).apt _).holds run
  | expressionText parsed =>
    obtain ⟨c, _, run, _⟩ := Parser.parseAll_ok parsed
    exact (Parser.Returns.withAssignment ((Parser.expr_givesApt _).apt _)).holds run
  | statement returned => exact ofStatement returned
  | statements run => exact fun s member => ofStatement (.statements run member)
  | script parsed => exact fun s member => ofStatement (.script parsed member)

end Document

/-! ### Places -/

/-- In all that is returned the operands of every node are of the kinds that belong in their
places. -/
theorem returned_roles {document : Document} (returned : document.Returned) :
    document.Everywhere Expr.Roles Statement.Roles :=
  returned.apt.mono (fun _ apt => apt.roles) fun _ roles => roles

/-- A view over set operations with an order and an option, a window, a call and an assigned
column. -/
theorem returned_roles_view : ∃ ss,
    parseScript "CREATE VIEW v AS SELECT x = f(a), sum(b) OVER (ORDER BY c, d) FROM t UNION ALL
      (SELECT 1, 2) EXCEPT SELECT * FROM u ORDER BY 1 OPTION (RECOMPILE)" = .ok ss ∧
      (Document.script ss).Everywhere Expr.Roles Statement.Roles := by
  obtain ⟨ss, parsed⟩ := exists_of_isOk
    (x := parseScript "CREATE VIEW v AS SELECT x = f(a), sum(b) OVER (ORDER BY c, d) FROM t UNION ALL
      (SELECT 1, 2) EXCEPT SELECT * FROM u ORDER BY 1 OPTION (RECOMPILE)") (by decide +kernel)
  exact ⟨ss, parsed, returned_roles (.script parsed)⟩

/-! ### Operators on queries -/

/-- In all that is returned no `ORDER BY` and no option belongs to the right operand of a set
operator alone, and neither a set operator nor an `ORDER BY` is applied to a query with `FOR`. -/
theorem returned_nesting {document : Document} (returned : document.Returned) :
    document.Everywhere Expr.Nests fun _ => True :=
  returned.apt.mono (fun _ apt => apt.nests) fun _ _ => trivial

/-- An expression is told by its kind and those of its parts. -/
theorem exists_of_kinds (text : String) {kind : NodeKind} {kinds : List NodeKind}
    (h : (parseExpression text).toOption.map (fun e => (e.kind, e.children.map Expr.kind)) =
      some (kind, kinds)) :
    ∃ e, parseExpression text = .ok e ∧ e.kind = kind ∧ e.children.map Expr.kind = kinds := by
  cases parsed : parseExpression text with
  | error failure =>
    rw [parsed] at h
    cases h
  | ok e =>
    rw [parsed] at h
    cases h
    exact ⟨e, rfl, rfl, rfl⟩

/-- Behind a `UNION` an `ORDER BY` and then a `FOR` belong to the whole of it. -/
theorem returned_nesting_union : ∃ e,
    parseExpression "SELECT a FROM t UNION SELECT b FROM u ORDER BY a FOR XML AUTO" = .ok e ∧
      e.kind = .queryOption ∧ e.children.map Expr.kind = [.orderBy] ∧
      (Document.expression e).Everywhere Expr.Nests fun _ => True := by
  have evaluated : (parseExpression "SELECT a FROM t UNION SELECT b FROM u ORDER BY a FOR XML AUTO"
      ).toOption.map (fun e => (e.kind, e.children.map Expr.kind)) = some (.queryOption, [.orderBy]) := by
    decide +kernel
  obtain ⟨e, parsed, kind, kinds⟩ := exists_of_kinds _ evaluated
  exact ⟨e, parsed, kind, kinds, returned_nesting (.expressionText parsed)⟩

/-- An `ORDER BY` or an `OPTION` that stands before a set operator, or before an `ORDER BY`, belongs
to the query on its left. -/
theorem operators_applied_in_turn :
    (∃ e, parseExpression "SELECT a FROM t ORDER BY b UNION SELECT c FROM u" = .ok e ∧
      e.kind = .setOperation ∧ e.children.map Expr.kind = [.orderBy, .select]) ∧
    (∃ e, parseExpression "SELECT a FROM t OPTION (RECOMPILE) UNION SELECT c FROM u" = .ok e ∧
      e.kind = .setOperation ∧ e.children.map Expr.kind = [.queryOption, .select]) ∧
    (∃ e, parseExpression "SELECT a FROM t ORDER BY b ORDER BY c" = .ok e ∧
      e.kind = .orderBy ∧ e.children.map Expr.kind = [.orderBy, .name]) ∧
    ∃ e, parseExpression "SELECT a FROM t OPTION (RECOMPILE) ORDER BY b" = .ok e ∧
      e.kind = .orderBy ∧ e.children.map Expr.kind = [.queryOption, .name] := by
  refine ⟨exists_of_kinds _ ?_, exists_of_kinds _ ?_, exists_of_kinds _ ?_, exists_of_kinds _ ?_⟩
  all_goals decide +kernel

end TransactSql
