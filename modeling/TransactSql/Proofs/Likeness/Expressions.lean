import TransactSql.Grammar.Expression
import TransactSql.Proofs.Likeness.Queries

/-!
# Expressions on related inputs

The operator that stands behind an operand is told by kinds and keywords, and by the kind of the
operand. So the same operator is applied in both inputs, and the expressions of every depth are
related.
-/

namespace TransactSql.Grammar

open TransactSql.Parser

variable {R : Correspondence} {sub sub' : Precedence → Parser Expr}
  [∀ min, Related R (sub min) (sub' min)]

/-! ### Operands -/

instance : Related R (paren sub) (paren sub') := by
  unfold paren
  refine related_bind inferInstance fun lparen lparen' _ => ?_
  refine related_bind inferInstance fun x y h => ?_
  obtain ⟨inner, rparen, inner', rparen', rfl, rfl, h, _⟩ := h.pair
  obtain ⟨rfl, rfl⟩ | ⟨_, _, rfl, rfl, _⟩ := h.option <;> dsimp only <;> infer_instance

instance : Related R (whenClause sub) (whenClause sub') := by
  unfold whenClause
  refine related_bind inferInstance fun whenToken whenToken' _ => ?_
  refine related_bind inferInstance fun condition condition' _ => ?_
  refine related_bind inferInstance fun thenToken thenToken' _ => ?_
  exact related_bind inferInstance fun _ _ _ => inferInstance

theorem related_moreWhens {ws ws' : List WhenClause} (h : Related R ws ws') :
    Related R (moreWhens sub ws) (moreWhens sub' ws') := by
  unfold moreWhens
  refine related_test inferInstance fun there => .cond inferInstance ?_ inferInstance
  exact related_bind inferInstance fun _ _ _ => inferInstance

instance (k : Keyword) {p q : Parser Expr} [Related R p q] :
    Related R (optionalTail k p) (optionalTail k q) := by
  unfold optionalTail
  refine related_bind inferInstance fun keyword keyword' h => ?_
  obtain ⟨rfl, rfl⟩ | ⟨_, _, rfl, rfl, _⟩ := h.option
  · dsimp only
    infer_instance
  · exact related_bind inferInstance fun _ _ _ => inferInstance

instance : Related R (caseOperand sub) (caseOperand sub') := by
  unfold caseOperand
  refine related_test inferInstance fun there => .cond inferInstance inferInstance ?_
  exact related_bind inferInstance fun _ _ _ => inferInstance

instance : Related R (caseExpr sub) (caseExpr sub') := by
  unfold caseExpr
  refine related_bind inferInstance fun keyword keyword' _ => related_withAssignment false ?_
  refine related_bind inferInstance fun operand operand' _ => ?_
  refine related_bind inferInstance fun first first' _ => ?_
  have whens : Related R (loop (moreWhens sub) [first]) (loop (moreWhens sub') [first']) :=
    related_loop (fun _ _ h => related_moreWhens h) inferInstance
  refine related_bind whens fun whens whens' _ => ?_
  refine related_bind inferInstance fun otherwise otherwise' _ => ?_
  exact related_bind inferInstance fun _ _ _ => inferInstance

instance : Related R (operand sub) (operand sub') := by
  unfold operand
  refine related_bind inferInstance fun t u token => ?_
  obtain same | ⟨_, _, left, right⟩ := Token.kind_of_related token
  · have starts : t.startsExpression = u.startsExpression :=
      Bool.eq_of_related (R := R) inferInstance
    rw [same, starts]
    generalize u.kind = k
    split
    case h_1 => infer_instance
    case h_5 => infer_instance
    case h_6 =>
      refine related_bind inferInstance fun star star' _ => ?_
      exact related_bind inferInstance fun _ _ _ => inferInstance
    case h_9 =>
      refine related_bind inferInstance fun operator operator' _ => ?_
      exact related_bind inferInstance fun _ _ _ => inferInstance
    case h_10 | h_11 => infer_instance
    case h_12 =>
      refine .cond inferInstance ?_ inferInstance
      exact related_bind inferInstance fun _ _ _ => inferInstance
    case h_13 => infer_instance
    case h_7 | h_8 => exact related_bind inferInstance fun _ _ _ => inferInstance
    -- The signs and `~`.
    all_goals
      refine related_bind inferInstance fun operator operator' _ => ?_
      exact related_bind inferInstance fun _ _ _ => inferInstance
  · rw [left, right]
    infer_instance

/-! ### Operators -/

section Operators

variable {e e' : Expr} [he : Related R e e']

instance : Related R (binary sub e) (binary sub' e') := by
  unfold binary
  refine related_bind inferInstance fun operator operator' _ => ?_
  have power : Related R operator.precedence operator'.precedence := inferInstance
  obtain same : operator.precedence = operator'.precedence := power.rel
  rw [same]
  exact related_bind inferInstance fun _ _ _ => inferInstance

instance : Related R (assignment sub e) (assignment sub' e') := by
  have target : Related R (e.name?.any (!·.isWildcard)) (e'.name?.any (!·.isWildcard)) :=
    .any inferInstance fun _ _ _ => inferInstance
  unfold assignment
  refine .cond inferInstance inferInstance ?_
  refine related_bind inferInstance fun operator operator' _ => ?_
  exact related_bind inferInstance fun _ _ _ => inferInstance

instance : Related R (list sub e) (list sub' e') := by
  unfold list
  refine related_bind inferInstance fun x y h => ?_
  obtain ⟨_, _, _, _, rfl, rfl, _, _⟩ := h.pair
  dsimp only
  infer_instance

instance : Related R (isNull e) (isNull e') := by
  unfold isNull
  refine related_bind inferInstance fun isToken isToken' _ => ?_
  refine related_bind inferInstance fun not not' _ => ?_
  exact related_bind inferInstance fun _ _ _ => inferInstance

instance {x x' : Option Token} [Related R x x'] : Related R (pattern sub e x) (pattern sub' e' x') := by
  unfold pattern
  refine related_bind inferInstance fun t u token => ?_
  rw [Token.keyword?_of_related token]
  generalize u.keyword? = k
  split
  · refine related_bind inferInstance fun keyword keyword' _ => ?_
    refine related_bind inferInstance fun low low' _ => ?_
    refine related_bind inferInstance fun and and' _ => ?_
    exact related_bind inferInstance fun _ _ _ => inferInstance
  · refine related_bind inferInstance fun keyword keyword' _ => ?_
    refine related_bind inferInstance fun pattern pattern' _ => ?_
    exact related_bind inferInstance fun _ _ _ => inferInstance
  · refine related_bind inferInstance fun keyword keyword' _ => ?_
    refine related_bind inferInstance fun lparen lparen' _ => ?_
    refine related_bind inferInstance fun x y h => ?_
    obtain ⟨values, rparen, values', rparen', rfl, rfl, h, _⟩ := h.pair
    obtain ⟨rfl, rfl⟩ | ⟨_, _, rfl, rfl, _⟩ := h.option <;> dsimp only <;> infer_instance

instance : Related R (collate e) (collate e') := by
  unfold collate
  refine related_bind inferInstance fun keyword keyword' _ => ?_
  exact related_bind inferInstance fun _ _ _ => inferInstance

instance {t t' : Token} [Related R t t'] : Related R (cast sub t) (cast sub' t') := by
  unfold cast
  refine related_bind inferInstance fun lparen lparen' _ => related_withAssignment false ?_
  refine related_bind inferInstance fun e e' _ => ?_
  refine related_bind inferInstance fun asToken asToken' _ => ?_
  refine related_bind inferInstance fun type type' _ => ?_
  exact related_bind inferInstance fun _ _ _ => inferInstance

theorem castKeyword?_eq (e : Expr) : castKeyword? e = e.name?.bind fun n =>
    match n.parts with
    | [t] => if t.isAnyKeyword [.CAST, .TRY_CAST] then some t else none
    | _ => none := by
  cases e with
  | name n =>
    obtain ⟨_ | ⟨t, _ | ⟨u, ts⟩⟩⟩ := n <;> rfl
  | _ => rfl

instance : Related R (castKeyword? e) (castKeyword? e') := by
  have names : Related R e.name? e'.name? := inferInstance
  rw [castKeyword?_eq, castKeyword?_eq]
  obtain ⟨left, right⟩ | ⟨n, m, left, right, name⟩ := names.option
  · rw [left, right]
    exact ⟨.none⟩
  · rw [left, right]
    have parts : Related R n.parts m.parts := inferInstance
    dsimp only [Option.bind]
    obtain ⟨left, right⟩ | ⟨_, _, _, _, left, right, _, rest⟩ := parts.list
    · rw [left, right]
      exact ⟨.none⟩
    · rw [left, right]
      obtain ⟨rfl, rfl⟩ | ⟨_, _, _, _, rfl, rfl, _, _⟩ := rest.list <;> dsimp only <;> infer_instance

instance : Related R (call sub e) (call sub' e') := by
  have keywords : Related R (castKeyword? e) (castKeyword? e') := inferInstance
  unfold call
  obtain ⟨left, right⟩ | ⟨_, _, left, right, _⟩ := keywords.option
  · rw [left, right]
    refine related_bind inferInstance fun lparen lparen' _ => ?_
    refine related_bind inferInstance fun x y h => ?_
    obtain ⟨_, _, _, _, rfl, rfl, _, _⟩ := h.pair
    dsimp only
    infer_instance
  · rw [left, right]
    dsimp only
    infer_instance

instance : Related R windowFrame windowFrame := by
  unfold windowFrame
  refine related_bind inferInstance fun rparen rparen' h => ?_
  obtain ⟨rfl, rfl⟩ | ⟨_, _, rfl, rfl, _⟩ := h.option
  · refine related_bind inferInstance fun x y h => ?_
    obtain ⟨_, _, _, _, rfl, rfl, _, _⟩ := h.pair
    exact related_bind inferInstance fun _ _ _ => inferInstance
  · dsimp only
    infer_instance

instance : Related R (overClause sub) (overClause sub') := by
  unfold overClause
  refine related_bind inferInstance fun overToken overToken' _ => ?_
  refine related_bind inferInstance fun lparen lparen' _ => related_withAssignment false ?_
  refine related_bind inferInstance fun partition partition' _ => ?_
  refine related_bind inferInstance fun order order' _ => ?_
  refine related_bind inferInstance fun x y h => ?_
  obtain ⟨_, _, _, _, rfl, rfl, _, _⟩ := h.pair
  dsimp only
  infer_instance

instance : Related R (isCallable e) (isCallable e') :=
  .any inferInstance fun _ _ _ => inferInstance

theorem related_keywordOperator (k : Keyword) {t u : Token} (next : Related R t u) :
    Related R (keywordOperator sub e k t) (keywordOperator sub' e' k u) := by
  have negated : Related R (do pattern sub e (some (← take))) (do pattern sub' e' (some (← take))) :=
    related_bind inferInstance fun _ _ _ => inferInstance
  have window : Related R (do build (Checked.window e (← overClause sub)))
      (do build (Checked.window e' (← overClause sub'))) :=
    related_bind inferInstance fun _ _ _ => inferInstance
  unfold keywordOperator
  split <;> infer_instance

theorem related_operator? {t u v w : Token} (token : Related R t u) (next : Related R v w) :
    Related R (operator? sub e t v) (operator? sub' e' u w) := by
  unfold operator?
  obtain same | ⟨_, _, left, right⟩ := Token.kind_of_related token
  · rw [same]
    generalize u.kind = k
    split
    case h_6 => exact related_keywordOperator _ next
    all_goals infer_instance
  · rw [left, right]
    infer_instance

theorem related_applyOperator (min : Precedence) :
    Related R (applyOperator sub min e) (applyOperator sub' min e') := by
  unfold applyOperator
  refine related_bind inferInstance fun t u token => ?_
  have power : t.precedence = u.precedence := (inferInstance : Related R t.precedence u.precedence).rel
  rw [power]
  refine .ite Iff.rfl ?_ inferInstance
  refine related_bind inferInstance fun v w next => ?_
  have operators : Related R (operator? sub e t v) (operator? sub' e' u w) :=
    related_operator? token next
  obtain ⟨left, right⟩ | ⟨_, _, left, right, _⟩ := operators.option
  · rw [left, right]
    dsimp only
    infer_instance
  · rw [left, right]
    exact related_bind inferInstance fun _ _ _ => inferInstance

end Operators

instance (min : Precedence) : Related R (expression sub min) (expression sub' min) := by
  unfold expression
  refine related_bind inferInstance fun first first' h => ?_
  exact related_loop (fun _ _ _ => related_applyOperator min) h

end TransactSql.Grammar

namespace TransactSql

variable {R : Correspondence}

instance Parser.related_expr (depth : Nat) (min : Precedence) :
    Related R (Parser.expr depth min) (Parser.expr depth min) := by
  induction depth generalizing min with
  | zero =>
    unfold Parser.expr
    infer_instance
  | succ depth ih =>
    unfold Parser.expr
    infer_instance

end TransactSql
