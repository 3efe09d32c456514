import TransactSql.Proofs.Depth.Basic

/-!
# Expressions and their depth

An operand takes a token before it reads an expression inside it, and so does an operator. So the
levels of an expression are no more than its tokens, and any limit above the number of tokens ahead is
never met.
-/

namespace TransactSql.Grammar

open TransactSql.Parser

variable {n : Nat} {sub sub' : Precedence → Parser Expr} [∀ min, Framed (sub min)]
  [∀ min, Agrees n (sub min) (sub' min)]

/-! ### Parentheses, clauses and table sources -/

instance : Agrees n (parenBody sub) (parenBody sub') := by
  unfold parenBody
  refine .bind inferInstance fun rparen => ?_
  cases rparen with
  | some rparen => infer_instance
  | none =>
    have inner : Agrees n (attempt (sub .none)) (attempt (sub' .none)) := inferInstance
    infer_instance

instance : Agrees n (dataType sub) (dataType sub') := by
  unfold dataType
  refine .bind inferInstance fun table => .ite inferInstance ?_
  refine .bind inferInstance fun name => .bind inferInstance fun lparen => ?_
  cases lparen <;> infer_instance

instance {k : Keyword} {body body' : Parser Expr} [Framed body] [Agrees n body body'] :
    Agrees n (optionalClause k body) (optionalClause k body') := by
  unfold optionalClause
  refine .bind inferInstance fun t => ?_
  cases t <;> infer_instance

instance {k : Keyword} {body body' : Parser Expr} [Framed body] [Agrees n body body'] :
    Agrees n (optionalByClause k body) (optionalByClause k body') := by
  unfold optionalByClause; infer_instance

instance : Agrees n (sortItem sub) (sortItem sub') := by unfold sortItem; infer_instance

instance : Agrees n (sortItems sub) (sortItems sub') := by unfold sortItems; infer_instance

instance : Agrees n (topCount sub) (topCount sub') := by
  unfold topCount
  refine .bind inferInstance fun lparen => ?_
  cases lparen <;> infer_instance

instance : Agrees n (topClause sub) (topClause sub') := by unfold topClause; infer_instance

instance : Agrees n (optionalTop sub) (optionalTop sub') := by unfold optionalTop; infer_instance

instance : Agrees n (selectItem sub) (selectItem sub') := by unfold selectItem; infer_instance

instance : Agrees n (selectColumns sub) (selectColumns sub') := by
  unfold selectColumns; infer_instance

instance (operator : List Token) :
    Agrees n (joinCondition sub operator) (joinCondition sub' operator) := by
  unfold joinCondition; infer_instance

instance {source source' : Parser Expr} [Framed source] [Agrees n source source'] (left : Expr) :
    Agrees n (joinStep sub source left) (joinStep sub' source' left) := by
  unfold joinStep
  refine .bind inferInstance fun operator => ?_
  cases operator <;> infer_instance

instance {source source' : Parser Expr} [Framed source] [Agrees n source source'] :
    Agrees n (joinChain sub source) (joinChain sub' source') := by
  unfold joinChain; infer_instance

instance {sources sources' : Parser Expr} [Framed sources] [Agrees n sources sources'] :
    Agrees n (tableOrJoin sub sources) (tableOrJoin sub' sources') := by
  unfold tableOrJoin; infer_instance

instance (table : Expr) : Agrees n (hinted sub table) (hinted sub' table) := by
  unfold hinted
  infer_instance

instance {sources sources' : Parser Expr} [Framed sources] [Agrees n sources sources'] :
    Agrees n (tableSource sub sources) (tableSource sub' sources') := by
  unfold tableSource; infer_instance

instance (limit : Nat) : Agrees n (tableSources sub limit) (tableSources sub' limit) := by
  induction limit with
  | zero => unfold tableSources; infer_instance
  | succ limit ih => unfold tableSources; infer_instance

instance : Agrees n (fromSources sub) (fromSources sub') := by unfold fromSources; infer_instance

instance : Agrees n (selectClauses sub) (selectClauses sub') := by
  unfold selectClauses; infer_instance

instance : Agrees n (fetchClause sub) (fetchClause sub') := by
  unfold fetchClause
  refine .bind inferInstance fun t => ?_
  cases t <;> infer_instance

instance : Agrees n (offsetFetch sub) (offsetFetch sub') := by unfold offsetFetch; infer_instance

instance : Agrees n (optionalOffset sub) (optionalOffset sub') := by
  unfold optionalOffset; infer_instance

instance : Agrees n (whenClause sub) (whenClause sub') := by unfold whenClause; infer_instance

instance (whens : List WhenClause) : Agrees n (moreWhens sub whens) (moreWhens sub' whens) := by
  unfold moreWhens; infer_instance

instance {k : Keyword} {value value' : Parser Expr} [Framed value] [Agrees n value value'] :
    Agrees n (optionalTail k value) (optionalTail k value') := by
  unfold optionalTail
  refine .bind inferInstance fun t => ?_
  cases t <;> infer_instance

instance : Agrees n (caseOperand sub) (caseOperand sub') := by unfold caseOperand; infer_instance

/-! ### Operands -/

instance : AgreesAtToken (n + 1) (paren sub) (paren sub') := by unfold paren; infer_instance

instance : AgreesAtToken (n + 1) (caseExpr sub) (caseExpr sub') := by unfold caseExpr; infer_instance

instance : Agrees (n + 1) (select sub) (select sub') := by
  unfold select
  exact .behind fun keyword => inferInstance

/-- What is no operand fails where it stands, and any other one starts with a token. -/
theorem agrees_operand : Agrees (n + 1) (operand sub) (operand sub') := by
  refine ⟨fun c eof few => ?_⟩
  unfold operand
  simp only [current_bind]
  generalize here : c.current.kind = k
  have source : k.isSource = true → c.current.isSource = true :=
    fun text => Token.isSource_of_kind_eq text here
  split
  case h_2 | h_3 | h_4 | h_5 | h_9 | h_10 =>
    exact AgreesAtToken.below c eof (source rfl) few
  case h_11 => exact Agrees.below c eof few
  all_goals rfl

/-! ### Operators -/

instance (left : Expr) : AgreesAtToken (n + 1) (binary sub left) (binary sub' left) := by
  unfold binary; infer_instance

instance (target : Expr) : AgreesAtToken (n + 1) (assignment sub target) (assignment sub' target) := by
  unfold assignment
  dsimp only
  split <;> infer_instance

instance (first : Expr) : AgreesAtToken (n + 1) (list sub first) (list sub' first) := by
  unfold list; infer_instance

instance (e : Expr) (not : Option Token) : Agrees n (pattern sub e not) (pattern sub' e not) := by
  unfold pattern
  refine .bind inferInstance fun token => ?_
  split <;> infer_instance

instance (e : Expr) (not : Option Token) :
    AgreesAtToken (n + 1) (pattern sub e not) (pattern sub' e not) := by
  unfold pattern
  refine .current fun token => ?_
  split
  · infer_instance
  · infer_instance
  · exact (Agrees.behind fun keyword => inferInstance).atToken

instance (keyword : Token) : AgreesAtToken (n + 1) (cast sub keyword) (cast sub' keyword) := by
  unfold cast; infer_instance

instance (callee : Expr) : AgreesAtToken (n + 1) (call sub callee) (call sub' callee) := by
  unfold call
  split <;> infer_instance

instance : AgreesAtToken (n + 1) (overClause sub) (overClause sub') := by
  unfold overClause; infer_instance

instance (left : Expr) : AgreesAtToken (n + 1) (setOperation sub left) (setOperation sub' left) := by
  unfold setOperation; infer_instance

instance (query : Expr) : AgreesAtToken (n + 1) (orderBy sub query) (orderBy sub' query) := by
  unfold orderBy
  exact .withAssignment _ inferInstance

/-- The same operator stands behind an operand, if any. -/
theorem agrees_keywordOperator (left : Expr) (k : Keyword) (next : Token) :
    Option.Rel (AgreesAtToken (n + 1)) (keywordOperator sub left k next)
      (keywordOperator sub' left k next) := by
  unfold keywordOperator
  split
  all_goals repeat' split
  all_goals first
    | exact .none
    | exact .some inferInstance

theorem agrees_operator? (left : Expr) (token next : Token) :
    Option.Rel (AgreesAtToken (n + 1)) (operator? sub left token next)
      (operator? sub' left token next) := by
  unfold operator?
  split
  case h_6 => exact agrees_keywordOperator left _ next
  all_goals repeat' split
  all_goals first
    | exact .none
    | exact .some inferInstance

instance (min : Precedence) (left : Expr) :
    Agrees (n + 1) (applyOperator sub min left) (applyOperator sub' min left) := by
  refine ⟨fun c eof few => ?_⟩
  unfold applyOperator
  simp only [current_bind]
  split
  · next binds =>
    obtain ⟨-, source⟩ := Cursor.ready_of_precedence eof binds
    simp only [lookahead_bind]
    have operators : Option.Rel (AgreesAtToken (n + 1)) (operator? sub left c.current c.lookahead)
        (operator? sub' left c.current c.lookahead) := agrees_operator? left c.current c.lookahead
    generalize operator? sub left c.current c.lookahead = found at operators ⊢
    generalize operator? sub' left c.current c.lookahead = found' at operators ⊢
    cases operators with
    | none => rfl
    | some same =>
      simp only [Bind.bind, EStateM.bind, same.below c eof source few]
  · rfl

instance (min : Precedence) : Agrees (n + 1) (expression sub min) (expression sub' min) := by
  unfold expression
  exact .bind agrees_operand fun first => inferInstance

end TransactSql.Grammar

namespace TransactSql.Parser

/-- Expressions where `limit` stands in the place of the failure that ends the nesting. -/
def exprWithin (limit : Precedence → Parser Expr) : (depth : Nat) → (min : Precedence) → Parser Expr
  | 0, min => limit min
  | depth + 1, min => Grammar.expression (exprWithin limit depth) min

theorem exprWithin_fail (depth : Nat) (min : Precedence) :
    exprWithin (fun _ => fail .nestingTooDeep) depth min = expr depth min := by
  induction depth generalizing min with
  | zero => rfl
  | succ depth ih => rw [exprWithin, expr, funext ih]

/-- With fewer tokens ahead than levels allowed, the limit is not met. -/
theorem agrees_expr (limit : Precedence → Parser Expr) {n depth depth' : Nat} (enough : n ≤ depth)
    (enough' : n ≤ depth') (min : Precedence) :
    Agrees n (expr depth min) (exprWithin limit depth' min) := by
  induction n generalizing depth depth' min with
  | zero => exact agrees_zero _ _
  | succ n ih =>
    obtain ⟨depth, rfl⟩ := Nat.exists_eq_add_one_of_ne_zero (Nat.ne_zero_of_lt enough)
    obtain ⟨depth', rfl⟩ := Nat.exists_eq_add_one_of_ne_zero (Nat.ne_zero_of_lt enough')
    have inner := ih (Nat.le_of_succ_le_succ enough) (Nat.le_of_succ_le_succ enough')
    unfold expr exprWithin
    infer_instance

end TransactSql.Parser
