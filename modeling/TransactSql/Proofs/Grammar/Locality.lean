import TransactSql.Proofs.Grammar.Termination
import TransactSql.Proofs.Parser.Locality

/-!
# Expressions and parameters before an `AS` or a `;`

No rule of the grammar looks behind an `AS` or a `;`: the token after the current one is looked at
only where the current one is a parenthesis, an operator or another word. So every rule is local as
its parts are.
-/

namespace TransactSql.Grammar

open TransactSql.Parser

/-! ### Items with commas between them -/

instance (first : α) (item : Parser α) [inner : Local item] : Local (commaTail first item) := by
  have framed := inner.framed
  unfold commaTail
  infer_instance

instance (item : Parser α) [Local item] : Local (commaSeparated item) := by
  unfold commaSeparated; infer_instance

/-! ### Tokens kept raw -/

theorem statementExtent_step (state : List Token × Nat × Nat) (t : Token) :
    (∀ ts, statementExtent state.1 state.2.1 state.2.2 (t :: ts) = 0) ∨
      ∃ next : List Token × Nat × Nat, ∀ ts, statementExtent state.1 state.2.1 state.2.2 (t :: ts) =
        statementExtent next.1 next.2.1 next.2.2 ts + 1 := by
  obtain ⟨before, parens, cases⟩ := state
  simp only [statementExtent]
  repeat' split
  all_goals first
    | exact .inl fun _ => rfl
    | exact .inr ⟨(_, _, _), fun _ => rfl⟩

instance (before : List Token) : Local (statementTail before) := by
  have bounded : Bounded (statementExtent before 0 0) :=
    bounded_of_cons (fun state ts => statementExtent state.1 state.2.1 state.2.2 ts)
      statementExtent_step (before, 0, 0)
  unfold statementTail
  infer_instance

theorem optionsExtent_step (afterExecute : Bool) (t : Token) :
    (∀ ts, optionsExtent afterExecute (t :: ts) = 0) ∨
      ∃ next, ∀ ts, optionsExtent afterExecute (t :: ts) = optionsExtent next ts + 1 := by
  simp only [optionsExtent]
  split
  · exact .inl fun _ => rfl
  · exact .inr ⟨_, fun _ => rfl⟩

/-! ### Names, parentheses and data types -/

instance (parts : List Token) : Local (namePart parts) := by unfold namePart; infer_instance

instance : Local name := by unfold name; infer_instance

instance : Local rawParenBody := by unfold rawParenBody; infer_instance

instance : Local tableType := by unfold tableType; infer_instance

instance : Local assignSign := by unfold assignSign; infer_instance

section Expressions

variable (sub : Precedence → Parser Expr) [∀ min, Framed (sub min)] [∀ min, Local (sub min)]

instance : Local (parenBody sub) := by
  unfold parenBody
  refine .bind inferInstance fun rparen => ?_
  split
  · infer_instance
  · refine .withAssignment _ (.recording (local_attempt_bind (fun inner => ?_) ?_ ?_))
    · split <;> infer_instance
    · infer_instance
    · intro e other
      have stops : Local (throw e : Parser (Option Expr × Token)) := local_throw other
      cases e <;> infer_instance

instance : Local (dataType sub) := by
  unfold dataType
  refine .bind inferInstance fun table => ?_
  split
  · infer_instance
  · refine .bind inferInstance fun name => .bind inferInstance fun lparen => ?_
    split <;> infer_instance

/-! ### Queries -/

instance (k : Keyword) (body : Parser Expr) [Local body] : Local (optionalClause k body) := by
  unfold optionalClause
  refine .bind inferInstance fun t => ?_
  split <;> infer_instance

instance (k : Keyword) (body : Parser Expr) [Local body] : Local (optionalByClause k body) := by
  unfold optionalByClause; infer_instance

instance : Local (sortItem sub) := by
  unfold sortItem
  refine .bind inferInstance fun e => .bind inferInstance fun direction => ?_
  split <;> infer_instance

instance : Local (sortItems sub) := by unfold sortItems; infer_instance

instance : Local (topCount sub) := by
  unfold topCount
  refine .bind inferInstance fun lparen => ?_
  split <;> infer_instance

theorem local_optionalPair {first : Keyword} (other : first ≠ .AS) (second : Keyword) :
    Local (optionalPair first second) := by
  have pair := local_atKeywords other second
  unfold optionalPair
  infer_instance

instance : Local (topClause sub) := by
  have ties : Local (optionalPair .WITH .TIES) := local_optionalPair (by decide) _
  unfold topClause
  infer_instance

instance : Local (optionalTop sub) := by unfold optionalTop; infer_instance

instance (e : Expr) (accepts : Token → Bool) : Local (aliased e accepts) := by
  unfold aliased
  refine .bind inferInstance fun asToken => ?_
  split <;> infer_instance

instance : Local (selectItem sub) := by unfold selectItem; infer_instance

instance : Local (selectColumns sub) := by unfold selectColumns; infer_instance

/-- What a `CROSS` starts. -/
theorem local_crossOperator : Local (do
    let cross ← take
    match ← eatKeyword .APPLY with
    | some apply => return some [cross, apply]
    | none => return some [cross, ← keyword .JOIN]) := by
  refine .bind inferInstance fun cross => .bind inferInstance fun apply => ?_
  split <;> infer_instance

instance : Local joinOperator where
  supported {c _ _} h := by
    unfold joinOperator at h
    simp only [current_bind] at h
    generalize c.current.keyword? = word at h
    split at h
    case h_6 => exact local_crossOperator.supported h
    all_goals try simp only [lookahead_bind] at h
    all_goals try split at h
    all_goals exact Local.supported h
  inStep k c eof := by
    unfold joinOperator
    simp only [current_bind, ← k.current_eq]
    generalize here : (k.here c).current.keyword? = word
    have next : word ≠ none → word ≠ some .AS → (k.here c).lookahead = (k.there c).lookahead := by
      intro known other
      obtain ⟨w, rfl⟩ := Option.ne_none_iff_exists'.mp known
      have isWord : (k.here c).current.isKeyword w = true := by simp [Token.isKeyword, here]
      exact k.lookahead_eq (Token.isSource_of_isKeyword isWord)
        (Token.not_isFence_of_isKeyword isWord (by simpa using other))
    split
    case h_3 | h_4 | h_5 =>
      simp only [lookahead_bind, ← next (by simp) (by decide)]
      split <;> exact Local.inStep k eof
    case h_6 => exact local_crossOperator.inStep k eof
    case h_7 =>
      simp only [lookahead_bind, ← next (by simp) (by decide)]
      split <;> exact Local.inStep k eof
    all_goals exact Local.inStep k eof

instance (operator : List Token) : Local (joinCondition sub operator) := by
  unfold joinCondition; infer_instance

instance (source : Parser Expr) [Local source] (left : Expr) :
    Local (joinStep sub source left) := by
  unfold joinStep
  refine .bind inferInstance fun operator => ?_
  split <;> infer_instance

instance (source : Parser Expr) [inner : Local source] : Local (joinChain sub source) := by
  have framed := inner.framed
  unfold joinChain
  infer_instance

instance (sources : Parser Expr) [inner : Local sources] : Local (tableOrJoin sub sources) where
  framed :=
    have := inner.framed
    inferInstance
  supported h := by
    unfold tableOrJoin at h
    simp only [lookahead_bind, atKind_bind] at h
    split at h <;> exact Local.supported h
  inStep k c eof := by
    unfold tableOrJoin
    simp only [lookahead_bind, atKind_bind, ← k.current_eq]
    cases opens : (k.here c).current.kind == .leftParen with
    | false => exact Local.inStep k eof
    | true =>
      have paren := eq_of_beq opens
      rw [← k.lookahead_eq (Token.isSource_of_kind_eq rfl paren) (Token.not_isFence_of_kind paren)]
      split <;> exact Local.inStep k eof

omit [∀ min, Framed (sub min)] in
theorem local_hints (table : Expr) : Local (do
    let keyword ← take
    let lparen ← take
    match ← parenBody sub with
    | (some hints, rparen) => build (Checked.tableHint table keyword lparen hints rparen)
    | (none, _) => fail (.expected "table hints")) := by
  refine .bind inferInstance fun _ => .bind inferInstance fun _ => ?_
  refine .bind inferInstance fun body => ?_
  split <;> infer_instance

instance (table : Expr) : Local (hinted sub table) where
  supported h := by
    unfold hinted at h
    simp only [atKeyword_bind, lookahead_bind] at h
    split at h
    · exact Local.supported h
    · exact (local_hints sub table).supported h
  inStep k c eof := by
    have hints := local_hints sub table
    unfold hinted
    simp only [atKeyword_bind, lookahead_bind, ← k.current_eq]
    cases opens : (k.here c).current.isKeyword .WITH with
    | false => exact Local.inStep k eof
    | true =>
      rw [← k.lookahead_eq (Token.isSource_of_isKeyword opens)
        (Token.not_isFence_of_isKeyword opens (by decide))]
      split
      · exact Local.inStep k eof
      · exact hints.inStep k eof

instance (sources : Parser Expr) [Local sources] : Local (tableSource sub sources) := by
  unfold tableSource; infer_instance

instance (limit : Nat) : Local (tableSources sub limit) := by
  induction limit with
  | zero => unfold tableSources; infer_instance
  | succ limit ih => unfold tableSources; infer_instance

/-- A limit above the numbers of tokens on both ways is as good as theirs. -/
instance : Local (fromSources sub) where
  supported {c _ _} h := Local.supported (p := tableSources sub (c.ahead.length + 1)) h
  inStep k c eof := by
    let limit := (k.here c).ahead.length + (k.there c).ahead.length + 1
    have here : fromSources sub (k.here c) = tableSources sub limit (k.here c) :=
      fromSources_eq sub (c := k.here c) eof (by omega)
    have there : fromSources sub (k.there c) = tableSources sub limit (k.there c) :=
      fromSources_eq sub (c := k.there c) eof (by omega)
    rw [here, there]
    exact Local.inStep k eof

instance : Local (selectClauses sub) := by unfold selectClauses; infer_instance

instance : Local (select sub) := by unfold select; infer_instance

instance (operator : Token) : Local (optionalAll operator) := by unfold optionalAll; infer_instance

instance (left : Expr) : Local (setOperation sub left) := by unfold setOperation; infer_instance

instance : Local rowsKeyword := by
  unfold rowsKeyword
  refine .bind inferInstance fun t => ?_
  split <;> infer_instance

instance : Local (fetchClause sub) := by
  unfold fetchClause
  refine .bind inferInstance fun t => ?_
  split <;> infer_instance

instance : Local (offsetFetch sub) := by unfold offsetFetch; infer_instance

instance : Local (optionalOffset sub) := by unfold optionalOffset; infer_instance

instance (query : Expr) : Local (orderBy sub query) := by unfold orderBy; infer_instance

instance (query : Expr) : Local (forOption query) := by unfold forOption; infer_instance

instance (query : Expr) : Local (hintOption query) := by unfold hintOption; infer_instance

/-! ### Operands and operators -/

instance : Local (paren sub) := by
  unfold paren
  refine .bind inferInstance fun lparen => .bind inferInstance fun body => ?_
  split <;> infer_instance

instance : Local (whenClause sub) := by unfold whenClause; infer_instance

instance (whens : List WhenClause) : Local (moreWhens sub whens) := by
  unfold moreWhens; infer_instance

instance (k : Keyword) (value : Parser Expr) [Local value] : Local (optionalTail k value) := by
  unfold optionalTail
  refine .bind inferInstance fun t => ?_
  split <;> infer_instance

instance : Local (caseOperand sub) := by unfold caseOperand; infer_instance

instance : Local (caseExpr sub) := by unfold caseExpr; infer_instance

instance : Local (operand sub) := by
  unfold operand
  refine .bind inferInstance fun token => ?_
  split <;> infer_instance

instance (left : Expr) : Local (binary sub left) := by unfold binary; infer_instance

instance (target : Expr) : Local (assignment sub target) := by unfold assignment; infer_instance

instance (first : Expr) : Local (list sub first) := by unfold list; infer_instance

instance (e : Expr) : Local (isNull e) := by unfold isNull; infer_instance

instance (e : Expr) (not : Option Token) : Local (pattern sub e not) := by
  unfold pattern
  refine .bind inferInstance fun token => ?_
  split
  · infer_instance
  · infer_instance
  · refine .bind inferInstance fun _ => .bind inferInstance fun _ => ?_
    refine .bind inferInstance fun body => ?_
    split <;> infer_instance

instance (e : Expr) : Local (collate e) := by unfold collate; infer_instance

instance (keyword : Token) : Local (cast sub keyword) := by unfold cast; infer_instance

instance (callee : Expr) : Local (call sub callee) := by
  unfold call
  split <;> infer_instance

instance : Local windowFrame := by
  unfold windowFrame
  refine .bind inferInstance fun rparen => ?_
  split <;> infer_instance

instance : Local (overClause sub) := by unfold overClause; infer_instance

omit [∀ min, Framed (sub min)] in
theorem local_keywordOperator {left : Expr} {k : Keyword} {next : Token} {p : Parser Expr}
    (h : keywordOperator sub left k next = some p) : Local p := by
  unfold keywordOperator at h
  repeat' split at h
  all_goals cases h
  all_goals infer_instance

omit [∀ min, Framed (sub min)] in
theorem local_operator {left : Expr} {token next : Token} {p : Parser Expr}
    (h : operator? sub left token next = some p) : Local p := by
  unfold operator? at h
  split at h
  case h_6 => exact local_keywordOperator sub h
  all_goals repeat' split at h
  all_goals cases h
  all_goals infer_instance

instance (min : Precedence) (left : Expr) : Local (applyOperator sub min left) where
  supported {c _ _} h := by
    unfold applyOperator at h
    simp only [current_bind] at h
    split at h
    · simp only [lookahead_bind] at h
      cases found : operator? sub left c.current c.lookahead with
      | none =>
        rw [found] at h
        exact Local.supported h
      | some operator =>
        rw [found] at h
        have inner := local_operator sub found
        exact Local.supported h
    · exact Local.supported h
  inStep k c eof := by
    unfold applyOperator
    simp only [current_bind, ← k.current_eq]
    split
    · next binds =>
      have source : (k.here c).current.isSource = true :=
        (Cursor.ready_of_precedence (c := k.here c) eof binds).2
      have other : (k.here c).current.isFence = false := by
        cases fence : (k.here c).current.isFence with
        | false => rfl
        | true =>
          rw [Token.isFence, Bool.or_eq_true, beq_iff_eq] at fence
          rcases fence with isAs | semicolon
          · rw [Token.precedence, Token.isKeyword_iff.mp isAs] at binds
            exact absurd binds (Nat.not_lt_zero _)
          · rw [Token.precedence, semicolon] at binds
            exact absurd binds (Nat.not_lt_zero _)
      simp only [lookahead_bind, ← k.lookahead_eq source other]
      cases found : operator? sub left (k.here c).current (k.here c).lookahead with
      | none => exact Local.inStep k eof
      | some operator =>
        have inner := local_operator sub found
        exact Local.inStep k eof
    · exact Local.inStep k eof

instance (min : Precedence) : Local (expression sub min) := by unfold expression; infer_instance

end Expressions

end TransactSql.Grammar

namespace TransactSql.Parser

instance (depth : Nat) (min : Precedence) : Local (expr depth min) := by
  induction depth generalizing min with
  | zero => unfold expr; infer_instance
  | succ depth ih => unfold expr; infer_instance

end TransactSql.Parser

namespace TransactSql.Grammar

open TransactSql.Parser

variable (expr : Precedence → Parser Expr) [∀ min, Framed (expr min)] [∀ min, Local (expr min)]

/-! ### Parameters and options -/

instance (min : Precedence) : Local (value expr min) := by unfold value; infer_instance

instance : Local modifiers := by unfold modifiers; infer_instance

instance : Local (paramDefault expr) := by
  unfold paramDefault
  refine .bind inferInstance fun eq => ?_
  split <;> infer_instance

instance : Local (paramDecl expr) := by unfold paramDecl; infer_instance

instance : Local (params expr) := by unfold params; infer_instance

instance : Local (optionalParams expr) := by unfold optionalParams; infer_instance

instance : Local (procedureParams expr) := by
  unfold procedureParams
  refine .bind inferInstance fun lparen => ?_
  split <;> infer_instance

instance : Local routineOptions := by
  have bounded : Bounded (optionsExtent false) := bounded_of_cons optionsExtent optionsExtent_step false
  unfold routineOptions
  refine .bind inferInstance fun withToken => ?_
  split <;> infer_instance

instance (first : Token) : Local (orAlter first) := by
  have words : Local (atKeywords .OR .ALTER) := local_atKeywords (by decide) _
  unfold orAlter
  infer_instance

end TransactSql.Grammar
