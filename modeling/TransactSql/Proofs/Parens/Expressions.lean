import TransactSql.Proofs.Parens.Queries

/-!
# Expressions and the level of parentheses

Operands and operators in the order of the grammar, then the loop over operators, then all depths.
The options of a query bind weakest, so an expression that asks for more keeps the level.
-/

namespace TransactSql.Grammar

open TransactSql.Parser

variable {c : Cursor} (sub : Precedence → Parser Expr) [subs : Subexpressions sub]

/-! ### Operands -/

theorem paren_levels (ready : c.Ready) (isOpen : c.current.kind = .leftParen) :
    Levels c 0 (paren sub c) := by
  unfold paren
  refine .takeOpen (.refl c) ready isOpen fun opens ready => ?_
  refine .close opens ready fun body d opens ready => ?_
  obtain ⟨inner, rparen⟩ := body
  cases inner with
  | some inner => exact .last opens ready
  | none => exact .fail opens ready

instance : Level (whenClause sub) := by unfold whenClause; infer_instance

instance (whens : List WhenClause) : Level (moreWhens sub whens) := by
  unfold moreWhens; infer_instance

omit subs in
instance (k : Keyword) (value : Parser Expr) [Level value] : Level (optionalTail k value) := by
  unfold optionalTail
  refine .bind inferInstance fun keyword => ?_
  cases keyword <;> infer_instance

instance : Level (caseOperand sub) := by unfold caseOperand; infer_instance

theorem caseExpr_levels (ready : c.Ready) (isCase : c.current.isKeyword .CASE = true) :
    Levels c 0 (caseExpr sub c) := by
  unfold caseExpr
  exact .take (.refl c) ready (isParen_of_isKeyword isCase) fun opens ready => .last opens ready

instance : Level (operand sub) where
  level {c} ready := by
    unfold operand
    rw [current_bind]
    generalize kind : c.current.kind = k
    split
    case h_1 => exact .last (.refl c) ready
    case h_2 | h_3 | h_4 | h_6 | h_7 | h_8 | h_9 =>
      have plain : c.current.isParen = false := by simp [Token.isParen, kind]
      exact .take (.refl c) ready plain fun opens ready => .last opens ready
    case h_5 => exact paren_levels sub ready kind
    case h_10 => exact caseExpr_levels sub ready (Token.isKeyword_iff.mpr kind)
    case h_11 => exact .last (.refl c) ready
    case h_12 =>
      split
      · exact .last (.refl c) ready
      · exact .last (.refl c) ready
    case h_13 => exact .last (.refl c) ready

/-! ### Operators -/

theorem binary_levels (left : Expr) (ready : c.Ready) (plain : c.current.isParen = false)
    (tight : .none < c.current.precedence) : Levels c 0 (binary sub left c) := by
  have operand := subs.level tight
  unfold binary
  exact .take (.refl c) ready plain fun opens ready => .last opens ready

theorem assignment_levels (target : Expr) (ready : c.Ready) (plain : c.current.isParen = false) :
    Levels c 0 (assignment sub target c) := by
  unfold assignment
  split
  · exact .fail_bind (.refl c) ready
  · exact .take (.refl c) ready plain fun opens ready => .last opens ready

instance (first : Expr) : Level (list sub first) := by unfold list; infer_instance

omit subs in
theorem isNull_levels (e : Expr) (ready : c.Ready) (isIs : c.current.isKeyword .IS = true) :
    Levels c 0 (isNull e c) := by
  unfold isNull
  exact .take (.refl c) ready (isParen_of_isKeyword isIs) fun opens ready => .last opens ready

instance (e : Expr) (not : Option Token) : Level (pattern sub e not) where
  level {c} ready := by
    unfold pattern
    rw [current_bind]
    generalize word : c.current.keyword? = k
    split
    case h_1 | h_2 =>
      exact .take (.refl c) ready (isParen_of_keyword? word) fun opens ready => .last opens ready
    case h_3 =>
      refine .next (.refl c) ready fun keyword d opens ready => ?_
      refine levels_leftParen opens ready fun lparen d opens ready => ?_
      refine .close opens ready fun body d opens ready => ?_
      obtain ⟨inner, rparen⟩ := body
      cases inner with
      | some inner => exact .last opens ready
      | none => exact .fail opens ready

omit subs in
theorem collate_levels (e : Expr) (ready : c.Ready) (isCollate : c.current.isKeyword .COLLATE = true) :
    Levels c 0 (collate e c) := by
  unfold collate
  exact .take (.refl c) ready (isParen_of_isKeyword isCollate) fun opens ready => .last opens ready

theorem cast_levels (keyword : Token) (ready : c.Ready) (isOpen : c.current.kind = .leftParen) :
    Levels c 0 (cast sub keyword c) := by
  unfold cast
  refine .takeOpen (.refl c) ready isOpen fun opens ready => levels_withAssignment ?_
  have opens' : c.Opens (0 + 1) (c.advance.setAssignment false) := opens.of_ahead rfl
  refine .next opens' (ready.setAssignment false) fun e d opens ready => ?_
  refine .next opens ready fun asToken d opens ready => ?_
  refine .next opens ready fun type d opens ready => ?_
  exact levels_rightParen opens ready fun rparen d opens ready => .last opens ready

theorem call_levels (callee : Expr) (ready : c.Ready) (isOpen : c.current.kind = .leftParen) :
    Levels c 0 (call sub callee c) := by
  unfold call
  cases castKeyword? callee with
  | some keyword => exact cast_levels sub keyword ready isOpen
  | none =>
    refine .takeOpen (.refl c) ready isOpen fun opens ready => ?_
    exact .close opens ready fun body d opens ready => .last opens ready

instance : ClosesParen windowFrame where
  closed {c} ready := by
    unfold windowFrame
    cases run : eatKind .rightParen c with
    | error e d => cases run
    | ok found d =>
      rw [bind_of_ok _ run]
      rcases eat_ok run with ⟨rfl, accepted, rfl⟩ | ⟨rfl, rfl, _⟩
      · exact closed_take (a := none) (.refl c) ready (eq_of_beq accepted)
      · dsimp only
        rcases readToCloseParen_cases (Cursor.Moved.refl _) ready.eof (parenDepth?_nil 0) with
          ⟨inner, rparen, e, run, ready', isClosing, ahead, depth⟩ | ⟨x, e, run, stops, cut⟩
        · have known : ∀ t ∈ inner, t.isSource = true ∨ d.Meets t := fun t member =>
            .inr (meets_of_mem ahead ⟨0, depth⟩ member)
          have read : recording readToCloseParen d = .ok (inner, rparen) e.endRecording := by
            simp [recording, run]
          rw [bind_of_ok _ read]
          dsimp only
          cases made : Checked.rawTokens inner with
          | ok tokens => exact ⟨⟨ready'.fault, ready'.eof⟩, isClosing, inner, ahead, depth⟩
          | error f => exact ⟨stops_rawTokens known made e.endRecording, nofun⟩
        · have refused : recording readToCloseParen d = .error (.grammar x) e.endRecording := by
            simp [recording, run]
          rw [bind_of_error _ refused]
          exact ⟨stops, fun _ _ => cut⟩

theorem overClause_levels (ready : c.Ready) (isOver : c.current.isKeyword .OVER = true) :
    Levels c 0 (overClause sub c) := by
  unfold overClause
  refine .take (.refl c) ready (isParen_of_isKeyword isOver) fun opens ready => ?_
  refine levels_leftParen opens ready fun lparen d opens ready => levels_withAssignment ?_
  have opens' : c.Opens (0 + 1) (d.setAssignment false) := opens.of_ahead rfl
  refine .next opens' (ready.setAssignment false) fun partition d opens ready => ?_
  refine .next opens ready fun order d opens ready => ?_
  exact .close opens ready fun frame d opens ready => .last opens ready

/-- An operator at the cursor keeps the level, unless it is the `FOR` behind a query. -/
theorem keywordOperator_levels {left : Expr} {k : Keyword} {operator : Parser Expr}
    (ready : c.Ready) (word : c.current.isKeyword k = true) (tight : .none < c.current.precedence)
    (applies : keywordOperator sub left k c.lookahead = some operator) :
    Levels c 0 (operator c) ∨ k = .FOR ∧ Trails c (operator c) := by
  have plain := isParen_of_isKeyword word
  unfold keywordOperator at applies
  split at applies
  case h_1 | h_2 =>
    obtain rfl := Option.some.inj applies
    exact .inl (binary_levels sub left ready plain tight)
  case h_3 =>
    obtain rfl := Option.some.inj applies
    exact .inl (isNull_levels left ready word)
  case h_4 =>
    split at applies
    · obtain rfl := Option.some.inj applies
      exact .inl (.take (.refl c) ready plain fun opens ready => .last opens ready)
    · cases applies
  case h_5 | h_6 | h_7 =>
    obtain rfl := Option.some.inj applies
    exact .inl (.last (.refl c) ready)
  case h_8 =>
    obtain rfl := Option.some.inj applies
    exact .inl (collate_levels left ready word)
  case h_9 =>
    split at applies
    · obtain rfl := Option.some.inj applies
      refine .inl ((overClause_levels sub ready word).bind fun clause d opens ready => ?_)
      exact .last opens ready
    · cases applies
  case h_10 | h_11 | h_12 =>
    split at applies
    · obtain rfl := Option.some.inj applies
      refine .inl (setOperation_levels sub left ready ?_)
      simp [Token.isAnyKeyword, Token.keyword?_eq_some_iff.mpr (Token.isKeyword_iff.mp word)]
    · cases applies
  case h_13 =>
    split at applies
    · obtain rfl := Option.some.inj applies
      exact .inl (orderBy_levels sub left ready word)
    · cases applies
  case h_14 =>
    split at applies
    · obtain rfl := Option.some.inj applies
      exact .inr ⟨rfl, forOption_trails left ready word⟩
    · cases applies
  case h_15 =>
    split at applies
    · next held =>
      obtain rfl := Option.some.inj applies
      rw [Bool.and_eq_true, beq_iff_eq] at held
      exact .inl (hintOption_levels left ready word held.2)
    · cases applies
  case h_16 => cases applies

theorem operator?_levels {left : Expr} {operator : Parser Expr} (ready : c.Ready)
    (tight : .none < c.current.precedence)
    (applies : operator? sub left c.current c.lookahead = some operator) :
    Levels c 0 (operator c) ∨
      c.current.precedence = .queryOption ∧ Trails c (operator c) := by
  unfold operator? at applies
  split at applies
  case h_1 kind =>
    split at applies
    · obtain rfl := Option.some.inj applies
      exact .inl (call_levels sub left ready kind)
    · cases applies
  case h_2 =>
    obtain rfl := Option.some.inj applies
    exact .inl (.last (.refl c) ready)
  case h_3 kind =>
    obtain rfl := Option.some.inj applies
    exact .inl (assignment_levels sub left ready (by simp [Token.isParen, kind]))
  case h_4 kind | h_5 kind =>
    obtain rfl := Option.some.inj applies
    exact .inl (binary_levels sub left ready (by simp [Token.isParen, kind]) tight)
  case h_6 k kind =>
    rcases keywordOperator_levels sub ready (Token.isKeyword_iff.mpr kind) tight applies with
      levels | ⟨rfl, trails⟩
    · exact .inl levels
    · exact .inr ⟨by rw [Token.precedence, kind]; rfl, trails⟩
  case h_7 => cases applies

/-! ### Loops over operators -/

omit subs in
theorem Precedence.not_lt_queryOption {min : Precedence} (tight : .none < min) :
    ¬min < .queryOption := by
  cases min <;> simp_all +decide

/-- The options of a query do not bind tighter than any operator. -/
theorem applyOperator_level {min : Precedence} (tight : .none < min) (left : Expr) :
    Level (applyOperator sub min left) where
  level {c} ready := by
    unfold applyOperator
    rw [current_bind]
    split
    · next applies =>
      rw [lookahead_bind]
      cases found : operator? sub left c.current c.lookahead with
      | none => exact .pure (.refl c) ready
      | some operator =>
        have binds : Precedence.none < c.current.precedence := Nat.lt_trans tight applies
        rcases operator?_levels sub ready binds found with levels | ⟨option, _⟩
        · exact levels.bind fun e d opens ready => .pure opens ready
        · rw [option] at applies
          exact absurd applies (Precedence.not_lt_queryOption tight)
    · exact .pure (.refl c) ready

omit subs in
theorem Trails.of_levels {reply : EStateM.Result Failure Cursor α} (levels : Levels c 0 reply) :
    Trails c reply := by
  cases reply with
  | ok a d => exact ⟨levels.2, 0, levels.1, nofun⟩
  | error f d => exact levels

omit subs in
theorem Trails.of_opens {d : Cursor} {reply : EStateM.Result Failure Cursor α} (opens : c.Opens 0 d)
    (trails : Trails d reply) : Trails c reply := by
  cases reply with
  | error f e => exact opens.stops trails
  | ok a e =>
    obtain ⟨ready, k, inside, blocked⟩ := trails
    have level := opens.trans inside
    rw [Nat.zero_add] at level
    exact ⟨ready, k, level, blocked⟩

theorem applyOperator_trails (left : Expr) (ready : c.Ready) :
    Trails c (applyOperator sub .none left c) := by
  unfold applyOperator
  rw [current_bind]
  split
  · next applies =>
    rw [lookahead_bind]
    cases found : operator? sub left c.current c.lookahead with
    | none => exact .of_levels (.pure (.refl c) ready)
    | some operator =>
      rcases operator?_levels sub ready applies found with levels | ⟨_, trails⟩
      · exact .of_levels (levels.bind fun e d opens ready => .pure opens ready)
      · cases run : operator c with
        | error f d =>
          rw [run] at trails
          show Trails c ((operator >>= fun e => pure (some e)) c)
          rw [bind_of_error _ run]
          exact trails
        | ok e d =>
          rw [run] at trails
          show Trails c ((operator >>= fun e => pure (some e)) c)
          rw [bind_of_ok _ run]
          exact trails
  · exact .of_levels (.pure (.refl c) ready)

omit subs in
/-- Nothing is an operator where nothing follows. -/
theorem applyOperator_of_blocked (min : Precedence) (left : Expr) (ready : c.Ready)
    (blocked : Blocked c.ahead) : applyOperator sub min left c = .ok none c := by
  have none : c.current.precedence = .none := by
    have absent : c.current.isSource = false := by
      rw [Bool.eq_false_iff]
      intro source
      obtain ⟨t, rest, ahead, current⟩ := Cursor.exists_cons_of_isSource ready source
      have error : t.isError = true := blocked t (by simp [ahead])
      rw [current, Cursor.isSource_normalize] at source
      rw [Token.isError_of_isSource source] at error
      cases error
    unfold Token.isSource at absent
    unfold Token.precedence
    cases kind : c.current.kind <;> simp_all [TokenKind.isSource, TokenKind.precedence]
  unfold applyOperator
  rw [current_bind, none]
  cases min <;> rfl

theorem operators_trail (limit : Nat) (left : Expr) (ready : c.Ready) :
    Trails c (rounds (applyOperator sub .none) limit left c) := by
  induction limit generalizing left c with
  | zero => exact .of_levels (.pure (.refl c) ready)
  | succ limit ih =>
    have trails := applyOperator_trails sub left ready
    unfold rounds
    cases run : applyOperator sub .none left c with
    | error f d =>
      rw [run] at trails
      rw [bind_of_error _ run]
      exact trails
    | ok next d =>
      rw [run] at trails
      rw [bind_of_ok _ run]
      obtain ⟨ready', k, opens, blocked⟩ := trails
      cases next with
      | none => exact ⟨ready', k, opens, blocked⟩
      | some left =>
        by_cases whole : k = 0
        · subst whole
          exact .of_opens opens (ih left ready')
        · -- The next round finds nothing and is the last one.
          have stays : rounds (applyOperator sub .none) limit left d = .ok left d := by
            cases limit with
            | zero => rfl
            | succ limit =>
              unfold rounds
              rw [bind_of_ok _ (applyOperator_of_blocked sub .none left ready' (blocked whole))]
              rfl
          dsimp only
          rw [stays]
          exact ⟨ready', k, opens, blocked⟩

instance : Subexpressions (expression sub) where
  framed min := inferInstance
  level tight := by
    have rounds := applyOperator_level sub tight
    unfold expression
    infer_instance
  trails {c} ready := by
    have first : Levels c 0 (operand sub c) := Level.level ready
    unfold expression loop
    cases run : operand sub c with
    | error f d =>
      rw [run] at first
      rw [bind_of_error _ run]
      exact first
    | ok left d =>
      rw [run] at first
      rw [bind_of_ok _ run]
      exact .of_opens first.1 (operators_trail sub _ left first.2)

end TransactSql.Grammar

namespace TransactSql.Parser

instance expr_subexpressions (depth : Nat) : Grammar.Subexpressions (expr depth) := by
  induction depth with
  | zero =>
    refine ⟨fun min => inferInstance, fun _ => ?_, fun ready => ?_⟩
    · unfold expr; infer_instance
    · exact .of_levels (.fail (.refl _) ready)
  | succ depth ih => exact inferInstanceAs (Grammar.Subexpressions (Grammar.expression (expr depth)))

end TransactSql.Parser
