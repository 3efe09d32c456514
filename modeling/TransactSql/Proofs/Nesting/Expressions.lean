import TransactSql.Proofs.Grammar.ExpressionYield
import TransactSql.Proofs.Grammar.Frame
import TransactSql.Proofs.Grammar.Termination
import TransactSql.Proofs.Nesting.Parsers

/-!
# Expressions are nested no deeper than their depth

Every rule but that of parentheses gives what is nested as deep as the parts that `sub` reads.
Table sources are read without a look at the depth, so their parentheses are not bounded, and all
that can be said of them is `SourcesWithin`.
-/

namespace TransactSql.Grammar

open TransactSql.Parser

variable {n : Nat}

section

variable (sub : Precedence → Parser Expr) [∀ min, Framed (sub min)] [∀ min, Shallow n (sub min)]

/-! ### Parentheses and data types -/

instance : Shallow n rawParenBody := by unfold rawParenBody; infer_instance

instance : Shallow n (parenBody sub) := by
  unfold parenBody
  refine .bind inferInstance fun rparen => ?_
  split
  · infer_instance
  · refine .withAssignment _ (.recording (.attempt inferInstance (fun inner => ?_) fun e => ?_))
    · infer_instance
    · cases e <;> dsimp only <;> infer_instance

instance : Shallow n (dataType sub) := by
  unfold dataType
  refine .bind inferInstance fun table => ?_
  split
  · infer_instance
  · refine .bind inferInstance fun name => .bind inferInstance fun lparen => ?_
    split
    · unfold simpleType; infer_instance
    · infer_instance

/-! ### Clauses -/

instance (read : List Expr × List Token) [h : Within n read] :
    Shallow n (build (listOrSingle read)) := by
  unfold listOrSingle
  split
  · next e only =>
    have items : Within n read.1 := inferInstance
    have single := Within.list_iff.mp items e (only ▸ List.mem_cons_self)
    infer_instance
  · infer_instance

instance (k : Keyword) (body : Parser Expr) [Framed body] [Shallow n body] :
    Shallow n (optionalClause k body) := by
  unfold optionalClause
  refine .bind inferInstance fun t => ?_
  split <;> infer_instance

instance (k : Keyword) (body : Parser Expr) [Framed body] [Shallow n body] :
    Shallow n (optionalByClause k body) := by
  unfold optionalByClause; infer_instance

instance : Shallow n (sortItem sub) := by
  unfold sortItem
  refine .bind inferInstance fun e => .bind inferInstance fun direction => ?_
  split <;> infer_instance

instance : Shallow n (sortItems sub) := by unfold sortItems; infer_instance

instance : Shallow n (topCount sub) := by
  unfold topCount
  refine .bind inferInstance fun lparen => ?_
  split <;> infer_instance

instance : Shallow n (topClause sub) := by unfold topClause; infer_instance

instance : Shallow n (optionalTop sub) := by unfold optionalTop; infer_instance

instance (e : Expr) [Within n e] (accepts : Token → Bool) : Shallow n (aliased e accepts) := by
  unfold aliased
  refine .bind inferInstance fun asToken => ?_
  split <;> infer_instance

instance : Shallow n (selectItem sub) := by unfold selectItem; infer_instance

instance : Shallow n (selectColumns sub) := by unfold selectColumns; infer_instance

instance (operator : List Token) : Shallow n (joinCondition sub operator) := by
  unfold joinCondition; infer_instance

/-! ### Operators on queries -/

instance (left : Expr) [Within n left] : Shallow n (setOperation sub left) := by
  unfold setOperation; infer_instance

instance : Shallow n (fetchClause sub) := by
  unfold fetchClause
  refine .bind inferInstance fun t => ?_
  split <;> infer_instance

instance : Shallow n (offsetFetch sub) := by unfold offsetFetch; infer_instance

instance : Shallow n (optionalOffset sub) := by unfold optionalOffset; infer_instance

instance (query : Expr) [Within n query] : Shallow n (orderBy sub query) := by
  unfold orderBy; infer_instance

instance (query : Expr) [Within n query] : Shallow n (forOption query) := by
  unfold forOption; infer_instance

instance (query : Expr) [Within n query] : Shallow n (hintOption query) := by
  unfold hintOption; infer_instance

/-! ### Operands -/

theorem shallow_paren : Shallow (n + 1) (paren sub) where
  within eof h := by
    unfold paren at h
    obtain ⟨lparen, _, first, h⟩ := bind_ok h
    obtain ⟨⟨inner, rparen⟩, _, body, h⟩ := bind_ok h
    have within : Within n (inner, rparen) :=
      Shallow.within (p := parenBody sub) (Framed.isEof eof first) body
    cases inner with
    | none => exact absurd h fail_ok
    | some inner =>
      obtain ⟨rfl, _⟩ := build_ok h
      have bound : Within n inner := Within.some_iff.mp (Within.pair_iff.mp within).1
      exact Expr.within_paren _ _ _

instance : Shallow n (whenClause sub) := by unfold whenClause; infer_instance

instance (whens : List WhenClause) [Within n whens] : Shallow n (moreWhens sub whens) := by
  unfold moreWhens; infer_instance

instance (k : Keyword) (value : Parser Expr) [Framed value] [Shallow n value] :
    Shallow n (optionalTail k value) := by
  unfold optionalTail
  refine .bind inferInstance fun t => ?_
  split <;> infer_instance

instance : Shallow n (caseOperand sub) := by unfold caseOperand; infer_instance

instance : Shallow n (caseExpr sub) := by
  unfold caseExpr
  refine .bind inferInstance fun keyword => .withAssignment _ (.bind inferInstance fun operand => ?_)
  refine .bind inferInstance fun first => .bind inferInstance fun whens => ?_
  infer_instance

/-! ### Operators -/

instance (left : Expr) [Within n left] : Shallow n (binary sub left) := by
  unfold binary; infer_instance

instance (target : Expr) [Within n target] : Shallow n (assignment sub target) := by
  unfold assignment; infer_instance

instance (first : Expr) [Within n first] : Shallow n (list sub first) := by
  unfold list; infer_instance

instance (e : Expr) [Within n e] : Shallow n (isNull e) := by unfold isNull; infer_instance

instance (e : Expr) [Within n e] (not : Option Token) : Shallow n (pattern sub e not) := by
  unfold pattern
  refine .bind inferInstance fun token => ?_
  split
  · infer_instance
  · infer_instance
  · refine .bind inferInstance fun _ => .bind inferInstance fun _ => .bind inferInstance fun body => ?_
    split
    · next values _ found =>
      have bound : Within n values := Within.some_iff.mp (Within.pair_iff.mp (found ▸ body.2)).1
      infer_instance
    · infer_instance

instance (e : Expr) [Within n e] : Shallow n (collate e) := by unfold collate; infer_instance

instance (keyword : Token) : Shallow n (cast sub keyword) := by unfold cast; infer_instance

instance (callee : Expr) [Within n callee] : Shallow n (call sub callee) := by
  unfold call
  split <;> infer_instance

instance : Shallow n (overClause sub) := by unfold overClause; infer_instance

theorem shallow_keywordOperator {left : Expr} [Within n left] {k : Keyword} {next : Token}
    {p : Parser Expr} (h : keywordOperator sub left k next = some p) : Shallow n p := by
  unfold keywordOperator at h
  repeat' split at h
  all_goals cases h
  all_goals infer_instance

theorem shallow_operator {left : Expr} [Within n left] {token next : Token} {p : Parser Expr}
    (h : operator? sub left token next = some p) : Shallow n p := by
  unfold operator? at h
  split at h
  case h_6 => exact shallow_keywordOperator sub h
  all_goals repeat' split at h
  all_goals cases h
  all_goals infer_instance

instance (min : Precedence) (left : Expr) [Within n left] : Shallow n (applyOperator sub min left) := by
  unfold applyOperator
  refine .bind inferInstance fun token => ?_
  split
  · refine .bind inferInstance fun next => ?_
    split
    · next operator found =>
      have framed := operator?_framed sub found
      have shallow : Shallow n operator := shallow_operator sub found
      infer_instance
    · infer_instance
  · infer_instance

end

/-! ### Table sources -/

/-- What the parser gives is nested at most `n` deep as a table source. -/
structure SourcesWithin (n : Nat) (p : Parser Expr) : Prop where
  bound : ∀ {c d : Cursor} {e : Expr}, c.eof.isEof = true → p c = .ok e d → e.tree.nesting true ≤ n

/-- Behind the `(` of a source stands the first token of what is in the parentheses. -/
theorem opensExpression_eq {c d : Cursor} {e : Expr} {lparen rparen : Token} (r : c.Reads [e.tree] d)
    (opening : lparen.kind = .leftParen) (closing : rparen.kind = .rightParen)
    (paren : c.rawCurrent.kind ≠ .leftParen) (query : c.rawCurrent.isKeyword .SELECT = false) :
    Tree.opensExpression [.token lparen, e.tree, .token rparen] = false := by
  have tokens : Tree.tokensOf [.token lparen, e.tree, .token rparen] =
      lparen :: (e.tree.tokens ++ [rparen]) := by
    simp [Tree.tokens_token (Token.isSource_of_kind rfl (beq_iff_eq.mpr opening)),
      Tree.tokens_token (Token.isSource_of_kind rfl (beq_iff_eq.mpr closing))]
  rw [Tree.opensExpression, tokens]
  obtain ⟨raw, moved, read⟩ := r.moved
  rw [Tree.tokensOf_cons, Tree.tokensOf_nil, List.append_nil] at read
  cases inner : e.tree.tokens with
  | nil => simp [closing, Token.isKeyword, Token.keyword?, TokenKind.keyword?]
  | cons t ts =>
    rw [inner] at read
    obtain ⟨u, us, same, _, rfl⟩ := List.forall₂_cons_right_iff.mp read
    have current : c.rawCurrent = u := by simp [Cursor.rawCurrent, moved.ahead]
    rw [current] at paren query
    have other : (u.kind == .leftParen || u.isKeyword .SELECT) = false := by simp [paren, query]
    rcases same with rfl | rfl
    · simpa using other
    · unfold Token.asAssignment
      split
      · simp [Token.isKeyword, Token.keyword?, TokenKind.keyword?]
      · simpa using other

/-- What holds of every item at every cursor where one is read holds of all items. -/
theorem commaSeparated_all {item : Parser α} [Framed item] {I : Cursor → Prop} {P : α → Prop}
    (kept : ∀ {raw : List Token} {c d : Cursor}, I c → c.Moved raw d → I d)
    (each : ∀ {c d : Cursor} {a : α}, I c → item c = .ok a d → P a) {c d : Cursor}
    {read : List α × List Token} (start : I c) (h : commaSeparated item c = .ok read d) :
    ∀ a ∈ read.1, P a := by
  have after : ∀ {β : Type} {p : Parser β} [Framed p] {c d : Cursor} {b : β}, I c →
      p c = .ok b d → I d := by
    intro β p _ c d b here run
    obtain ⟨_, moved⟩ := Framed.ok run
    exact kept here moved
  unfold commaSeparated at h
  obtain ⟨first, _, run, h⟩ := bind_ok h
  have inv := loop_invariant (fun (read : List α × List Token) c => (∀ a ∈ read.1, P a) ∧ I c)
    (fun {s c next d} inv round => ?_)
    ⟨List.forall_mem_singleton.mpr (each start run), after start run⟩ h
  · exact inv.1
  · refine ⟨?_, after inv.2 round⟩
    unfold commaItem at round
    obtain ⟨comma, _, eaten, round⟩ := bind_ok round
    cases comma with
    | none =>
      cases round
      exact inv.1
    | some comma =>
      obtain ⟨a, _, run, round⟩ := bind_ok round
      cases round
      refine List.forall_mem_append.mpr ⟨inv.1, List.forall_mem_singleton.mpr ?_⟩
      exact each (after inv.2 eaten) run

theorem sources_aliased {e : Expr} {accepts : Token → Bool} {c d : Cursor} {named : Expr}
    (source : e.tree.nesting true ≤ n) (h : aliased e accepts c = .ok named d) :
    named.tree.nesting true ≤ n := by
  unfold aliased at h
  obtain ⟨asToken, _, _, h⟩ := bind_ok h
  split at h
  · obtain ⟨name, _, _, h⟩ := bind_ok h
    obtain ⟨rfl, _⟩ := build_ok h
    exact Expr.source_aliased source
  · rw [current_bind] at h
    split at h
    · obtain ⟨name, _, _, h⟩ := bind_ok h
      obtain ⟨rfl, _⟩ := build_ok h
      exact Expr.source_aliased source
    · cases h
      exact source

theorem sources_listOrSingle {read : List Expr × List Token} {c d : Cursor} {e : Expr}
    (sources : ∀ e ∈ read.1, e.tree.nesting true ≤ n) (h : build (listOrSingle read) c = .ok e d) :
    e.tree.nesting true ≤ n := by
  unfold listOrSingle at h
  split at h
  · next single only =>
    obtain ⟨rfl, _⟩ := build_ok h
    exact sources e (only ▸ List.mem_cons_self)
  · obtain ⟨rfl, _⟩ := build_ok h
    exact Expr.source_list sources

section

variable (sub : Precedence → Parser Expr) [shallow : ∀ min, Shallow n (sub min)]

theorem sources_tableOrJoin {sources : Parser Expr} [Framed sources]
    [yields : Yields sources fun e => [e.tree]] (inside : SourcesWithin n sources) :
    SourcesWithin n (tableOrJoin sub sources) := by
  refine ⟨fun {c d e} eof h => ?_⟩
  unfold tableOrJoin at h
  simp only [lookahead_bind, atKind_bind] at h
  split at h
  · next opens =>
    simp only [Bool.and_eq_true, Bool.not_eq_true', bne_iff_ne, beq_iff_eq] at opens
    obtain ⟨⟨opening, query⟩, paren⟩ := opens
    have source := Token.isSource_of_kind rfl (beq_iff_eq.mpr opening)
    have ready := Cursor.ready_of_isSource eof source
    rw [take_bind] at h
    have taken := (Cursor.reads_advance ready source).ready
    obtain ⟨inner, _, first, h⟩ := bind_ok h
    obtain ⟨rparen, _, second, h⟩ := bind_ok h
    obtain ⟨rfl, _⟩ := build_ok h
    have behind : c.advance.rawCurrent = c.lookahead := by
      obtain ⟨t, rest, ahead, _⟩ := Cursor.exists_cons_of_isSource ready source
      simp [Cursor.advance_eq ready ahead, Cursor.rawCurrent, Cursor.lookahead, ahead]
    refine Expr.source_paren (inside.bound taken.eof first) ?_
    obtain ⟨rfl, closing, _⟩ := require_ok second
    refine opensExpression_eq (yields.reads taken first) opening (beq_iff_eq.mp closing) ?_ ?_
    · rwa [behind]
    · rwa [behind]
  · have within := (shallow _).within eof h
    exact e.source_le

variable [∀ min, Framed (sub min)]

theorem sources_hinted {table : Expr} {c d : Cursor} {e : Expr} (eof : c.eof.isEof = true)
    (source : table.tree.nesting true ≤ n) (h : hinted sub table c = .ok e d) :
    e.tree.nesting true ≤ n := by
  unfold hinted at h
  simp only [atKeyword_bind, lookahead_bind] at h
  split at h
  · cases h
    exact source
  · obtain ⟨keyword, _, first, h⟩ := bind_ok h
    obtain ⟨lparen, _, second, h⟩ := bind_ok h
    obtain ⟨⟨hints, rparen⟩, _, body, h⟩ := bind_ok h
    have within : Within n (hints, rparen) :=
      Shallow.within (p := parenBody sub) (Framed.isEof (Framed.isEof eof first) second) body
    cases hints with
    | none => exact absurd h fail_ok
    | some hints =>
      obtain ⟨rfl, _⟩ := build_ok h
      have bound : Within n hints := Within.some_iff.mp (Within.pair_iff.mp within).1
      exact Expr.source_tableHint source

theorem sources_tableSource {sources : Parser Expr} [Framed sources] [Yields sources fun e => [e.tree]]
    (inside : SourcesWithin n sources) : SourcesWithin n (tableSource sub sources) := by
  refine ⟨fun {c d e} eof h => ?_⟩
  unfold tableSource at h
  obtain ⟨source, _, first, h⟩ := bind_ok h
  obtain ⟨named, _, second, h⟩ := bind_ok h
  have start := (sources_tableOrJoin sub inside).bound eof first
  exact sources_hinted sub (Framed.isEof (Framed.isEof eof first) second)
    (sources_aliased start second) h

theorem sources_joinChain {source : Parser Expr} [Framed source] (inside : SourcesWithin n source) :
    SourcesWithin n (joinChain sub source) := by
  refine ⟨fun {c d e} eof h => ?_⟩
  unfold joinChain at h
  obtain ⟨first, _, run, h⟩ := bind_ok h
  have inv := loop_invariant (fun (e : Expr) c => e.tree.nesting true ≤ n ∧ c.eof.isEof = true)
    (fun {s c next d} inv round => ?_) ⟨inside.bound eof run, Framed.isEof eof run⟩ h
  · exact inv.1
  · refine ⟨?_, Framed.isEof inv.2 round⟩
    unfold joinStep at round
    obtain ⟨operator, _, words, round⟩ := bind_ok round
    split at round
    · cases round
      exact inv.1
    · obtain ⟨right, _, second, round⟩ := bind_ok round
      obtain ⟨on, _, condition, round⟩ := bind_ok round
      cases build_bind_ok round
      have eof := Framed.isEof inv.2 words
      have bound : Within n on :=
        Shallow.within (p := joinCondition sub _) (Framed.isEof eof second) condition
      exact Expr.source_join inv.1 (inside.bound eof second)

variable [∀ min, Yields (sub min) fun e => [e.tree]]

theorem sources_tableSources (limit : Nat) : SourcesWithin n (tableSources sub limit) := by
  induction limit with
  | zero =>
    refine ⟨fun _ h => ?_⟩
    unfold tableSources at h
    exact absurd h fail_ok
  | succ limit ih =>
    refine ⟨fun {c d e} eof h => ?_⟩
    unfold tableSources at h
    obtain ⟨read, _, items, h⟩ := bind_ok h
    have yields := tableSources_yields sub limit
    have chain := sources_joinChain sub (sources_tableSource sub ih)
    have all := commaSeparated_all (I := fun c => c.eof.isEof = true)
      (fun eof moved => moved.eof ▸ eof) chain.bound eof items
    exact sources_listOrSingle all h

theorem sources_fromSources : SourcesWithin n (fromSources sub) := by
  refine ⟨fun {c d e} eof h => ?_⟩
  unfold fromSources at h
  rw [get_bind] at h
  exact (sources_tableSources sub _).bound eof h

/-! ### Select -/

theorem shallow_fromClause : Shallow n (optionalClause .FROM (fromSources sub)) where
  within eof h := by
    unfold optionalClause at h
    obtain ⟨t, _, eaten, h⟩ := bind_ok h
    cases t with
    | none =>
      cases h
      infer_instance
    | some t =>
      obtain ⟨body, _, run, h⟩ := bind_ok h
      cases build_bind_ok h
      have source : body.tree.nesting true ≤ n :=
        (sources_fromSources sub).bound (Framed.isEof eof eaten) run
      rcases eat_ok eaten with ⟨same, fromToken, _⟩ | ⟨none, _⟩
      · cases same
        exact Within.some_iff.mpr (Clause.within_from source fromToken)
      · cases none

instance : Shallow n (selectClauses sub) := by
  have source : Shallow n (optionalClause .FROM (fromSources sub)) := shallow_fromClause sub
  unfold selectClauses
  infer_instance

instance : Shallow n (select sub) := by unfold select; infer_instance

/-! ### Expressions -/

/-- Only an operand in parentheses is nested deeper than what `sub` reads. -/
theorem shallow_operand : Shallow (n + 1) (operand sub) := by
  have deeper : ∀ min, Shallow (n + 1) (sub min) := fun min => (shallow min).mono (Nat.le_succ n)
  have parens : Shallow (n + 1) (paren sub) := shallow_paren sub
  unfold operand
  refine .bind inferInstance fun token => ?_
  split <;> infer_instance

theorem shallow_expression (min : Precedence) : Shallow (n + 1) (expression sub min) := by
  have deeper : ∀ min, Shallow (n + 1) (sub min) := fun min => (shallow min).mono (Nat.le_succ n)
  have first : Shallow (n + 1) (operand sub) := shallow_operand sub
  unfold expression
  infer_instance

end

end TransactSql.Grammar

namespace TransactSql.Parser

/-- An expression is nested no deeper than its depth, apart from parentheses around table sources. -/
instance (depth : Nat) (min : Precedence) : Shallow depth (expr depth min) := by
  induction depth generalizing min with
  | zero => unfold expr; infer_instance
  | succ depth ih => exact Grammar.shallow_expression (expr depth) min

end TransactSql.Parser
