import TransactSql.Proofs.Grammar.Progress
import TransactSql.Proofs.Parser.Settling
import TransactSql.Proofs.RawStatements
import TransactSql.Proofs.Roles.Operands

/-!
# Parsed expressions are apt

The invariant of the loop over operators tells where it stops as well: behind a list stands no
comma, and behind options that go on to the end of the statement stands no operator.
-/

namespace TransactSql

namespace Grammar

open TransactSql.Parser

variable {sub : Precedence → Parser Expr}

/-! ### Operands -/

theorem optionalTail_each {P : Expr → Prop} {value : Parser Expr} (held : Returns P value)
    (k : Keyword) : Returns (fun tail => ∀ e ∈ tail.value?, P e) (optionalTail k value) := by
  unfold optionalTail
  refine .bind fun keyword => ?_
  split
  · exact .seq held fun e given => .pure (by simpa [Tail.value?] using given)
  · exact .pure (by simp [Tail.value?])

section

variable (gives : GivesApt sub)

include gives

theorem paren_strong : Returns Expr.Strong (paren sub) := by
  unfold paren
  refine .bind fun lparen => .seq (parenBody_apt gives) fun body apt => ?_
  split
  · next inner rparen =>
    refine .build ?_
    exact Expr.strong_node trivial trivial rfl (by simpa [Expr.children] using apt inner rfl)
  · exact .fail

theorem whenClause_apt :
    Returns (fun w => ∀ e ∈ [w.condition, w.result], Expr.AllApt e) (whenClause sub) := by
  unfold whenClause
  refine .bind fun whenToken => .seq (gives.apt .comma) fun condition apt => .bind fun thenToken => ?_
  exact .seq (gives.apt .comma) fun result apt' => .build (by simpa using ⟨apt, apt'⟩)

theorem caseExpr_strong : Returns Expr.Strong (caseExpr sub) := by
  have subject : Returns (fun operand => ∀ e ∈ operand, Expr.AllApt e) (caseOperand sub) := by
    unfold caseOperand
    refine .bind fun absent => .ite (.pure (by simp)) (.seq (gives.apt .comma) fun e apt => .pure ?_)
    simpa using apt
  have more : ∀ first : WhenClause, (∀ e ∈ [first.condition, first.result], Expr.AllApt e) →
      Returns (fun whens : List WhenClause => ∀ w ∈ whens, ∀ e ∈ [w.condition, w.result], Expr.AllApt e)
        (loop (moreWhens sub) [first]) := by
    refine fun first held => .loop (fun whens held => ?_) (List.forall_mem_singleton.mpr held)
    unfold moreWhens
    refine .bind fun present => .ite (.seq (whenClause_apt gives) fun w held' => .pure ?_) (.pure held)
    exact List.forall_mem_append.mpr ⟨held, List.forall_mem_singleton.mpr held'⟩
  unfold caseExpr
  refine .bind fun keyword => .withAssignment (.seq subject fun operand apt => ?_)
  refine .seq (whenClause_apt gives) fun first held => .seq (more first held) fun whens held => ?_
  refine .seq (optionalTail_each (gives.apt .comma) _) fun otherwise apt' => .bind fun endToken => ?_
  refine .build ?_
  refine Expr.strong_node trivial trivial rfl ?_
  simp only [Expr.children, List.forall_mem_append, List.forall_mem_flatMap]
  exact ⟨⟨by simpa using apt, held⟩, by simpa using apt'⟩

theorem operand_strong : Returns Expr.Strong (operand sub) := by
  have prefixed : ∀ min, Returns Expr.Strong
      (do let operator ← take; build (Checked.unary operator (← sub min))) := by
    refine fun min => .bind fun operator => .seq (gives.apt min) fun e apt => .build ?_
    exact Expr.strong_node trivial trivial rfl (by simpa [Expr.children] using apt)
  have atom : ∀ t, (Expr.literal t).Strong := fun t =>
    Expr.strong_node trivial trivial rfl (by simp [Expr.children])
  have named : ∀ n, (Expr.name n).Strong := fun n =>
    Expr.strong_node trivial trivial rfl (by simp [Expr.children])
  unfold operand
  refine .bind fun token => ?_
  split
  case h_1 => exact ⟨fun run => absurd run failAtError_ok⟩
  case h_2 | h_3 | h_4 => exact prefixed .unary
  case h_9 => exact prefixed .not
  case h_5 => exact paren_strong gives
  case h_6 => exact .bind fun t => .build_bind (.pure (named _))
  case h_7 | h_8 => exact .bind fun t => .build (atom t)
  case h_10 => exact caseExpr_strong gives
  case h_11 => exact select_strong gives
  case h_12 => exact .ite (.bind fun n => .pure (named n)) .failExpected
  case h_13 => exact .failExpected

end

/-! ### Operators without a stop of their own -/

section

variable (gives : GivesApt sub) {left : Expr} (apt : left.AllApt)

include gives apt

theorem binary_strong : Returns Expr.Strong (binary sub left) := by
  unfold binary
  refine .bind fun operator => .seq (gives.apt _) fun right apt' => .build ?_
  exact Expr.strong_node trivial trivial rfl (by simpa [Expr.children] using ⟨apt, apt'⟩)

theorem assignment_strong : Returns Expr.Strong (assignment sub left) := by
  unfold assignment
  dsimp only
  split
  · exact .fail_bind
  · next target =>
    refine .bind fun operator => .seq (gives.apt _) fun value apt' => ?_
    refine .build ?_
    refine Expr.strong_node ?_ trivial rfl (by simpa [Expr.children] using ⟨apt, apt'⟩)
    cases left <;> simp_all [Expr.Roles, Expr.name?]

omit gives in
theorem isNull_strong : Returns Expr.Strong (isNull left) := by
  unfold isNull
  refine .bind fun isToken => .bind fun not => .bind fun null => .build ?_
  exact Expr.strong_node trivial trivial rfl (by simpa [Expr.children] using apt)

omit gives in
theorem collate_strong : Returns Expr.Strong (collate left) := by
  unfold collate
  refine .bind fun keyword => .bind fun collation => .build ?_
  exact Expr.strong_node trivial trivial rfl (by simpa [Expr.children] using apt)

theorem pattern_strong (not : Option Token) : Returns Expr.Strong (pattern sub left not) := by
  unfold pattern
  refine .bind fun token => ?_
  split
  · refine .bind fun keyword => .seq (gives.apt .pattern) fun low apt' => .bind fun and => ?_
    refine .seq (gives.apt .pattern) fun high apt'' => .build ?_
    exact Expr.strong_node trivial trivial rfl (by simpa [Expr.children] using ⟨apt, apt', apt''⟩)
  · refine .bind fun keyword => .seq (gives.apt .pattern) fun pattern apt' => ?_
    refine .seq (optionalTail_each (gives.apt .pattern) _) fun escape apt'' => ?_
    refine .build ?_
    exact Expr.strong_node trivial trivial rfl (by simpa [Expr.children] using ⟨apt, apt', apt''⟩)
  · refine .bind fun keyword => .bind fun lparen => .seq (parenBody_apt gives) fun body apt' => ?_
    split
    · next values rparen =>
      refine .build ?_
      exact Expr.strong_node trivial trivial rfl (by simpa [Expr.children] using ⟨apt, apt' values rfl⟩)
    · exact .fail

omit apt in
theorem cast_strong (keyword : Token) : Returns Expr.Strong (cast sub keyword) := by
  unfold cast
  refine .bind fun lparen => .withAssignment (.seq (gives.apt .comma) fun e apt => ?_)
  refine .bind fun asToken => .seq (dataType_apt gives) fun type apt' => .bind fun rparen => ?_
  refine .build ?_
  exact Expr.strong_node trivial trivial rfl (by simpa [Expr.children] using ⟨apt, apt'⟩)

omit gives apt in
/-- What is called is a name, and no lone `CAST`. -/
theorem call_roles (callable : isCallable left = true) (other : castKeyword? left = none)
    (lparen : Token) (args : Option Expr) (rparen : Token) : (Expr.call left lparen args rparen).Roles := by
  cases left with
  | name n =>
    refine ⟨n, rfl, ?_⟩
    obtain ⟨parts⟩ := n
    obtain ⟨plain, single⟩ : Name.isVariable ⟨parts⟩ = false ∧ Name.isWildcard ⟨parts⟩ = false := by
      simpa [isCallable, Expr.name?] using callable
    refine ⟨plain, single, ?_⟩
    rcases parts with _ | ⟨t, _ | ⟨u, rest⟩⟩
    case cons.nil =>
      have absent : t.isAnyKeyword [.CAST, .TRY_CAST] = false := by simpa [castKeyword?] using other
      cases found : t.keyword? <;>
        simp_all [Name.isKeyword, Token.isKeyword, Token.isAnyKeyword]
    all_goals exact ⟨rfl, rfl⟩
  | _ => cases callable

theorem call_strong (callable : isCallable left = true) : Returns Expr.Strong (call sub left) := by
  unfold call
  split
  · exact cast_strong gives _
  · next other =>
    refine .bind fun lparen => .seq (parenBody_apt gives) fun body apt' => ?_
    refine .build ?_
    refine Expr.strong_node (call_roles callable other _ _ _) trivial rfl ?_
    simpa [Expr.children] using ⟨apt, apt'⟩

theorem window_strong (call : left.isCall = true) :
    Returns Expr.Strong (do build (Checked.window left (← overClause sub))) := by
  have clauses : Returns (fun clause => (∀ e ∈ Clause.exprs clause.partition, Expr.AllApt e) ∧
      ∀ e ∈ Clause.exprs clause.order, Expr.AllApt e) (overClause sub) := by
    unfold overClause
    refine .bind fun overToken => .bind fun lparen => .withAssignment ?_
    refine .seq (optionalByClause_each (gives.apt .setOperator) _) fun partition apt => ?_
    refine .seq (optionalByClause_each (sortItems_apt gives) _) fun order apt' => ?_
    exact .bind fun frame => .build ⟨apt, apt'⟩
  refine .seq clauses fun clause ⟨apt', apt''⟩ => .build ?_
  refine Expr.strong_node ?_ trivial rfl ?_
  · cases left <;> first | rfl | cases call
  · simp only [Expr.children, List.forall_mem_cons, List.forall_mem_append]
    exact ⟨apt, apt', apt''⟩

end

/-! ### Where operators stop -/

/-- What the loop over operators keeps. -/
structure Reached (min : Precedence) (left : Expr) (c : Cursor) : Prop where
  stands : left.Stands min
  list : left.kind = .exprList → c.current.kind ≠ .comma
  option : left.isFor = true → c.ahead = [] ∨ c.current.precedence = .none

variable {left e : Expr} {c d : Cursor} {min : Precedence}

theorem Reached.of_strong (strong : left.Strong) : Reached min left c where
  stands := strong.stands
  list isList := absurd isList strong.item.single
  option isFor := by
    rw [strong.isFor_eq_false] at isFor
    cases isFor

theorem advance_of_nil (nothing : c.ahead = []) : c.advance = c := by
  simp [Cursor.advance, Cursor.advance?, nothing]

/-- Where a token stands it is passed over, if no fault is there. -/
theorem shortens_of_ahead (fault : c.fault = none) (some : c.ahead ≠ []) : c.Shortens c.advance := by
  have length := List.length_pos_iff.mpr some
  simp only [Cursor.Shortens, Cursor.advance, Cursor.advance?, Cursor.skip, fault]
  simp [some]
  omega

theorem fault_of_precedence {p : Precedence} (binds : p < c.current.precedence) : c.fault = none := by
  cases fault : c.fault with
  | none => rfl
  | some x =>
    rw [Cursor.current, fault] at binds
    exact absurd binds (Nat.not_lt_zero _)

/-- Behind a list stands no comma, as an item that starts at one is none. -/
theorem list_reaches [∀ min, Framed (sub min)] (gives : GivesApt sub) (item : left.Item)
    (tighter : min < .comma) (h : list sub left c = .ok e d) : Reached min e d := by
  unfold list commaTail at h
  obtain ⟨⟨items, separators⟩, d', run, h⟩ := bind_ok h
  obtain ⟨rfl, rfl⟩ := build_ok h
  have read : (∀ x ∈ items, x.Item) ∧ d.current.kind ≠ .comma := by
    refine loop_exit (fun (read : List Expr × List Token) _ => ∀ x ∈ read.1, x.Item)
      (fun read d => (∀ x ∈ read.1, x.Item) ∧ d.current.kind ≠ .comma) ?_ ?_
      (List.forall_mem_singleton.mpr item) run
    · intro read c next d each round
      unfold commaItem at round
      obtain ⟨comma, c', eaten, round⟩ := bind_ok round
      rcases eat_ok eaten with ⟨rfl, isComma, rfl⟩ | ⟨rfl, _⟩
      · obtain ⟨x, d', run, round⟩ := bind_ok round
        cases round
        have held := (gives.item (Nat.le_refl _)).holds run
        refine ⟨List.forall_mem_append.mpr ⟨each, List.forall_mem_singleton.mpr held⟩, ?_⟩
        have comma : c.current.kind = .comma := by simpa using isComma
        have fault : c.fault = none :=
          fault_of_precedence (p := .none) (by rw [Token.precedence, comma]; decide)
        by_cases nothing : c.ahead = []
        · rw [advance_of_nil nothing] at run
          exact absurd comma (gives.starts run).1
        · exact (shortens_of_ahead fault nothing).then run
      · cases round
    · intro read c d each round
      unfold commaItem at round
      obtain ⟨comma, c', eaten, more⟩ := bind_ok round
      rcases eat_ok eaten with ⟨rfl, _⟩ | ⟨rfl, rfl, refused⟩
      · obtain ⟨_, _, _, more⟩ := bind_ok more
        cases more
      · cases more
        refine ⟨each, fun comma => ?_⟩
        have fault : d.fault = none :=
          fault_of_precedence (p := .none) (by rw [Token.precedence, comma]; decide)
        simpa [comma] using refused fault
  obtain ⟨each, stop⟩ := read
  refine ⟨⟨list_apt each, ?_⟩, fun _ => stop, fun isFor => by cases isFor⟩
  rintro _ ⟨⟩
  exact tighter

/-! ### Where statements stop -/

theorem precedence_of_endsStatement {before : List Token} {t : Token}
    (h : endsStatement before t = true) : t.precedence = .none := by
  have word : ∃ k ∈ boundaryKeywords ++ statementKeywords, t.kind = .word (.keyword k) := by
    unfold endsStatement at h
    split at h
    · next boundary =>
      obtain ⟨k, member, kind⟩ := Token.exists_of_isAnyKeyword boundary
      exact ⟨k, List.mem_append_left _ member, kind⟩
    · split at h
      · cases h
      · next starts =>
        have starts : startsStatement t = true := by
          simp only [Bool.or_eq_true, Bool.not_eq_true', not_or, Bool.not_eq_false] at starts
          exact starts.1.2
        obtain ⟨k, member, kind⟩ := Token.exists_of_isAnyKeyword starts
        exact ⟨k, List.mem_append_right _ member, kind⟩
  obtain ⟨k, member, kind⟩ := word
  have weak : ∀ k ∈ boundaryKeywords ++ statementKeywords, k.precedence = .none := by decide
  rw [Token.precedence, kind]
  exact weak k member

/-- What stands behind a statement kept as tokens is no operator. -/
theorem precedence_behind_statement {before ts rest : List Token} {parens cases : Nat} {t : Token}
    (h : ts.drop (statementExtent before parens cases ts) = t :: rest) : t.precedence = .none := by
  induction ts generalizing before parens cases with
  | nil => simp [statementExtent] at h
  | cons u us ih =>
    have here : (u :: us).drop 0 = t :: rest → u = t := fun same => (List.cons.inj same).1
    unfold statementExtent at h
    split at h
    case h_1 kind | h_2 kind | h_4 kind =>
      rw [← here h, Token.precedence, kind]
      rfl
    case h_8 kind _ _ =>
      split at h
      · next ends =>
        rw [← here h]
        exact precedence_of_endsStatement ends
      · exact ih h
    all_goals exact ih h

theorem precedence_normalize (c : Cursor) {t : Token} (weak : t.precedence = .none) :
    (c.normalize t).precedence = .none := by
  rwa [c.normalize_eq]
  intro comparison
  rw [Token.precedence, comparison] at weak
  cases weak

theorem statementTail_stops {before ts : List Token} (h : statementTail before c = .ok ts d) :
    d.ahead = [] ∨ d.current.precedence = .none := by
  cases fault : c.fault with
  | some x =>
    unfold statementTail at h
    rw [takeRun_of_fault fault] at h
    cases h
    right
    rw [Cursor.current, fault]
    rfl
  | none =>
    unfold statementTail at h
    rw [takeRun_of_ready fault] at h
    cases h
    cases ahead : c.ahead.drop (statementExtent before 0 0 c.ahead) with
    | nil => exact .inl ((moved_skip_of_fault fault _).2.1.trans ahead)
    | cons t rest =>
      right
      have current : (c.skip (statementExtent before 0 0 c.ahead)).current = c.normalize t := by
        simp [Cursor.current, Cursor.rawCurrent, Cursor.skip, Cursor.normalize, fault, ahead]
      rw [current]
      exact precedence_normalize c (precedence_behind_statement ahead)

/-! ### Operators on queries -/

theorem Reached.of_apt (apt : e.AllApt) (tighter : ∀ p ∈ e.weakPower?, min < p)
    (single : e.kind ≠ .exprList) (other : e.isFor = false) : Reached min e d where
  stands := ⟨apt, tighter⟩
  list isList := absurd isList single
  option isFor := by
    rw [other] at isFor
    cases isFor

/-- Behind options that go on to the end of the statement no operator stands. -/
theorem Reached.isFor_eq_false (reached : Reached min left c) (strong : .none < c.current.precedence)
    (some : c.ahead ≠ []) : left.isFor = false := by
  by_contra isFor
  rcases reached.option (by simpa using isFor) with nothing | weak
  · exact some nothing
  · rw [weak] at strong
    exact absurd strong (by decide)

theorem optionalAll_ok {operator : Token} {all : Option Token} (h : optionalAll operator c = .ok all d) :
    (all.isSome = true → operator.isKeyword .UNION = true) ∧ (d = c ∨ d = c.advance) := by
  unfold optionalAll at h
  split at h
  · next union =>
    refine ⟨fun _ => union, ?_⟩
    rcases eat_ok h with ⟨_, _, same⟩ | ⟨_, same, _⟩
    · exact .inr same
    · exact .inl same
  · cases h
    exact ⟨by simp, .inl rfl⟩

theorem setOperation_reaches (gives : GivesApt sub) (reached : Reached min left c)
    (query : left.isQuery = true) (power : c.current.precedence = .setOperator)
    (tighter : min < .setOperator) (h : setOperation sub left c = .ok e d) : Reached min e d := by
  unfold setOperation at h
  rw [take_bind] at h
  obtain ⟨all, c', optional, h⟩ := bind_ok h
  obtain ⟨union, moved⟩ := optionalAll_ok optional
  obtain ⟨right, d', run, h⟩ := bind_ok h
  have stands := (gives.stands .setOperator).holds run
  have other : left.isFor = false := by
    refine reached.isFor_eq_false (power ▸ by decide) fun nothing => ?_
    -- At the end of the input the operator is not passed over, and no operand starts there.
    have still : c' = c := by
      rw [advance_of_nil nothing, advance_of_nil nothing] at moved
      exact moved.elim id id
    exact (gives.starts run).2 (still ▸ power)
  dsimp only at h
  split at h
  · obtain ⟨_, _, failed, _⟩ := bind_ok h
    exact absurd failed fail_ok
  · next accepted =>
    have query' : right.isQuery = true := by simpa using accepted
    have plain := stands.plain_query query'
    obtain ⟨rfl, rfl⟩ := build_ok h
    refine .of_apt (.intro ⟨⟨query, query', plain, union⟩, other, ?_, ?_⟩ ?_) ?_ nofun rfl
    · cases right <;> first | rfl | simp [Expr.kind] at plain
    · cases right <;> simp [Expr.kind] at plain ⊢
    · simpa [Expr.children] using ⟨reached.stands.apt, stands.apt⟩
    · rintro _ ⟨⟩
      exact tighter

theorem orderBy_reaches (gives : GivesApt sub) (reached : Reached min left c)
    (query : left.isQuery = true) (other : left.isFor = false) (tighter : min < .orderBy)
    (h : orderBy sub left c = .ok e d) : Reached min e d := by
  have read : Returns (fun e => e.AllApt ∧ e.kind = .orderBy) (orderBy sub left) := by
    unfold orderBy
    refine .withAssignment (.bind fun first => .bind fun second => ?_)
    refine .seq (sortItems_apt gives) fun items apt => .build_bind ?_
    refine .seq (optionalOffset_apt gives) fun offset apt' => .build ⟨?_, rfl⟩
    refine .intro ⟨query, other⟩ ?_
    simp only [Expr.children, List.forall_mem_cons]
    exact ⟨reached.stands.apt, apt, apt'⟩
  obtain ⟨apt, kind⟩ := read.holds h
  cases e <;> cases kind
  refine .of_apt apt ?_ (by rintro ⟨⟩) rfl
  rintro _ ⟨⟩
  exact tighter

theorem forOption_reaches (reached : Reached min left c) (query : left.isQuery = true)
    (tighter : min < .queryOption) (h : forOption left c = .ok e d) : Reached min e d := by
  unfold forOption at h
  rw [take_bind] at h
  obtain ⟨options, d', run, h⟩ := bind_ok h
  obtain ⟨raw, d'', made, more⟩ := bind_ok h
  obtain ⟨_, rfl⟩ := build_ok made
  obtain ⟨rfl, rfl⟩ := build_ok more
  refine ⟨⟨.intro ⟨query, trivial⟩ (by simpa [Expr.children] using reached.stands.apt), ?_⟩, nofun, ?_⟩
  · rintro _ ⟨⟩
    exact tighter
  · exact fun _ => statementTail_stops run

theorem hintOption_reaches (reached : Reached min left c) (query : left.isQuery = true)
    (word : c.current.isKeyword .OPTION = true) (tighter : min < .queryOption)
    (h : hintOption left c = .ok e d) : Reached min e d := by
  unfold hintOption at h
  rw [take_bind, take_bind] at h
  obtain ⟨⟨tokens, rparen⟩, d', run, h⟩ := bind_ok h
  obtain ⟨raw, d'', raw', h⟩ := bind_ok h
  obtain ⟨rfl, rfl⟩ := build_ok h
  refine .of_apt (.intro ⟨query, trivial⟩ (by simpa [Expr.children] using reached.stands.apt)) ?_ nofun ?_
  · rintro _ ⟨⟩
    exact tighter
  · have keyword := Token.isKeyword_iff.mp word
    simp [Expr.isFor, Token.isKeyword, Token.keyword?, keyword, TokenKind.keyword?, Word.keyword?]

/-! ### All operators -/

section

variable (gives : GivesApt sub) (reached : Reached min left c)

include gives reached

theorem keywordOperator_reaches {k : Keyword} {operator : Parser Expr}
    (word : c.current.kind = .word (.keyword k)) (tighter : min < k.precedence)
    (found : keywordOperator sub left k c.lookahead = some operator) (h : operator c = .ok e d) :
    Reached min e d := by
  have apt := reached.stands.apt
  have power : c.current.precedence = k.precedence := by rw [Token.precedence, word]; rfl
  unfold keywordOperator at found
  split at found
  case h_1 | h_2 =>
    cases found
    exact .of_strong ((binary_strong gives apt).holds h)
  case h_3 =>
    cases found
    exact .of_strong ((isNull_strong apt).holds h)
  case h_4 =>
    split at found
    · cases found
      rw [take_bind] at h
      exact .of_strong ((pattern_strong gives apt _).holds h)
    · cases found
  case h_5 | h_6 | h_7 =>
    cases found
    exact .of_strong ((pattern_strong gives apt _).holds h)
  case h_8 =>
    cases found
    exact .of_strong ((collate_strong apt).holds h)
  case h_9 =>
    split at found
    · next call =>
      cases found
      exact .of_strong ((window_strong gives apt call).holds h)
    · cases found
  case h_10 | h_11 | h_12 =>
    split at found
    · next query =>
      cases found
      exact setOperation_reaches gives reached query power tighter h
    · cases found
  case h_13 =>
    split at found
    · next applies =>
      cases found
      obtain ⟨query, by'⟩ := Bool.and_eq_true_iff.mp applies
      refine orderBy_reaches gives reached query ?_ tighter h
      refine reached.isFor_eq_false (power ▸ by decide) fun nothing => ?_
      -- The end of the input cannot be both `ORDER` and `BY`.
      have same : c.current = c.normalize c.lookahead := by
        simp [Cursor.current, Cursor.rawCurrent, Cursor.lookahead, nothing,
          fault_of_precedence (power ▸ tighter)]
      have order : c.lookahead.isKeyword .ORDER = true := by
        rw [← c.isKeyword_normalize, ← same]
        exact Token.isKeyword_iff.mpr word
      cases (Token.isKeyword_iff.mp order).symm.trans (Token.isKeyword_iff.mp by')
    · cases found
  case h_14 =>
    split at found
    · next applies =>
      cases found
      exact forOption_reaches reached (Bool.and_eq_true_iff.mp applies).1 tighter h
    · cases found
  case h_15 =>
    split at found
    · next applies =>
      cases found
      refine hintOption_reaches reached (Bool.and_eq_true_iff.mp applies).1 ?_ tighter h
      exact Token.isKeyword_iff.mpr word
    · cases found
  case h_16 => cases found

theorem operator?_reaches [∀ min, Framed (sub min)] {operator : Parser Expr} (tighter : min < c.current.precedence)
    (found : operator? sub left c.current c.lookahead = some operator) (h : operator c = .ok e d) :
    Reached min e d := by
  have apt := reached.stands.apt
  unfold operator? at found
  unfold Token.precedence at tighter
  generalize here : c.current.kind = k at found tighter
  split at found
  case h_1 =>
    split at found
    · next callable =>
      cases found
      exact .of_strong ((call_strong gives apt callable).holds h)
    · cases found
  case h_2 =>
    cases found
    exact list_reaches gives ⟨apt, fun isList => reached.list isList here⟩ tighter h
  case h_3 =>
    cases found
    exact .of_strong ((assignment_strong gives apt).holds h)
  case h_4 | h_5 =>
    cases found
    exact .of_strong ((binary_strong gives apt).holds h)
  case h_6 => exact keywordOperator_reaches gives reached here tighter found h
  case h_7 => cases found

end

/-! ### The loop over operators -/

theorem applyOperator_reaches [∀ min, Framed (sub min)] (gives : GivesApt sub) {next : Option Expr}
    (reached : Reached min left c) (h : applyOperator sub min left c = .ok next d) :
    Reached min (next.getD left) d := by
  unfold applyOperator at h
  rw [current_bind] at h
  split at h
  · next tighter =>
    rw [lookahead_bind] at h
    cases found : operator? sub left c.current c.lookahead with
    | some operator =>
      rw [found] at h
      obtain ⟨e, _, run, h⟩ := bind_ok h
      cases h
      exact operator?_reaches gives reached tighter found run
    | none =>
      rw [found] at h
      cases h
      exact reached
  · cases h
    exact reached

theorem setOperator_word {k : TokenKind} (h : k.precedence = .setOperator) :
    ∃ w, k = .word (.keyword w) ∧ w.startsExpression = false := by
  cases k with
  | word w =>
    cases w with
    | keyword w =>
      refine ⟨w, rfl, ?_⟩
      cases w <;> first | rfl | cases h
    | _ => cases h
  | arithmetic op => cases op <;> cases h
  | _ => cases h

theorem operand_starts (h : operand sub c = .ok e d) :
    c.current.kind ≠ .comma ∧ c.current.precedence ≠ .setOperator := by
  unfold operand at h
  rw [current_bind] at h
  constructor
  · intro comma
    rw [comma] at h
    exact failExpected_ok h
  · intro power
    obtain ⟨w, word, starts⟩ := setOperator_word power
    have refused : c.current.startsExpression = false := by
      simp [Token.startsExpression, word, Word.keyword?, starts]
    generalize c.current.kind = k at h word
    split at h
    case h_8 | h_9 | h_10 | h_11 =>
      cases word
      cases starts
    case h_12 =>
      rw [refused] at h
      exact failExpected_ok h
    case h_13 => exact failExpected_ok h
    all_goals cases word

theorem expression_givesApt [∀ min, Framed (sub min)] (gives : GivesApt sub) :
    GivesApt (expression sub) where
  stands min := by
    refine ⟨fun h => ?_⟩
    unfold expression at h
    obtain ⟨first, c', run, h⟩ := bind_ok h
    have start : Reached min first c' := .of_strong ((operand_strong gives).holds run)
    have reached := loop_invariant (Reached min)
      (fun reached round => applyOperator_reaches gives reached round) start h
    exact reached.stands
  starts h := by
    unfold expression at h
    obtain ⟨first, c', run, _⟩ := bind_ok h
    exact operand_starts run

end Grammar

theorem Parser.expr_givesApt (depth : Nat) : Grammar.GivesApt (Parser.expr depth) := by
  induction depth with
  | zero => exact ⟨fun min => .fail, fun h => absurd h Parser.fail_ok⟩
  | succ depth ih => exact Grammar.expression_givesApt ih

end TransactSql
