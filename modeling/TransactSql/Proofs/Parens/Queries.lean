import TransactSql.Proofs.Parens.Operands

/-!
# Queries and the level of parentheses

The clauses of a query in the order of the grammar. All keep the level but the options behind `FOR`,
which go on to the end of the statement and may leave parentheses open there.
-/

namespace TransactSql.Grammar

open TransactSql.Parser

variable {c : Cursor}

/-! ### Clauses -/

instance (read : List Expr × List Token) : Shaped.Apart (listOrSingle read) := by
  unfold listOrSingle
  split
  · exact ⟨nofun⟩
  · infer_instance

instance (k : Keyword) (body : Parser Expr) [Level body] : Level (optionalClause k body) := by
  unfold optionalClause
  refine .bind inferInstance fun found => ?_
  cases found <;> infer_instance

instance (k : Keyword) (body : Parser Expr) [Level body] : Level (optionalByClause k body) where
  level {c} ready := by
    unfold optionalByClause
    rw [atKeyword_bind]
    split
    · exact .pure (.refl c) ready
    · next isWord =>
      have plain := isParen_of_isKeyword (by simpa using isWord)
      exact .take (.refl c) ready plain fun opens ready => .last opens ready

/-- Two words that both follow are taken. -/
theorem levels_takeBoth {f : Token → Token → Parser β} {b c : Cursor} {j k : Nat}
    {first second : Keyword} (opens : b.Opens j c) (ready : c.Ready)
    (isFirst : c.current.isKeyword first = true) (isSecond : c.lookahead.isKeyword second = true)
    (rest : ∀ t u d, b.Opens j d → d.Ready → Levels b k (f t u d)) :
    Levels b k ((Parser.take >>= fun t => Parser.take >>= fun u => f t u) c) := by
  refine .take opens ready (isParen_of_isKeyword isFirst) fun opens ready' => ?_
  have next := Cursor.isKeyword_advance ready (Token.isSource_of_isKeyword isFirst) second
  rw [isSecond] at next
  exact .take opens ready' (isParen_of_isKeyword next) fun opens ready => rest _ _ _ opens ready

instance (first second : Keyword) : Level (optionalPair first second) where
  level {c} ready := by
    unfold optionalPair
    rw [atKeywords_bind]
    split
    · next both =>
      rw [Bool.and_eq_true] at both
      exact levels_takeBoth (.refl c) ready both.1 both.2 fun t u d opens ready =>
        .pure opens ready
    · exact .pure (.refl c) ready

theorem level_aliased {e : Expr} {accepts : Token → Bool}
    (plain : ∀ {t}, accepts t = true → t.isParen = false) : Level (aliased e accepts) where
  level {c} ready := by
    have names : Level (require (fun t => t.isWord || t.kind == .literal .string) "alias") := by
      refine level_require fun {t} accepted => ?_
      rcases Bool.or_eq_true _ _ ▸ accepted with word | string
      · exact isParen_of_isWord word
      · exact isParen_of_kind (by decide) string
    unfold aliased
    refine .next (.refl c) ready fun asToken d opens ready => ?_
    cases asToken with
    | some asToken => exact .last opens ready
    | none =>
      dsimp only
      rw [current_bind]
      split
      · next accepted =>
        exact .take opens ready (plain accepted) fun opens ready => .last opens ready
      · exact .pure opens ready

theorem isParen_of_isPlainIdentifier {t : Token} (h : t.isPlainIdentifier = true) :
    t.isParen = false := by
  unfold Token.isPlainIdentifier at h
  rw [Bool.and_eq_true, Bool.and_eq_true] at h
  exact isParen_of_isWord h.1.1

section Expressions

variable (sub : Precedence → Parser Expr) [subs : Subexpressions sub]

instance : Level (sortItem sub) := by
  unfold sortItem
  refine .bind inferInstance fun e => .bind inferInstance fun direction => ?_
  cases direction <;> infer_instance

instance : Level (sortItems sub) := by unfold sortItems; infer_instance

/-- A `)` that has to follow does not where parentheses were left open. -/
theorem levels_inParens {f : Expr → Token → Parser β} {b c : Cursor} {j k : Nat}
    (opens : b.Opens (j + 1) c) (ready : c.Ready)
    (rest : ∀ e t d, b.Opens j d → d.Ready → Levels b k (f e t d)) :
    Levels b k ((sub .none >>= fun e => rightParen >>= fun t => f e t) c) := by
  have trails := subs.trails ready
  cases run : sub .none c with
  | error e d =>
    rw [run] at trails
    rw [bind_of_error _ run]
    exact opens.stops trails
  | ok e d =>
    rw [run] at trails
    obtain ⟨ready', m, inside, blocked⟩ := trails
    rw [bind_of_ok _ run]
    have level := opens.trans inside
    by_cases whole : m = 0
    · subst whole
      exact levels_rightParen level ready' fun t d opens ready => rest e t d opens ready
    · refine Levels.bind (j := j) (levels_require level ready' fun accepted => ?_) (rest e)
      exact absurd (eq_of_beq accepted) (not_closing_of_blocked ready' (blocked whole))

instance : Level (topCount sub) where
  level {c} ready := by
    unfold topCount
    refine levels_eatLeftParen (.refl c) ready (fun lparen d opens ready => ?_) ?_
    · exact levels_inParens sub opens ready fun e t d opens ready => .pure opens ready
    · exact .last (.refl c) ready

theorem topClause_levels (ready : c.Ready) (isTop : c.current.isKeyword .TOP = true) :
    Levels c 0 (topClause sub c) := by
  unfold topClause
  exact .take (.refl c) ready (isParen_of_isKeyword isTop) fun opens ready => .last opens ready

instance : Level (optionalTop sub) where
  level {c} ready := by
    unfold optionalTop
    rw [atKeyword_bind]
    split
    · next isTop =>
      exact (topClause_levels sub ready isTop).bind fun clause d opens ready => .pure opens ready
    · exact .pure (.refl c) ready

instance : Level (selectItem sub) := by
  unfold selectItem
  refine .bind inferInstance fun e => level_aliased fun {t} accepted => ?_
  rcases Bool.or_eq_true _ _ ▸ accepted with word | string
  · exact isParen_of_isPlainIdentifier word
  · exact isParen_of_kind (by decide) string

instance : Level (selectColumns sub) := by unfold selectColumns; infer_instance

/-! ### Table sources -/

omit subs in
theorem isParen_of_keyword? {t : Token} {k : Keyword} (h : t.keyword? = some k) :
    t.isParen = false := isParen_of_isKeyword (k := k) (by simp [Token.isKeyword, h])

instance : Level joinOperator where
  level {c} ready := by
    unfold joinOperator
    rw [current_bind]
    generalize word : c.current.keyword? = k
    split
    case h_1 | h_2 =>
      exact .take (.refl c) ready (isParen_of_keyword? word) fun opens ready => .last opens ready
    case h_3 | h_4 | h_5 =>
      rw [lookahead_bind]
      split
      · exact .pure (.refl c) ready
      · exact .take (.refl c) ready (isParen_of_keyword? word) fun opens ready => .last opens ready
    case h_6 =>
      refine .take (.refl c) ready (isParen_of_keyword? word) fun opens ready => ?_
      refine .next opens ready fun apply d opens ready => ?_
      cases apply with
      | some apply => exact .pure opens ready
      | none => exact .last opens ready
    case h_7 =>
      rw [lookahead_bind]
      split
      · next isApply =>
        have isOuter : c.current.isKeyword .OUTER = true := by simp [Token.isKeyword, word]
        exact levels_takeBoth (.refl c) ready isOuter isApply fun t u d opens ready =>
          .pure opens ready
      · exact .pure (.refl c) ready
    case h_8 => exact .pure (.refl c) ready

instance (operator : List Token) : Level (joinCondition sub operator) := by
  unfold joinCondition; infer_instance

instance (source : Parser Expr) [Level source] (left : Expr) : Level (joinStep sub source left) := by
  unfold joinStep
  refine .bind inferInstance fun operator => ?_
  cases operator <;> infer_instance

instance (source : Parser Expr) [Level source] : Level (joinChain sub source) := by
  unfold joinChain; infer_instance

instance (sources : Parser Expr) [Level sources] : Level (tableOrJoin sub sources) where
  level {c} ready := by
    unfold tableOrJoin
    rw [lookahead_bind, atKind_bind]
    split
    · next opening =>
      simp only [Bool.and_eq_true, beq_iff_eq] at opening
      refine .takeOpen (.refl c) ready opening.1.1 fun opens ready => ?_
      refine .next opens ready fun inner d opens ready => ?_
      exact levels_rightParen opens ready fun rparen d opens ready => .last opens ready
    · exact .last (.refl c) ready

instance (table : Expr) : Level (hinted sub table) where
  level {c} ready := by
    unfold hinted
    rw [atKeyword_bind, lookahead_bind]
    split
    · exact .pure (.refl c) ready
    · next hints =>
      simp only [Bool.not_eq_true', Bool.not_eq_false, Bool.and_eq_true, beq_iff_eq] at hints
      obtain ⟨isWith, isOpen⟩ := hints
      refine .take (.refl c) ready (isParen_of_isKeyword isWith) fun opens ready' => ?_
      have next := Cursor.kind_advance ready (Token.isSource_of_isKeyword isWith) isOpen (by decide)
      refine .takeOpen opens ready' next fun opens ready => ?_
      refine .close opens ready fun body d opens ready => ?_
      obtain ⟨inner, rparen⟩ := body
      cases inner with
      | some inner => exact .last opens ready
      | none => exact .fail opens ready

instance (sources : Parser Expr) [Level sources] : Level (tableSource sub sources) := by
  have named : ∀ e, Level (aliased e Token.isPlainIdentifier) := fun e =>
    level_aliased isParen_of_isPlainIdentifier
  unfold tableSource
  infer_instance

instance (limit : Nat) : Level (tableSources sub limit) := by
  induction limit with
  | zero => unfold tableSources; infer_instance
  | succ limit ih => unfold tableSources; infer_instance

instance : Level (fromSources sub) := by unfold fromSources; infer_instance

/-! ### Select -/

instance : Level (selectClauses sub) := by unfold selectClauses; infer_instance

instance : Level (select sub) := by unfold select; infer_instance

/-! ### Operators on queries -/

instance (operator : Token) : Level (optionalAll operator) := by unfold optionalAll; infer_instance

theorem setOperation_levels (left : Expr) (ready : c.Ready)
    (isOperator : c.current.isAnyKeyword [.UNION, .EXCEPT, .INTERSECT] = true) :
    Levels c 0 (setOperation sub left c) := by
  unfold setOperation
  exact .take (.refl c) ready (isParen_of_isAnyKeyword isOperator) fun opens ready =>
    .last opens ready

instance : Level rowsKeyword := by
  unfold rowsKeyword
  refine .bind inferInstance fun found => ?_
  cases found <;> infer_instance

instance : Level (fetchClause sub) := by
  have direction : Level (require (·.isAnyKeyword [.FIRST, .NEXT]) "FIRST or NEXT") :=
    level_require isParen_of_isAnyKeyword
  unfold fetchClause
  refine .bind inferInstance fun found => ?_
  cases found <;> infer_instance

instance : Level (optionalOffset sub) where
  level {c} ready := by
    unfold optionalOffset
    rw [atKeyword_bind]
    split
    · next isOffset =>
      unfold offsetFetch
      have offset : Levels c 0 (offsetFetch sub c) := by
        unfold offsetFetch
        exact .take (.refl c) ready (isParen_of_isKeyword isOffset) fun opens ready =>
          .last opens ready
      exact offset.bind fun clause d opens ready => .pure opens ready
    · exact .pure (.refl c) ready

theorem orderBy_levels (query : Expr) (ready : c.Ready)
    (isOrder : c.current.isKeyword .ORDER = true) : Levels c 0 (orderBy sub query c) := by
  have isOrder' : (c.setAssignment false).current.isKeyword .ORDER = true := by
    rw [Cursor.isKeyword_setAssignment ready]
    exact isOrder
  unfold orderBy
  refine levels_withAssignment ?_
  exact .take (.refl c) (ready.setAssignment false) (isParen_of_isKeyword isOrder')
    fun opens ready => .last opens ready

end Expressions

/-- The options behind `FOR` may leave parentheses open where nothing follows. -/
theorem forOption_trails (query : Expr) (ready : c.Ready)
    (isFor : c.current.isKeyword .FOR = true) : Trails c (forOption query c) := by
  have opens := (Cursor.Opens.refl c).advance_plain ready (isParen_of_isKeyword isFor)
  have ready' := ready.advance
  unfold forOption statementTail
  rw [take_bind, bind_of_ok _ (takeRun_of_ready ready'.fault)]
  generalize c.advance = d at opens ready'
  obtain ⟨m, depth, blocked⟩ := statementExtent_unended [] 0 0 d.ahead
  obtain ⟨moved, rest, fault⟩ := moved_skip_of_fault ready'.fault (statementExtent [] 0 0 d.ahead)
  rw [← rest] at blocked
  generalize statementExtent [] 0 0 d.ahead = n at *
  have known : ∀ t ∈ (d.ahead.take n).map d.normalize, t.isSource = true ∨ c.Meets t := by
    intro t member
    obtain ⟨raw, taken, rfl⟩ := List.mem_map.mp member
    rcases d.normalize_known taken with source | same
    · exact .inl source
    · exact .inr (opens.meets (meets_of_mem moved.ahead ⟨m, depth⟩ same))
  cases kept : Checked.rawTokens ((d.ahead.take n).map d.normalize) with
  | error e => exact stops_rawTokens known kept (d.skip n)
  | ok options =>
    show Trails c (build (Checked.queryOption query c.current options) (d.skip n))
    cases made : Checked.queryOption query c.current options with
    | error e => exact fun isRaw => absurd isRaw (Shaped.Apart.node_ne made)
    | ok a =>
      refine ⟨⟨fault, moved.eof ▸ ready'.eof⟩, m, ?_, blocked⟩
      have level := opens.trans ⟨_, moved.ahead, depth⟩
      rwa [Nat.zero_add] at level

theorem hintOption_levels (query : Expr) (ready : c.Ready)
    (isOption : c.current.isKeyword .OPTION = true) (isOpen : c.lookahead.kind = .leftParen) :
    Levels c 0 (hintOption query c) := by
  unfold hintOption
  refine .take (.refl c) ready (isParen_of_isKeyword isOption) fun opens ready' => ?_
  have next := Cursor.kind_advance ready (Token.isSource_of_isKeyword isOption) isOpen (by decide)
  have isSource := Token.isSource_of_kind_eq rfl next
  refine .takeOpen opens ready' next fun opens ready => ?_
  refine levels_readToCloseParen opens ready fun {tokens rparen d} met isClosing opens ready => ?_
  refine levels_rawTokens (fun t member => ?_) (.last opens ready)
  simp only [List.mem_append, List.mem_cons, List.not_mem_nil, or_false] at member
  rcases member with (rfl | inside) | rfl
  · exact .inl isSource
  · exact .inr (met t inside)
  · exact .inl (Token.isSource_of_kind_eq rfl isClosing)

end TransactSql.Grammar
