import TransactSql.Grammar.Query
import TransactSql.Proofs.Grammar.OperandSettling

/-!
# Queries settle

The rules of a `SELECT`, of its table sources, and of the operators on finished queries, in the
order of the grammar. A rule that starts by taking the current token is given what the caller saw
there.
-/

namespace TransactSql.Grammar

open TransactSql.Parser

variable {ts : List Token} {c : Cursor}

/-! ### Clauses -/

theorem listOrSingle_settles {P : Expr → Prop} {read : List Expr × List Token}
    (stands : c.Stands ts) (list : CommaList P read) : Settles ts (fun _ => True) (build (listOrSingle read) c) := by
  unfold listOrSingle
  split
  · exact .pure stands trivial
  · exact settles_build stands (list.isOk_bind fun _ => rfl) trivial

instance (k : Keyword) (body : Parser Expr) [Settled ts body fun _ => True] :
    Settled ts (optionalClause k body) fun found => found.all (·.startsWith k) = true where
  settles stands := by
    unfold optionalClause
    refine .next stands fun found d stands isWord => ?_
    cases found with
    | none => exact .pure stands rfl
    | some t =>
      simp only [Option.all_some] at isWord
      refine .next stands fun body d stands _ => ?_
      refine settles_build_bind (by simp [Checked.clause, isWord]) (.pure stands ?_)
      simp [Clause.startsWith, isWord]

instance (k : Keyword) (body : Parser Expr) [Settled ts body fun _ => True] :
    Settled ts (optionalByClause k body) fun found => found.all (·.startsWith k) = true where
  settles stands := by
    unfold optionalByClause
    rw [atKeyword_bind]
    split
    · exact .pure stands rfl
    · next isWord =>
      simp only [Bool.not_eq_true', Bool.not_eq_false] at isWord
      rw [take_bind]
      refine .next stands.advance fun second d stands isBy => ?_
      refine .next stands fun body d stands _ => ?_
      refine settles_build_bind (by simp [Checked.clause, isWord, isBy]) (.pure stands ?_)
      simp [Clause.startsWith, isWord]

/-- Two words that are both there are taken as they were seen. -/
instance (first second : Keyword) : Settled ts (optionalPair first second) fun found =>
    found.all (fun pair => pair.1.isKeyword first && pair.2.isKeyword second) = true where
  settles {c} stands := by
    unfold optionalPair
    rw [atKeywords_bind]
    split
    · next both =>
      rw [Bool.and_eq_true] at both
      have source := Token.isSource_of_isKeyword both.1
      have next := Cursor.isKeyword_advance stands.toReady source second
      rw [take_bind, take_bind]
      exact .pure stands.advance.advance (by simp [both, next])
    · exact .pure stands rfl

section

variable (sub : Precedence → Parser Expr) [subs : ∀ min, Settled ts (sub min) fun _ => True]

instance : Settled ts (sortItem sub) fun _ => True where
  settles stands := by
    unfold sortItem
    refine .next stands fun e d stands _ => .next stands fun direction d stands isWord => ?_
    cases direction with
    | none => exact .pure stands trivial
    | some direction => exact settles_build stands (by simpa [Checked.sort] using isWord) trivial

instance : Settled ts (sortItems sub) fun _ => True where
  settles stands := by
    unfold sortItems
    exact .next stands fun read d stands list => listOrSingle_settles stands list

instance : Settled ts (topCount sub) fun count => Check.isParenPair count.1 count.2.2 = true where
  settles stands := by
    unfold topCount
    refine .next stands fun lparen d stands isOpen => ?_
    cases lparen with
    | none => exact .next stands fun count d stands _ => .pure stands rfl
    | some lparen =>
      simp only [Option.all_some] at isOpen
      refine .next stands fun count d stands _ => .next stands fun rparen d stands isClosing => ?_
      exact .pure stands (by simp [Check.isParenPair, isOpen, isClosing])

theorem topClause_settles (stands : c.Stands ts) (isTop : c.current.isKeyword .TOP = true) :
    Settles ts (fun _ => True) (topClause sub c) := by
  unfold topClause
  rw [take_bind]
  refine settles_withAssignment ?_
  refine .next (stands.advance.setAssignment false) fun count d stands paired => ?_
  obtain ⟨lparen, count, rparen⟩ := count
  refine .next stands fun percent d stands isPercent => ?_
  refine .next stands fun withTies d stands isTies => ?_
  refine settles_build stands ?_ trivial
  cases withTies <;> simp_all [Checked.top, Check.isOk_parenPair paired]

instance : Settled ts (optionalTop sub) fun _ => True where
  settles stands := by
    unfold optionalTop
    rw [atKeyword_bind]
    split
    · next isTop =>
      exact (topClause_settles sub stands isTop).bind fun _ d stands _ => .pure stands trivial
    · exact .pure stands trivial

theorem aliased_settles (e : Expr) {accepts : Token → Bool} (stands : c.Stands ts)
    (names : ∀ t, accepts t = true → (t.isWord || t.kind == .literal .string) = true) :
    Settles ts (fun _ => True) (aliased e accepts c) := by
  unfold aliased
  refine .next stands fun asToken d stands isAs => ?_
  cases asToken with
  | some asToken =>
    refine .next stands fun name d stands isName => ?_
    exact settles_build stands (by simp_all [Checked.aliased]) trivial
  | none =>
    dsimp only
    rw [current_bind]
    split
    · next accepted =>
      rw [take_bind]
      have isName := names _ accepted
      exact settles_build stands.advance
        (by simp_all [Checked.aliased, Token.isPlaceholder, Token.placeholder]) trivial
    · exact .pure stands trivial

instance : Settled ts (selectItem sub) fun _ => True where
  settles stands := by
    unfold selectItem
    refine .next stands fun e d stands _ => aliased_settles e stands fun t accepted => ?_
    unfold Token.isPlainIdentifier at accepted
    simp_all only [Bool.or_eq_true, Bool.and_eq_true]
    tauto

instance : Settled ts (selectColumns sub) fun _ => True where
  settles stands := by
    unfold selectColumns
    refine .next stands fun read d stands list => ?_
    obtain ⟨items, separators⟩ := read
    exact settles_build stands (list.isOk_bind fun _ => rfl) trivial

/-! ### Table sources -/

/-- At most three words, of which the last is `JOIN` or `APPLY`. -/
def isJoin (operator : List Token) : Bool :=
  operator.length ≤ 3 && operator.getLast?.any (·.isAnyKeyword [.JOIN, .APPLY])

theorem isAnyKeyword_of_mem {t : Token} {k : Keyword} {ks : List Keyword}
    (isWord : t.isKeyword k = true) (member : k ∈ ks) : t.isAnyKeyword ks = true := by
  rw [Token.isKeyword, beq_iff_eq] at isWord
  simp [Token.isAnyKeyword, isWord, member]

instance : Settled ts joinOperator fun found => found.all isJoin = true where
  settles {c} stands := by
    have joins {t : Token} (isWord : t.isKeyword .JOIN = true) :
        t.isAnyKeyword [.JOIN, .APPLY] = true := isAnyKeyword_of_mem isWord (by simp)
    have applies {t : Token} (isWord : t.isKeyword .APPLY = true) :
        t.isAnyKeyword [.JOIN, .APPLY] = true := isAnyKeyword_of_mem isWord (by simp)
    unfold joinOperator
    rw [current_bind]
    generalize word : c.current.keyword? = k
    split
    case h_1 =>
      rw [take_bind]
      exact .pure stands.advance (by simp [isJoin, Token.isAnyKeyword, word])
    case h_2 =>
      rw [take_bind]
      exact .next stands.advance fun join d stands isWord =>
        .pure stands (by simp [isJoin, joins isWord])
    case h_3 | h_4 | h_5 =>
      rw [lookahead_bind]
      split
      · exact .pure stands rfl
      · rw [take_bind]
        refine .next stands.advance fun outer d stands _ => ?_
        refine .next stands fun join d stands isWord => ?_
        exact .pure stands (by cases outer <;> simp [isJoin, joins isWord])
    case h_6 =>
      rw [take_bind]
      refine .next stands.advance fun apply d stands isWord => ?_
      cases apply with
      | some apply => exact .pure stands (by simp [isJoin, applies isWord])
      | none =>
        exact .next stands fun join d stands isWord => .pure stands (by simp [isJoin, joins isWord])
    case h_7 =>
      rw [lookahead_bind]
      split
      · next isWord =>
        have source := Token.isSource_of_keyword? word
        have next := Cursor.isKeyword_advance stands.toReady source .APPLY
        rw [take_bind, take_bind]
        exact .pure stands.advance.advance (by simp [isJoin, applies (next.trans isWord)])
      · exact .pure stands rfl
    case h_8 => exact .pure stands rfl

instance (operator : List Token) : Settled ts (joinCondition sub operator)
    fun on => (Checked.isUnconditional operator == on.value?.isSome) = false ∧
      (Checked.tail .join "on" .ON on).isOk = true where
  settles stands := by
    unfold joinCondition
    split
    · next unconditional => exact .pure stands (by simp [unconditional, Tail.value?])
    · next conditional =>
      refine .next stands fun keyword d stands isOn => .next stands fun e d stands _ => ?_
      exact .pure stands (by simp_all [Tail.value?])

instance (source : Parser Expr) [Settled ts source fun _ => True] (left : Expr) :
    Settled ts (joinStep sub source left) fun _ => True where
  settles stands := by
    unfold joinStep
    refine .next stands fun operator d stands isJoin => ?_
    cases operator with
    | none => exact .pure stands trivial
    | some operator =>
      refine .next stands fun right d stands _ => .next stands fun on d stands fits => ?_
      refine settles_build_bind ?_ (.pure stands trivial)
      simp only [Option.all_some, Grammar.isJoin, Bool.and_eq_true, Option.any_eq_true] at isJoin
      obtain ⟨short, last, isLast, isWord⟩ := isJoin
      simp_all [Checked.join]

instance (source : Parser Expr) [Settled ts source fun _ => True] :
    Settled ts (joinChain sub source) fun _ => True where
  settles stands := by
    unfold joinChain
    refine .next stands fun first d stands _ => ?_
    refine settles_loop (fun _ => True) (fun stands _ => ?_) stands trivial
    exact .last stands fun _ _ _ _ => trivial

instance (sources : Parser Expr) [Settled ts sources fun _ => True] :
    Settled ts (tableOrJoin sub sources) fun _ => True where
  settles stands := by
    unfold tableOrJoin
    rw [lookahead_bind, atKind_bind]
    split
    · next opens =>
      simp only [Bool.and_eq_true] at opens
      rw [take_bind]
      refine .next stands.advance fun inner d stands _ => ?_
      refine .next stands fun rparen d stands isClosing => ?_
      exact settles_build stands (by simp [Checked.paren, opens.1.1, isClosing]) trivial
    · exact .last stands fun _ _ => trivial

instance (table : Expr) : Settled ts (hinted sub table) fun _ => True where
  settles {c} stands := by
    unfold hinted
    rw [atKeyword_bind, lookahead_bind]
    split
    · exact .pure stands trivial
    · next both =>
      simp only [Bool.not_eq_true', Bool.not_eq_false, Bool.and_eq_true, beq_iff_eq] at both
      obtain ⟨isWith, isOpen⟩ := both
      have source := Token.isSource_of_isKeyword isWith
      have next := Cursor.kind_advance stands.toReady source isOpen nofun
      rw [take_bind, take_bind]
      refine .next stands.advance.advance fun body d stands isClosing => ?_
      obtain ⟨hints, rparen⟩ := body
      cases hints with
      | none => exact .fail stands
      | some hints =>
        exact settles_build stands (by simp_all [Checked.tableHint]) trivial

instance (sources : Parser Expr) [Settled ts sources fun _ => True] :
    Settled ts (tableSource sub sources) fun _ => True where
  settles stands := by
    unfold tableSource
    refine .next stands fun source d stands _ => ?_
    refine (aliased_settles source stands fun t accepted => ?_).bind fun table d stands _ => ?_
    · simp only [Token.isPlainIdentifier, Bool.and_eq_true] at accepted
      simp [accepted]
    · exact .last stands fun _ _ => trivial

instance (limit : Nat) : Settled ts (tableSources sub limit) fun _ => True := by
  induction limit with
  | zero => exact ⟨fun stands => .fail stands⟩
  | succ limit ih =>
    refine ⟨fun stands => ?_⟩
    unfold tableSources
    exact .next stands fun read d stands list => listOrSingle_settles stands list

instance : Settled ts (fromSources sub) fun _ => True where
  settles stands := by
    unfold fromSources
    rw [get_bind]
    exact .last stands fun _ _ => trivial

/-! ### Select -/

instance : Settled ts (selectClauses sub) fun clauses =>
    clauses.into.all (·.startsWith .INTO) = true ∧ clauses.source.all (·.startsWith .FROM) = true ∧
    clauses.condition.all (·.startsWith .WHERE) = true ∧
    clauses.grouping.all (·.startsWith .GROUP) = true ∧
    clauses.having.all (·.startsWith .HAVING) = true where
  settles stands := by
    unfold selectClauses
    refine .next stands fun into d stands isInto => .next stands fun source d stands isFrom => ?_
    refine .next stands fun condition d stands isWhere => ?_
    refine .next stands fun grouping d stands isGroup => ?_
    refine .next stands fun having d stands isHaving => ?_
    exact .pure stands ⟨isInto, isFrom, isWhere, isGroup, isHaving⟩

instance : Settled ts (select sub) fun _ => True where
  settles stands := by
    unfold select
    refine .next stands fun keyword d stands isSelect => ?_
    refine .next stands fun quantifier d stands isQuantifier => ?_
    refine .next stands fun top d stands _ => .next stands fun columns d stands _ => ?_
    refine .next stands fun clauses d stands led => ?_
    obtain ⟨isInto, isFrom, isWhere, isGroup, isHaving⟩ := led
    refine settles_build stands ?_ trivial
    cases quantifier <;>
      simp_all [Checked.select, Checked.isOk_leading isInto, Checked.isOk_leading isFrom,
        Checked.isOk_leading isWhere, Checked.isOk_leading isGroup, Checked.isOk_leading isHaving]

/-! ### Operators on queries -/

instance (operator : Token) : Settled ts (optionalAll operator) fun all =>
    all.all (·.isKeyword .ALL) = true ∧
      (all.isSome = true → operator.isKeyword .UNION = true) where
  settles stands := by
    unfold optionalAll
    split
    · next isUnion => exact .last stands fun all isAll => ⟨isAll, fun _ => isUnion⟩
    · exact .pure stands ⟨rfl, nofun⟩

theorem setOperation_settles (left : Expr) (stands : c.Stands ts)
    (isWord : c.current.isAnyKeyword [.UNION, .EXCEPT, .INTERSECT] = true) :
    Settles ts (fun _ => True) (setOperation sub left c) := by
  unfold setOperation
  rw [take_bind]
  refine .next stands.advance fun all d stands isAll => .next stands fun right d stands _ => ?_
  split
  · exact .fail_bind stands
  · refine settles_build stands ?_ trivial
    cases all <;> simp_all [Checked.setOperation]

instance : Settled ts rowsKeyword fun t => t.isAnyKeyword [.ROW, .ROWS] = true where
  settles stands := by
    unfold rowsKeyword
    refine .next stands fun rows d stands isWord => ?_
    cases rows with
    | none => exact .failExpected stands
    | some rows => exact .pure stands (by simpa using isWord)

instance : Settled ts (fetchClause sub) fun _ => True where
  settles stands := by
    unfold fetchClause
    refine .next stands fun fetchToken d stands isFetch => ?_
    cases fetchToken with
    | none => exact .pure stands trivial
    | some fetchToken =>
      refine .next stands fun direction d stands isDirection => ?_
      refine .next stands fun count d stands _ => ?_
      refine .next stands fun rows d stands isRows => .next stands fun only d stands isOnly => ?_
      exact settles_build_bind (by simp_all [Checked.fetch, Checked.rows]) (.pure stands trivial)

theorem offsetFetch_settles (stands : c.Stands ts) (isOffset : c.current.isKeyword .OFFSET = true) :
    Settles ts (fun _ => True) (offsetFetch sub c) := by
  unfold offsetFetch
  rw [take_bind]
  refine .next stands.advance fun count d stands _ => .next stands fun rows d stands isRows => ?_
  refine .next stands fun fetch d stands _ => ?_
  exact settles_build stands (by simp [Checked.offset, Checked.rows, isOffset, isRows]) trivial

instance : Settled ts (optionalOffset sub) fun _ => True where
  settles stands := by
    unfold optionalOffset
    rw [atKeyword_bind]
    split
    · next isOffset =>
      exact (offsetFetch_settles sub stands isOffset).bind fun _ d stands _ => .pure stands trivial
    · exact .pure stands trivial

theorem orderBy_settles (query : Expr) (stands : c.Stands ts)
    (isOrder : c.current.isKeyword .ORDER = true) :
    Settles ts (fun _ => True) (orderBy sub query c) := by
  rw [← Cursor.isKeyword_setAssignment stands.toReady false] at isOrder
  unfold orderBy
  refine settles_withAssignment ?_
  rw [take_bind]
  refine .next (stands.setAssignment false).advance fun second d stands isBy => ?_
  refine .next stands fun items d stands _ => ?_
  refine settles_build_bind (by simp [Checked.clause, isOrder, isBy]) ?_
  refine .next stands fun offset d stands _ => ?_
  exact settles_build stands (by simp [Checked.orderBy, Checked.leading, isOrder]) trivial

theorem statementExtent_cons {before : List Token} {t : Token} {k : Keyword} (rest : List Token)
    (word : t.kind = .word (.keyword k)) (notCase : k ≠ .CASE)
    (goesOn : endsStatement before t = false) :
    statementExtent before 0 0 (t :: rest) = statementExtent (before ++ [t]) 0 0 rest + 1 := by
  simp [statementExtent, word, notCase, goesOn]

theorem exists_ahead_of_isAnyKeyword {ks : List Keyword} (stands : c.Stands ts)
    (isWord : c.current.isAnyKeyword ks = true) :
    ∃ t rest k, c.ahead = t :: rest ∧ t.kind = .word (.keyword k) ∧ k ∈ ks := by
  have source := Token.isSource_of_isAnyKeyword isWord
  obtain ⟨t, rest, ahead, current⟩ := Cursor.exists_cons_of_isSource stands.toReady source
  rw [current, Cursor.isAnyKeyword_normalize, Token.isAnyKeyword, Option.any_eq_true] at isWord
  obtain ⟨k, word, member⟩ := isWord
  exact ⟨t, rest, k, ahead, Token.keyword?_eq_some_iff.mp word, by simpa using member⟩

/-- The word behind a `FOR` is an option of the query. -/
theorem forOption_settles (query : Expr) (stands : c.Stands ts)
    (isFor : c.current.isKeyword .FOR = true)
    (next : c.lookahead.isAnyKeyword [.XML, .JSON, .BROWSE] = true) :
    Settles ts (fun _ => True) (forOption query c) := by
  have source := Token.isSource_of_isKeyword isFor
  have isOption := (Cursor.isAnyKeyword_advance stands.toReady source _).trans next
  obtain ⟨t, rest, k, ahead, word, member⟩ := exists_ahead_of_isAnyKeyword stands.advance isOption
  have goesOn : endsStatement [] t = false := by
    simp only [List.mem_cons, List.not_mem_nil, or_false] at member
    rcases member with rfl | rfl | rfl <;>
      simp [endsStatement, startsStatement, Token.isAnyKeyword, Token.keyword?, word,
        TokenKind.keyword?, Word.keyword?, boundaryKeywords, statementKeywords]
  have some := statementExtent_cons rest word (by rintro rfl; simp at member) goesOn
  unfold forOption statementTail
  rw [take_bind]
  refine (takeRun_settles _ stands.advance).bind fun options d stands held => ?_
  obtain ⟨read, known⟩ := held
  refine settles_rawTokens_bind stands known (settles_build stands ?_ trivial)
  simp [Checked.queryOption, isAnyKeyword_of_mem isFor, read, ahead, some]

theorem hintOption_settles (query : Expr) (stands : c.Stands ts)
    (isOption : c.current.isKeyword .OPTION = true) (isOpen : c.lookahead.kind = .leftParen) :
    Settles ts (fun _ => True) (hintOption query c) := by
  have source := Token.isSource_of_isKeyword isOption
  have next := Cursor.kind_advance stands.toReady source isOpen nofun
  unfold hintOption
  rw [take_bind, take_bind]
  refine .next stands.advance.advance fun read d stands held => ?_
  obtain ⟨tokens, rparen⟩ := read
  refine settles_rawTokens_bind stands ?_ (settles_build stands ?_ trivial)
  · intro t member
    simp only [List.cons_append, List.mem_cons, List.mem_append, List.not_mem_nil, or_false]
      at member
    rcases member with rfl | inside | rfl
    · exact .inl (Token.isSource_of_kind_eq rfl next)
    · exact .inr (held.1 t inside)
    · exact .inl (Token.isSource_of_kind rfl held.2)
  · simp [Checked.queryOption, isAnyKeyword_of_mem isOption]

end

end TransactSql.Grammar
