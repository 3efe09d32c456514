import TransactSql.Grammar.Query
import TransactSql.Proofs.Grammar.OperandYield

/-!
# Queries keep their tokens
-/

namespace TransactSql

@[simp]
theorem Expr.slotsOf_eq (es : List Expr) : Expr.slotsOf es = es.map Expr.tree := by
  induction es with
  | nil => rfl
  | cons e es ih => simp [Expr.slotsOf, ih]

attribute [simp] Clause.tree TopClause.optionalSlot SelectClauses.slots FetchClause.optionalSlots
  OffsetFetch.tree OffsetFetch.optionalSlot TopClause.tree

namespace Grammar

open TransactSql.Parser

/-! ### Clauses -/

theorem listOrSingle_reads {b c d : Cursor} {read : List Expr × List Token} {e : Expr}
    (r : b.Reads (Tree.interleave (read.1.map Expr.tree) read.2) c)
    (h : build (listOrSingle read) c = .ok e d) : b.Reads [e.tree] d := by
  obtain ⟨items, separators⟩ := read
  unfold listOrSingle at h
  split at h
  · next single =>
    obtain ⟨rfl, rfl⟩ := build_ok h
    dsimp only at single r
    subst single
    exact r
  · obtain ⟨rfl, rfl⟩ := build_ok h
    exact r.of_tokens (by simp [Expr.tree])

instance (k : Keyword) (body : Parser Expr) [Yields body fun e => [e.tree]] :
    Yields (optionalClause k body) Clause.optionalSlot where
  reads ready h := by
    unfold optionalClause at h
    obtain ⟨found, _, r, h⟩ := (Cursor.Reads.start ready).bind h
    cases found with
    | none =>
      cases h
      exact r
    | some t =>
      obtain ⟨e, _, r, h⟩ := r.bind h
      cases build_bind_ok h
      exact r.of_tokens (by simp)

instance (k : Keyword) (body : Parser Expr) [Yields body fun e => [e.tree]] :
    Yields (optionalByClause k body) Clause.optionalSlot where
  reads {c d clause} ready h := by
    unfold optionalByClause at h
    simp only [atKeyword_bind] at h
    split at h
    · cases h
      exact .start ready
    · next found =>
      have here : c.current.isKeyword k = true := by simpa using found
      obtain ⟨r, h⟩ := (Cursor.Reads.start ready).take (Token.isSource_of_isKeyword here) h
      obtain ⟨second, _, r, h⟩ := r.bind h
      obtain ⟨e, _, r, h⟩ := r.bind h
      cases build_bind_ok h
      exact r.of_tokens (by simp)

theorem takePair_reads {b c d : Cursor} {slots : List Tree} {k : Token → Token → Parser α} {a : α}
    (r : b.Reads slots c) (first : c.current.isSource = true) (second : c.lookahead.isSource = true)
    (h : (take >>= fun x => take >>= k x) c = .ok a d) :
    ∃ x y e, b.Reads (slots ++ [.token x, .token y]) e ∧ k x y e = .ok a d := by
  have next := Cursor.isSource_current_advance r.ready first second
  obtain ⟨r, h⟩ := r.take first h
  obtain ⟨r, h⟩ := r.take next h
  exact ⟨_, _, _, r.of_tokens (by simp), h⟩

/-- The slots of two tokens that may be absent. -/
def pairSlots (pair : Option (Token × Token)) : List Tree :=
  (pair.map fun (first, second) => [Tree.token first, .token second]).getD []

instance (first second : Keyword) : Yields (optionalPair first second) pairSlots where
  reads ready h := by
    unfold optionalPair at h
    simp only [atKeywords_bind] at h
    split at h
    · next found =>
      rw [Bool.and_eq_true] at found
      obtain ⟨x, y, _, r, h⟩ := takePair_reads (.start ready) (Token.isSource_of_isKeyword found.1)
        (Token.isSource_of_isKeyword found.2) h
      cases h
      exact r
    · cases h
      exact .start ready

theorem aliased_reads {b c d : Cursor} {e : Expr} {a : Expr} {accepts : Token → Bool}
    (source : ∀ {t}, accepts t = true → t.isSource = true) (r : b.Reads [e.tree] c)
    (h : aliased e accepts c = .ok a d) : b.Reads [a.tree] d := by
  unfold aliased at h
  obtain ⟨asToken, _, r, h⟩ := r.bind h
  cases asToken with
  | some asToken =>
    have named : Yields (require (fun t => t.isWord || t.kind == .literal .string) "alias")
        fun t => [.token t] := by
      refine yields_require fun {t} accepted => ?_
      rcases Bool.or_eq_true _ _ ▸ accepted with word | string
      · exact Token.isSource_of_isWord word
      · exact Token.isSource_of_kind rfl string
    obtain ⟨name, _, r, h⟩ := r.bind h
    obtain ⟨rfl, rfl⟩ := build_ok h
    exact r.of_tokens (by simp [Expr.tree])
  | none =>
    simp only [current_bind] at h
    split at h
    · next accepted =>
      obtain ⟨r, h⟩ := r.hole.take (source accepted) h
      obtain ⟨rfl, rfl⟩ := build_ok h
      exact r.of_tokens (by simp [Expr.tree])
    · cases h
      exact r

section

variable (sub : Precedence → Parser Expr) [∀ min, Yields (sub min) fun e => [e.tree]]

instance : Yields (sortItem sub) fun e => [e.tree] where
  reads ready h := by
    unfold sortItem at h
    obtain ⟨e, _, r, h⟩ := (Cursor.Reads.start ready).bind h
    obtain ⟨direction, _, r, h⟩ := r.bind h
    cases direction with
    | none =>
      cases h
      exact r
    | some direction =>
      obtain ⟨rfl, rfl⟩ := build_ok h
      exact r.of_tokens (by simp [Expr.tree])

instance : Yields (sortItems sub) fun e => [e.tree] where
  reads ready h := by
    unfold sortItems at h
    obtain ⟨read, _, r, h⟩ := (Cursor.Reads.start ready).bind h
    exact listOrSingle_reads r h

/-- What stands between `TOP` and its options. -/
def topCountSlots (count : Token × Expr × Token) : List Tree :=
  [.token count.1, count.2.1.tree, .token count.2.2]

instance : Yields (topCount sub) topCountSlots where
  reads ready h := by
    unfold topCount at h
    obtain ⟨lparen, _, r, h⟩ := (Cursor.Reads.start ready).bind h
    cases lparen with
    | none =>
      obtain ⟨count, _, r, h⟩ := r.hole.bind h
      cases h
      exact r.hole.of_tokens (by simp [topCountSlots])
    | some lparen =>
      obtain ⟨count, _, r, h⟩ := r.bind h
      obtain ⟨rparen, _, r, h⟩ := r.bind h
      cases h
      exact r

theorem topClause_reads {c d : Cursor} {t : TopClause} (ready : c.Ready)
    (found : c.current.isKeyword .TOP = true) (h : topClause sub c = .ok t d) : c.Reads [t.tree] d := by
  unfold topClause at h
  obtain ⟨r, h⟩ := (Cursor.Reads.start ready).take (Token.isSource_of_isKeyword found) h
  obtain ⟨_, inside, h, leave⟩ := reads_withAssignment r h
  obtain ⟨count, _, inside, h⟩ := inside.bind h
  obtain ⟨percent, _, inside, h⟩ := inside.bind h
  obtain ⟨withTies, _, inside, h⟩ := inside.bind h
  obtain ⟨rfl, rfl⟩ := build_ok h
  exact (leave inside).of_tokens (by simp [topCountSlots, pairSlots])

instance : Yields (optionalTop sub) TopClause.optionalSlot where
  reads ready h := by
    unfold optionalTop at h
    simp only [atKeyword_bind] at h
    split at h
    · next found =>
      obtain ⟨top, _, run, h⟩ := bind_ok h
      cases h
      exact topClause_reads sub ready found run
    · cases h
      exact .start ready

/-! ### Select items -/

instance : Yields (selectItem sub) fun e => [e.tree] where
  reads ready h := by
    unfold selectItem at h
    obtain ⟨e, _, r, h⟩ := (Cursor.Reads.start ready).bind h
    refine aliased_reads (fun {t} accepted => ?_) r h
    rcases Bool.or_eq_true _ _ ▸ accepted with plain | string
    · exact Token.isSource_of_isPlainIdentifier plain
    · exact Token.isSource_of_kind rfl string

instance : Yields (selectColumns sub) fun e => [e.tree] where
  reads ready h := by
    unfold selectColumns at h
    obtain ⟨⟨items, separators⟩, _, r, h⟩ := (Cursor.Reads.start ready).bind h
    obtain ⟨rfl, rfl⟩ := build_ok h
    exact r.of_tokens (by simp [Expr.tree])

/-! ### Operators on queries -/

instance (operator : Token) : Yields (optionalAll operator) Tree.optionalToken := by
  refine ⟨fun ready h => ?_⟩
  unfold optionalAll at h
  split at h
  · exact Yields.reads ready h
  · cases h
    exact .start ready

theorem setOperation_reads {b c d : Cursor} {left e : Expr} (r : b.Reads [left.tree] c)
    (source : c.current.isSource = true) (h : setOperation sub left c = .ok e d) :
    b.Reads [e.tree] d := by
  unfold setOperation at h
  obtain ⟨r, h⟩ := r.take source h
  obtain ⟨all, _, r, h⟩ := r.bind h
  obtain ⟨right, _, r, h⟩ := r.bind h
  dsimp only at h
  split at h
  · exact absurd h fail_ok
  · obtain ⟨rfl, rfl⟩ := build_ok h
    exact r.of_tokens (by simp [Expr.tree])

instance : Yields rowsKeyword fun t => [.token t] where
  reads ready h := by
    unfold rowsKeyword at h
    obtain ⟨found, _, r, h⟩ := (Cursor.Reads.start ready).bind h
    cases found with
    | none => exact absurd h failExpected_ok
    | some t =>
      cases h
      exact r

instance : Yields (fetchClause sub) FetchClause.optionalSlots where
  reads ready h := by
    unfold fetchClause at h
    obtain ⟨fetchToken, _, r, h⟩ := (Cursor.Reads.start ready).bind h
    cases fetchToken with
    | none =>
      cases h
      exact r
    | some fetchToken =>
      have directions : Yields (require (·.isAnyKeyword [.FIRST, .NEXT]) "FIRST or NEXT")
          fun t => [.token t] := yields_require Token.isSource_of_isAnyKeyword
      obtain ⟨direction, _, r, h⟩ := r.bind h
      obtain ⟨count, _, r, h⟩ := r.bind h
      obtain ⟨rows, _, r, h⟩ := r.bind h
      obtain ⟨only, _, r, h⟩ := r.bind h
      cases build_bind_ok h
      exact r

theorem offsetFetch_reads {c d : Cursor} {o : OffsetFetch} (ready : c.Ready)
    (found : c.current.isKeyword .OFFSET = true) (h : offsetFetch sub c = .ok o d) :
    c.Reads [o.tree] d := by
  unfold offsetFetch at h
  obtain ⟨r, h⟩ := (Cursor.Reads.start ready).take (Token.isSource_of_isKeyword found) h
  obtain ⟨count, _, r, h⟩ := r.bind h
  obtain ⟨rows, _, r, h⟩ := r.bind h
  obtain ⟨fetch, _, r, h⟩ := r.bind h
  obtain ⟨rfl, rfl⟩ := build_ok h
  exact r.of_tokens (by simp)

instance : Yields (optionalOffset sub) OffsetFetch.optionalSlot where
  reads ready h := by
    unfold optionalOffset at h
    simp only [atKeyword_bind] at h
    split at h
    · next found =>
      obtain ⟨o, _, run, h⟩ := bind_ok h
      cases h
      exact offsetFetch_reads sub ready found run
    · cases h
      exact .start ready

theorem orderBy_reads {b c d : Cursor} {query e : Expr} (r : b.Reads [query.tree] c)
    (source : c.current.isSource = true) (h : orderBy sub query c = .ok e d) :
    b.Reads [e.tree] d := by
  unfold orderBy at h
  obtain ⟨_, inside, h, leave⟩ := reads_withAssignment r h
  rw [← Cursor.isSource_current_setAssignment r.ready false] at source
  obtain ⟨inside, h⟩ := inside.take source h
  obtain ⟨second, _, inside, h⟩ := inside.bind h
  obtain ⟨items, _, inside, h⟩ := inside.bind h
  have h := build_bind_ok h
  obtain ⟨offset, _, inside, h⟩ := inside.bind h
  obtain ⟨rfl, rfl⟩ := build_ok h
  exact (leave inside).of_tokens (by simp [Expr.tree])

theorem forOption_reads {b c d : Cursor} {query e : Expr} (r : b.Reads [query.tree] c)
    (source : c.current.isSource = true) (h : forOption query c = .ok e d) : b.Reads [e.tree] d := by
  unfold forOption statementTail at h
  obtain ⟨r, h⟩ := r.take source h
  obtain ⟨options, _, run, h⟩ := bind_ok h
  obtain ⟨kept, h⟩ := Checked.rawTokens_bind_ok h
  have r := r.takeRun run kept
  obtain ⟨rfl, rfl⟩ := build_ok h
  exact r.of_tokens (by simp [Expr.tree])

theorem hintOption_reads {b c d : Cursor} {query e : Expr} (r : b.Reads [query.tree] c)
    (first : c.current.isSource = true) (second : c.lookahead.isSource = true)
    (h : hintOption query c = .ok e d) : b.Reads [e.tree] d := by
  unfold hintOption at h
  obtain ⟨keyword, lparen, _, r, h⟩ := takePair_reads r first second h
  obtain ⟨⟨tokens, rparen⟩, _, read, h⟩ := bind_ok h
  obtain ⟨kept, h⟩ := Checked.rawTokens_bind_ok h
  obtain ⟨_, _, read, leave⟩ := reads_recording r read
  have inside := readToCloseParen_reads (.refl _) r.ready.eof read fun t member =>
    kept t (by simp [member])
  obtain ⟨rfl, rfl⟩ := build_ok h
  exact (leave inside).of_tokens (by simp [Expr.tree])

/-! ### Table sources -/

/-- The words of a join that may be absent. -/
def joinSlots (operator : Option (List Token)) : List Tree := Tree.tokenSlots (operator.getD [])

instance : Yields joinOperator joinSlots where
  reads {c d operator} ready h := by
    have r := Cursor.Reads.start ready
    unfold joinOperator at h
    simp only [current_bind] at h
    generalize found : c.current.keyword? = k at h
    split at h
    case h_1 =>
      obtain ⟨r, h⟩ := r.take (Token.isSource_of_keyword? found) h
      cases h
      exact r
    case h_2 =>
      obtain ⟨r, h⟩ := r.take (Token.isSource_of_keyword? found) h
      obtain ⟨join, _, r, h⟩ := r.bind h
      cases h
      exact r
    case h_3 | h_4 | h_5 =>
      simp only [lookahead_bind] at h
      split at h
      · cases h
        exact r
      · obtain ⟨r, h⟩ := r.take (Token.isSource_of_keyword? found) h
        obtain ⟨outer, _, r, h⟩ := r.bind h
        obtain ⟨join, _, r, h⟩ := r.bind h
        cases h
        exact r.of_tokens (by cases outer <;> simp [joinSlots])
    case h_6 =>
      obtain ⟨r, h⟩ := r.take (Token.isSource_of_keyword? found) h
      obtain ⟨apply, _, r, h⟩ := r.bind h
      cases apply with
      | some apply =>
        cases h
        exact r
      | none =>
        obtain ⟨join, _, r, h⟩ := r.bind h
        cases h
        exact r
    case h_7 =>
      simp only [lookahead_bind] at h
      split at h
      · next apply =>
        obtain ⟨_, _, _, r, h⟩ := takePair_reads r (Token.isSource_of_keyword? found)
          (Token.isSource_of_isKeyword apply) h
        cases h
        exact r
      · cases h
        exact r
    case h_8 =>
      cases h
      exact r

instance (operator : List Token) : Yields (joinCondition sub operator) Tail.slots where
  reads ready h := by
    unfold joinCondition at h
    split at h
    · cases h
      exact .start ready
    · obtain ⟨keyword, _, r, h⟩ := (Cursor.Reads.start ready).bind h
      obtain ⟨value, _, r, h⟩ := r.bind h
      cases h
      exact r

theorem joinStep_reads {source : Parser Expr} [Yields source fun e => [e.tree]] {b c d : Cursor}
    {left : Expr} {next : Option Expr} (r : b.Reads [left.tree] c)
    (h : joinStep sub source left c = .ok next d) : b.Reads [(next.getD left).tree] d := by
  unfold joinStep at h
  obtain ⟨operator, _, r, h⟩ := r.bind h
  cases operator with
  | none =>
    cases h
    exact r
  | some operator =>
    obtain ⟨right, _, r, h⟩ := r.bind h
    obtain ⟨on, _, r, h⟩ := r.bind h
    cases build_bind_ok h
    exact r.of_tokens (by simp [Expr.tree, joinSlots])

instance (source : Parser Expr) [Yields source fun e => [e.tree]] :
    Yields (joinChain sub source) fun e => [e.tree] where
  reads {c d e} ready h := by
    unfold joinChain at h
    obtain ⟨first, _, r, h⟩ := (Cursor.Reads.start ready).bind h
    exact loop_invariant (fun (e : Expr) d => c.Reads [e.tree] d) (joinStep_reads sub) r h

instance (sources : Parser Expr) [Yields sources fun e => [e.tree]] :
    Yields (tableOrJoin sub sources) fun e => [e.tree] where
  reads ready h := by
    unfold tableOrJoin at h
    simp only [lookahead_bind, atKind_bind] at h
    split at h
    · next opens =>
      rw [Bool.and_eq_true, Bool.and_eq_true] at opens
      obtain ⟨r, h⟩ := (Cursor.Reads.start ready).take (Token.isSource_of_kind rfl opens.1.1) h
      obtain ⟨inner, _, r, h⟩ := r.bind h
      obtain ⟨rparen, _, r, h⟩ := r.bind h
      obtain ⟨rfl, rfl⟩ := build_ok h
      exact r.of_tokens (by simp [Expr.tree])
    · have r := (Cursor.Reads.start ready).next h
      exact r

variable [∀ min, Framed (sub min)]

theorem hinted_reads {b c d : Cursor} {table e : Expr} (r : b.Reads [table.tree] c)
    (h : hinted sub table c = .ok e d) : b.Reads [e.tree] d := by
  unfold hinted at h
  simp only [atKeyword_bind, lookahead_bind] at h
  split at h
  · cases h
    exact r
  · next follows =>
    have both : c.current.isKeyword .WITH = true ∧ (c.lookahead.kind == .leftParen) = true := by
      simpa using follows
    obtain ⟨_, _, _, r, h⟩ := takePair_reads r (Token.isSource_of_isKeyword both.1)
      (Token.isSource_of_kind rfl both.2) h
    obtain ⟨⟨hints, rparen⟩, _, r, h⟩ := r.bind h
    cases hints with
    | none => exact absurd h fail_ok
    | some hints =>
      obtain ⟨rfl, rfl⟩ := build_ok h
      exact r.of_tokens (by simp [Expr.tree, parenSlots])

instance (sources : Parser Expr) [Yields sources fun e => [e.tree]] :
    Yields (tableSource sub sources) fun e => [e.tree] where
  reads ready h := by
    unfold tableSource at h
    obtain ⟨source, _, r, h⟩ := (Cursor.Reads.start ready).bind h
    obtain ⟨named, _, run, h⟩ := bind_ok h
    exact hinted_reads sub (aliased_reads Token.isSource_of_isPlainIdentifier r run) h

theorem tableSources_yields (limit : Nat) : Yields (tableSources sub limit) fun e => [e.tree] := by
  induction limit with
  | zero =>
    refine ⟨fun _ h => ?_⟩
    unfold tableSources at h
    exact absurd h fail_ok
  | succ limit ih =>
    refine ⟨fun ready h => ?_⟩
    unfold tableSources at h
    obtain ⟨read, _, r, h⟩ := (Cursor.Reads.start ready).bind h
    exact listOrSingle_reads r h

instance : Yields (fromSources sub) fun e => [e.tree] where
  reads {c d e} ready h := by
    unfold fromSources at h
    rw [get_bind] at h
    exact (tableSources_yields sub (c.ahead.length + 1)).reads ready h

/-! ### Select -/

instance : Yields (selectClauses sub) SelectClauses.slots where
  reads ready h := by
    unfold selectClauses at h
    obtain ⟨into, _, r, h⟩ := (Cursor.Reads.start ready).bind h
    obtain ⟨source, _, r, h⟩ := r.bind h
    obtain ⟨condition, _, r, h⟩ := r.bind h
    obtain ⟨grouping, _, r, h⟩ := r.bind h
    obtain ⟨having', _, r, h⟩ := r.bind h
    cases h
    exact r.of_tokens (by simp)

instance : Yields (select sub) fun e => [e.tree] where
  reads ready h := by
    unfold select at h
    obtain ⟨keyword, _, r, h⟩ := (Cursor.Reads.start ready).bind h
    obtain ⟨quantifier, _, r, h⟩ := r.bind h
    obtain ⟨top, _, r, h⟩ := r.bind h
    obtain ⟨columns, _, r, h⟩ := r.bind h
    obtain ⟨clauses, _, r, h⟩ := r.bind h
    obtain ⟨rfl, rfl⟩ := build_ok h
    exact r.of_tokens (by simp [Expr.tree])

end

end Grammar

end TransactSql
