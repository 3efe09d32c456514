import TransactSql.Proofs.Grammar.StatementYield

/-!
# Trees give their text back

Whatever a text is parsed as holds its tokens, each once and in order, so its source is the text.
-/

namespace TransactSql

/-! ### Tokens read as assignments -/

theorem Token.source_asAssignment (t : Token) : t.asAssignment.source = t.source := by
  unfold asAssignment
  split <;> rfl

theorem Token.isSource_asAssignment (t : Token) : t.asAssignment.isSource = t.isSource := by
  unfold asAssignment isSource
  split
  · next eq => rw [eq]; rfl
  · rfl

theorem Token.ReadAs.source_eq {raw t : Token} (read : raw.ReadAs t) : t.source = raw.source := by
  rcases read with rfl | rfl
  · rfl
  · exact raw.source_asAssignment

theorem Token.ReadAs.isSource_eq {raw t : Token} (read : raw.ReadAs t) : t.isSource = raw.isSource := by
  rcases read with rfl | rfl
  · rfl
  · exact raw.isSource_asAssignment

theorem sourceText_eq_of_readAs {raw ts : List Token} (read : List.Forall₂ Token.ReadAs raw ts) :
    sourceText ts = sourceText raw := by
  have sources : ts.map Token.source = raw.map Token.source := by
    induction read with
    | nil => rfl
    | cons first _ ih => rw [List.map_cons, List.map_cons, first.source_eq, ih]
  rw [sourceText, sourceText, sources]

theorem isSource_of_readAs {raw ts : List Token} (read : List.Forall₂ Token.ReadAs raw ts)
    (source : ∀ t ∈ ts, t.isSource = true) : ∀ t ∈ raw, t.isSource = true := by
  induction read with
  | nil => simp
  | cons first _ ih =>
    simp only [List.forall_mem_cons] at source ⊢
    exact ⟨first.isSource_eq ▸ source.1, ih source.2⟩

/-! ### Texts -/

/-- The cursor on a text has all its tokens ahead. -/
theorem Cursor.ofText_eq (text : String) :
    (Cursor.ofText text).ahead = (lex text).dropLast ∧ (Cursor.ofText text).Ready := by
  obtain ⟨init, last, tokens, eof, others, _⟩ := (lex_tiling text).ends
  have front : (init ++ [last]).takeWhile (!·.isEof) = init := by
    rw [List.takeWhile_append_of_pos fun t member => by simp [others t member]]
    simp [eof]
  have found : (init ++ [last]).find? Token.isEof = some last := by
    rw [List.find?_append, List.find?_eq_none.mpr fun t member => by simp [others t member]]
    simp [eof]
  unfold Cursor.ofText Cursor.ofTokens
  rw [tokens, front, found]
  exact ⟨by simp, rfl, eof⟩

/-- The end of input adds nothing to the text behind other tokens. -/
theorem sourceText_dropLast {text : String} (nonempty : (lex text).dropLast ≠ []) :
    sourceText (lex text).dropLast = sourceText (lex text) := by
  obtain ⟨init, last, tokens, _, _, _, _, empty, trailing, leading⟩ := (lex_tiling text).ends
  rw [tokens, List.dropLast_concat] at nonempty ⊢
  rw [← String.toList_inj, toList_sourceText, toList_sourceText]
  simp [empty, trailing, leading (.inl nonempty)]

/-- A tree that holds the tokens of a text, each once and in order. -/
structure RoundTrips (text : String) (tree : Tree) : Prop where
  /-- No part of the text is malformed. -/
  clean : ∀ t ∈ lex text, t.isError = false
  /-- The tokens of the tree are those of the text up to the end of input. -/
  tokens : List.Forall₂ Token.ReadAs (lex text).dropLast tree.tokens
  source : (lex text).dropLast ≠ [] → tree.source = text

theorem Cursor.isEof_normalize (c : Cursor) (t : Token) : (c.normalize t).isEof = t.isEof := by
  unfold normalize Token.asAssignment Token.isEof
  split
  · split
    · next eq => rw [eq]; rfl
    · rfl
  · rfl

/-- All tokens have been read where the end is accepted. -/
theorem Parser.expectEnd_ok {c d : Cursor} (ready : c.Ready) (others : ∀ t ∈ c.ahead, t.isEof = false)
    (h : expectEnd c = .ok () d) : c.ahead = [] := by
  unfold expectEnd at h
  simp only [atEnd_bind] at h
  split at h
  · next done =>
    rw [Cursor.current_eq ready] at done
    cases ahead : c.ahead with
    | nil => rfl
    | cons t rest =>
      have raw : c.rawCurrent = t := by simp [Cursor.rawCurrent, ahead]
      have real := others t (by simp [ahead])
      rw [raw, Cursor.isEof_normalize, real] at done
      cases done
  · rw [get_bind, ready.fault] at h
    exact absurd h failExpected_ok

theorem Parser.parseAll_ok {p : Parser α} {text : String} {a : α} (h : parseAll p text = .ok a) :
    ∃ c d, p (.ofText text) = .ok a c ∧ expectEnd c = .ok () d := by
  unfold parseAll at h
  dsimp only at h
  split at h
  · next whole =>
    cases h
    obtain ⟨a, c, first, rest⟩ := bind_ok whole
    obtain ⟨_, d, ended, rest⟩ := bind_ok rest
    obtain ⟨rfl, rfl⟩ := pure_ok rest
    exact ⟨c, d, first, ended⟩
  · cases h

/-- A parser that keeps what it reads keeps all of a text that it reads to the end. -/
theorem Parser.parseAll_roundTrips {p : Parser α} {slots : α → List Tree} [yields : Yields p slots]
    {text : String} {a : α} {tree : Tree} (h : parseAll p text = .ok a)
    (same : tree.tokens = Tree.tokensOf (slots a)) : RoundTrips text tree := by
  obtain ⟨c, d, run, ended⟩ := parseAll_ok h
  obtain ⟨ahead, ready⟩ := Cursor.ofText_eq text
  obtain ⟨⟨raw, moved, read⟩, source, ready'⟩ := yields.reads ready run
  obtain ⟨init, last, tokens, _, others, _, error, _⟩ := (lex_tiling text).ends
  have all : c.ahead = [] := by
    refine expectEnd_ok ready' (fun t member => others t ?_) ended
    rw [tokens, List.dropLast_concat, moved.ahead] at ahead
    rw [← ahead]
    exact List.mem_append_right raw member
  rw [moved.ahead, all, List.append_nil] at ahead
  subst ahead
  have clean : ∀ t ∈ lex text, t.isError = false := by
    have real := isSource_of_readAs read source
    rw [tokens, List.dropLast_concat] at real
    rw [tokens]
    intro t member
    rcases List.mem_append.mp member with before | final
    · exact Token.isError_of_isSource (real t before)
    · rw [List.mem_singleton.mp final]
      exact error
  rw [← same] at read
  refine ⟨clean, read, fun nonempty => ?_⟩
  calc tree.source
      = sourceText (lex text).dropLast := sourceText_eq_of_readAs read
    _ = sourceText (lex text) := sourceText_dropLast nonempty
    _ = text := String.toList_inj.mp ((lex_tiling text).toList_sourceText_eq.1 clean)

/-- A script of trivia only has no statements. -/
theorem parseScript_of_no_tokens {text : String} (none : (lex text).dropLast = []) :
    parseScript text = .ok [] := by
  obtain ⟨ahead, ready⟩ := Cursor.ofText_eq text
  rw [none] at ahead
  generalize start : Cursor.ofText text = c at ahead ready
  have ended : c.current.isEof = true := by
    have raw : c.rawCurrent = c.eof := by simp [Cursor.rawCurrent, ahead]
    rw [Cursor.current_eq ready, Cursor.isEof_normalize, raw]
    exact ready.eof
  have stops : Parser.statements defaultDepth c = .ok [] c := by
    have round : Grammar.moreStatements (Parser.statement defaultDepth) [] c = .ok .none c := by
      unfold Grammar.moreStatements
      rw [Parser.atEnd_bind, ended]
      rfl
    unfold Parser.statements Grammar.statements Parser.loop
    rw [Parser.get_bind]
    unfold Parser.rounds
    simp only [bind, EStateM.bind, round]
    rfl
  have accepts : Parser.expectEnd c = .ok () c := by
    unfold Parser.expectEnd
    rw [Parser.atEnd_bind, ended]
    rfl
  unfold parseScript Parser.parseAll
  simp only [bind, EStateM.bind, start, stops, accepts]
  rfl

/-- Whatever a text is parsed as gives the text back, through all structured, raw and recovered
parts of the tree. -/
theorem parse_roundTrips (text : String) :
    (∀ e, parseExpression text = .ok e → RoundTrips text e.tree) ∧
    (∀ s, parseStatement text = .ok s → RoundTrips text s.tree) ∧
    (∀ ss, parseScript text = .ok ss → RoundTrips text (Statement.listTree ss)) ∧
    ((lex text).dropLast = [] → parseScript text = .ok [] ∧ (Statement.listTree []).source = "") := by
  refine ⟨fun e h => ?_, fun s h => ?_, fun ss h => ?_, fun none => ?_⟩
  · exact Parser.parseAll_roundTrips h (by simp)
  · exact Parser.parseAll_roundTrips h (by simp)
  · exact Parser.parseAll_roundTrips h (by simp [Statement.listTree])
  · exact ⟨parseScript_of_no_tokens none, by decide⟩

/-- Raw tokens in parentheses, a recovered block, an assignment, and trivia only. -/
theorem parse_roundTrips_fallbacks :
    (∃ e, parseExpression "a = (b c) --x" = .ok e ∧ RoundTrips "a = (b c) --x" e.tree) ∧
    (∃ s, parseStatement "BEGIN SELECT ( END;" = .ok s ∧ RoundTrips "BEGIN SELECT ( END;" s.tree) ∧
    (∃ ss, parseScript "SET @x = 1\n" = .ok ss ∧ RoundTrips "SET @x = 1\n" (Statement.listTree ss)) ∧
    parseScript " /* */ " = .ok [] := by
  obtain ⟨e, expression⟩ := exists_of_isOk (x := parseExpression "a = (b c) --x") (by decide +kernel)
  obtain ⟨s, block⟩ := exists_of_isOk (x := parseStatement "BEGIN SELECT ( END;") (by decide +kernel)
  obtain ⟨ss, script⟩ := exists_of_isOk (x := parseScript "SET @x = 1\n") (by decide +kernel)
  refine ⟨⟨e, expression, (parse_roundTrips _).1 e expression⟩,
    ⟨s, block, (parse_roundTrips _).2.1 s block⟩,
    ⟨ss, script, (parse_roundTrips _).2.2.1 ss script⟩, ?_⟩
  exact ((parse_roundTrips " /* */ ").2.2.2 (by decide +kernel)).1

end TransactSql
