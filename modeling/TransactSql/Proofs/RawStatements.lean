import TransactSql.Proofs.Grammar.Sequences
import TransactSql.Proofs.Parens.Depth
import TransactSql.Proofs.Parser.Seams

/-!
# Raw statements end before certain words

A statement that is kept as its tokens and has no `;` goes on until a word starts another statement.
Which words do is told by what stands before them. Some do whatever it is, once parentheses and
`CASE`s are closed: a script that starts with one of them may follow the raw statement.
-/

namespace TransactSql

open TransactSql.Parser

theorem Token.exists_of_isAnyKeyword {t : Token} {ks : List Keyword} (h : t.isAnyKeyword ks = true) :
    ∃ k ∈ ks, t.kind = .word (.keyword k) := by
  unfold isAnyKeyword at h
  cases found : t.keyword? with
  | none =>
    rw [found] at h
    cases h
  | some k =>
    rw [found] at h
    exact ⟨k, by simpa using h, keyword?_eq_some_iff.mp found⟩

/-! ### Open parentheses and `CASE`s -/

/-- How many parentheses, and how many `CASE`s outside parentheses, are open behind a token. -/
def openStep (state : Nat × Nat) (t : Token) : Nat × Nat :=
  if t.kind = .leftParen then (state.1 + 1, state.2)
  else if t.kind = .rightParen then (state.1 - 1, state.2)
  else if state.1 = 0 ∧ t.isKeyword .CASE = true then (0, state.2 + 1)
  else if state.1 = 0 ∧ t.isKeyword .END = true then (0, state.2 - 1)
  else state

/-- The number of `CASE`s outside parentheses that no `END` closes. -/
def openCases (ts : List Token) : Nat := (ts.foldl openStep (0, 0)).2

/-- Parentheses are counted as everywhere. -/
theorem openStep_fst {state : Nat × Nat} {t : Token} {m : Nat} (h : parenStep state.1 t = some m) :
    (openStep state t).1 = m := by
  unfold openStep
  by_cases left : t.kind = .leftParen
  · rw [parenStep_leftParen left] at h
    simpa [left] using h
  · by_cases right : t.kind = .rightParen
    · obtain ⟨parens, cases⟩ := state
      cases parens with
      | zero =>
        rw [parenStep_zero right] at h
        cases h
      | succ parens =>
        rw [parenStep_rightParen right] at h
        simpa [right] using h
    · rw [parenStep_of_not_isParen (by simp [Token.isParen, left, right])] at h
      obtain rfl := Option.some.inj h
      simp only [left, right, if_false]
      split
      · next outside => exact outside.1.symm
      · split
        · next outside => exact outside.1.symm
        · rfl

theorem foldl_openStep_fst {state : Nat × Nat} {ts : List Token} {m : Nat}
    (h : parenDepth? state.1 ts = some m) : (ts.foldl openStep state).1 = m := by
  induction ts generalizing state with
  | nil => exact Option.some.inj h
  | cons t ts ih =>
    rw [parenDepth?_cons] at h
    obtain ⟨l, step, rest⟩ := Option.bind_eq_some_iff.mp h
    rw [← openStep_fst step] at rest
    exact ih rest

namespace Grammar

/-- A token that does not end the statement changes the counts and nothing else. -/
theorem statementExtent_cons_of_ne_zero {before : List Token} {parens cases : Nat} {t : Token}
    {ts : List Token} (goesOn : statementExtent before parens cases (t :: ts) ≠ 0) (us : List Token) :
    statementExtent before parens cases (t :: us) =
      statementExtent (before ++ [t]) (openStep (parens, cases) t).1 (openStep (parens, cases) t).2 us
        + 1 := by
  have isCase := Token.isKeyword_iff (t := t) (k := .CASE)
  have isEnd := Token.isKeyword_iff (t := t) (k := .END)
  rcases parens with _ | parens <;> rcases cases with _ | cases
  all_goals
    simp only [statementExtent] at goesOn ⊢
    split at goesOn <;> simp_all [openStep]

theorem statementExtent_append {before : List Token} {parens cases : Nat} {ts : List Token}
    (all : statementExtent before parens cases ts = ts.length) (us : List Token) :
    statementExtent before parens cases (ts ++ us) = ts.length +
      statementExtent (before ++ ts) (ts.foldl openStep (parens, cases)).1
        (ts.foldl openStep (parens, cases)).2 us := by
  induction ts generalizing before parens cases with
  | nil => simp
  | cons t ts ih =>
    have goesOn : statementExtent before parens cases (t :: ts) ≠ 0 := by simp [all]
    have step := statementExtent_cons_of_ne_zero goesOn
    have rest := step ts
    rw [all, List.length_cons, Nat.add_right_cancel_iff] at rest
    rw [List.cons_append, step, ih rest.symm, List.append_assoc, List.singleton_append,
      List.foldl_cons, List.length_cons, Nat.add_right_comm]

/-! ### Words that end every raw statement -/

/-- Words that start a statement wherever they stand outside parentheses and `CASE`s. -/
def separatingKeywords : List Keyword :=
  [.PRINT, .RAISERROR, .USE, .TRUNCATE, .WAITFOR, .DBCC, .KILL, .CHECKPOINT, .RECONFIGURE, .REVERT,
   .SHUTDOWN, .IF, .WHILE, .RETURN, .DECLARE, .GOTO, .BREAK, .CONTINUE, .BEGIN]

/-- The `IF` of `DROP object IF EXISTS`. -/
def IsDropIf (before : List Token) (t : Token) : Prop :=
  t.isKeyword .IF = true ∧ before.length = 2 ∧ before.head?.any (·.isKeyword .DROP) = true

theorem endsStatement_of_separates {before : List Token} {t : Token}
    (separates : t.isAnyKeyword separatingKeywords = true) (other : ¬ IsDropIf before t) :
    endsStatement before t = true := by
  obtain ⟨k, member, word⟩ := Token.exists_of_isAnyKeyword separates
  have keyword := Token.keyword?_eq_some_iff.mpr word
  by_cases boundary : k ∈ boundaryKeywords
  · have among : t.isAnyKeyword boundaryKeywords = true := by
      simpa [Token.isAnyKeyword, keyword] using boundary
    simp only [endsStatement, among, if_true, Bool.not_eq_true', Bool.eq_false_iff]
    intro isDrop
    exact other (by simpa [IsDropIf, and_assoc] using isDrop)
  · -- The words that start a statement here are reserved and never inside another one.
    have standalone : ∀ k ∈ separatingKeywords, k ∉ boundaryKeywords →
        k.isReserved = true ∧ k ∈ statementKeywords ∧ k ≠ .WITH ∧ k ∈ standaloneKeywords := by
      decide
    obtain ⟨reserved, starts, notWith, stands⟩ := standalone k member boundary
    simp [endsStatement, startsStatement, Token.isAnyKeyword, Token.isKeyword, Token.isReserved,
      Token.hasFlag, Word.isReserved, keyword, word, boundary, reserved, starts, notWith, stands]

theorem statementExtent_of_separates {before : List Token} {t : Token}
    (separates : t.isAnyKeyword separatingKeywords = true) (other : ¬ IsDropIf before t)
    (ts : List Token) : statementExtent before 0 0 (t :: ts) = 0 := by
  obtain ⟨k, member, word⟩ := Token.exists_of_isAnyKeyword separates
  have notCase : k ≠ .CASE := by
    rintro rfl
    simp [separatingKeywords] at member
  simp [statementExtent, word, notCase, endsStatement_of_separates separates other]

end Grammar

/-! ### More tokens behind those ahead -/

namespace Cursor

/-- The cursor with more tokens behind those ahead. -/
def extend (c : Cursor) (more : List Token) : Cursor := { c with ahead := c.ahead ++ more }

variable {c : Cursor} (more : List Token)

theorem current_extend (some : c.ahead ≠ []) : (c.extend more).current = c.current := by
  obtain ⟨t, ts, ahead⟩ := List.exists_cons_of_ne_nil some
  simp [extend, current, rawCurrent, normalize, ahead]

theorem advance_extend (some : c.ahead ≠ []) : (c.extend more).advance = c.advance.extend more := by
  obtain ⟨t, ts, ahead⟩ := List.exists_cons_of_ne_nil some
  cases fault : c.fault <;> simp [extend, advance, advance?, skip, ahead, fault]

theorem skip_extend {n : Nat} (short : n ≤ c.ahead.length) :
    (c.extend more).skip n = (c.skip n).extend more := by
  cases fault : c.fault with
  | some x => simp [extend, skip, fault]
  | none =>
    simp [extend, skip, fault, List.take_append_of_le_length short,
      List.drop_append_of_le_length short]

end Cursor

namespace Grammar

/-- The first tokens `before` of a statement have been read, all in comparison context. The tokens
`ts` of the statement leave nothing open, nor do those that are still ahead. -/
structure Leads (ts before : List Token) (c : Cursor) : Prop extends c.Ready where
  comparing : c.assignment = false
  whole : before ++ c.ahead = ts
  closed : c.ahead.foldl openStep (0, 0) = (0, 0)

/-- A word that is not `CASE` opens nothing. -/
theorem openStep_of_keyword {t : Token} {k : Keyword} (word : t.isKeyword k = true)
    (other : k ≠ .CASE) : openStep (0, 0) t = (0, 0) := by
  have keyword := Token.keyword?_eq_some_iff.mpr (Token.isKeyword_iff.mp word)
  simp [openStep, Token.isKeyword_iff.mp word, Token.isKeyword, keyword, other]

/-- One more word of the statement is read. -/
theorem Leads.advance {ts before : List Token} {c : Cursor} (leads : Leads ts before c) {k : Keyword}
    (word : c.current.isKeyword k = true) (other : k ≠ .CASE) :
    c.ahead ≠ [] ∧ Leads ts (before ++ [c.current]) c.advance := by
  have ready := leads.toReady
  obtain ⟨u, rest, ahead, current⟩ :=
    Cursor.exists_cons_of_isSource ready (Token.isSource_of_isKeyword word)
  have same : c.current = u := by rw [current, Cursor.normalize, leads.comparing]; rfl
  have whole := leads.whole
  have closed := leads.closed
  rw [same] at word ⊢
  rw [ahead] at whole closed ⊢
  rw [List.foldl_cons, openStep_of_keyword word other] at closed
  rw [Cursor.advance_eq ready ahead]
  exact ⟨List.cons_ne_nil _ _, ⟨ready.fault, ready.eof⟩, leads.comparing, by simpa using whole, closed⟩

section

variable {c d : Cursor} {t : Token} {rest : List Token}
  (separates : t.isAnyKeyword separatingKeywords = true)

include separates

theorem not_isKeyword_of_separates {k : Keyword} (other : k ∉ separatingKeywords) :
    t.isKeyword k = false := by
  obtain ⟨l, member, word⟩ := Token.exists_of_isAnyKeyword separates
  have differ : l ≠ k := fun same => other (same ▸ member)
  simpa [Token.isKeyword, Token.keyword?_eq_some_iff.mpr word] using differ

/-- Where all tokens have been read, the word comes next. -/
theorem current_extend_of_nil (fault : c.fault = none) (nothing : c.ahead = []) :
    (c.extend (t :: rest)).current = t := by
  obtain ⟨k, _, word⟩ := Token.exists_of_isAnyKeyword separates
  have same : (c.extend (t :: rest)).rawCurrent = t := by
    simp [Cursor.extend, Cursor.rawCurrent, nothing]
  rw [Cursor.current, show (c.extend (t :: rest)).fault = none from fault, same]
  exact Cursor.normalize_eq _ (by simp [word])

/-- The end of input and a separating word are alike in not being another word. -/
theorem isKeyword_current_extend {k : Keyword} (eof : c.eof.isEof = true)
    (other : k ∉ separatingKeywords) :
    (c.extend (t :: rest)).current.isKeyword k = c.current.isKeyword k := by
  by_cases nothing : c.ahead = []
  · cases fault : c.fault with
    | some x => simp [Cursor.current, Cursor.extend, fault]
    | none =>
      rw [current_extend_of_nil separates fault nothing, not_isKeyword_of_separates separates other]
      symm
      rw [← Bool.not_eq_true]
      intro isWord
      have source := Token.isSource_of_isKeyword isWord
      rw [Cursor.not_isSource_of_nil eof nothing] at source
      cases source
  · rw [Cursor.current_extend _ nothing]

omit separates in
/-- The token after the current one is the same, or it is the end of input and then the word. -/
theorem lookahead_extend (t : Token) (rest : List Token) (some : c.ahead ≠ []) :
    (c.extend (t :: rest)).lookahead = c.lookahead ∨
      c.lookahead = c.eof ∧ (c.extend (t :: rest)).lookahead = t := by
  obtain ⟨u, ts, ahead⟩ := List.exists_cons_of_ne_nil some
  cases ts <;> simp [Cursor.extend, Cursor.lookahead, ahead]

theorem isKeyword_lookahead_extend {k : Keyword} (eof : c.eof.isEof = true) (some : c.ahead ≠ [])
    (other : k ∉ separatingKeywords) :
    (c.extend (t :: rest)).lookahead.isKeyword k = c.lookahead.isKeyword k := by
  rcases lookahead_extend t rest some with same | ⟨isEnd, same⟩
  · rw [same]
  · have kind : c.eof.kind = .eof := eq_of_beq eof
    rw [same, isEnd, not_isKeyword_of_separates separates other]
    simp [Token.isKeyword, Token.keyword?, TokenKind.keyword?, kind]

omit separates in
/-- A raw statement without `;` is made of the tokens up to where it ends. -/
theorem unmodeledFrom_ok {before : List Token} {raw : RawTokens} (fault : c.fault = none)
    (h : unmodeledFrom before c = .ok (.unmodeled raw .placeholder) d) :
    d = c.skip (statementExtent before 0 0 c.ahead) ∧
      ∀ e, rawStatement (before ++ (c.ahead.take (statementExtent before 0 0 c.ahead)).map c.normalize)
        .placeholder e = .ok (.unmodeled raw .placeholder) e := by
  unfold unmodeledFrom statementTail at h
  obtain ⟨tail, e, read, h⟩ := bind_ok h
  obtain ⟨mark, f, ended, made⟩ := bind_ok h
  have still : Still (rawStatement (before ++ tail) mark) := by unfold rawStatement; infer_instance
  obtain ⟨rfl, again⟩ := still.stays made
  have marked : mark = .placeholder := by
    unfold rawStatement at made
    obtain ⟨raw', _, _, made⟩ := bind_ok made
    obtain ⟨same, _⟩ := build_ok made
    cases same
    rfl
  subst marked
  rw [takeRun_of_ready fault] at read
  cases read
  rw [terminator_eq] at ended
  split at ended
  · next taken =>
    obtain ⟨same, _⟩ := EStateM.Result.ok.inj ended
    rw [same] at taken
    simp [Token.placeholder] at taken
  · cases ended
    exact ⟨rfl, again⟩

variable {ts : List Token} (other : ¬ IsDropIf ts t)

include other

/-- A raw statement that has been read to the end of all tokens ends before the word. -/
theorem unmodeledFrom_extend {before : List Token} {raw : RawTokens} (leads : Leads ts before c)
    (h : unmodeledFrom before c = .ok (.unmodeled raw .placeholder) d) (nothing : d.ahead = []) :
    unmodeledFrom before (c.extend (t :: rest)) =
      .ok (.unmodeled raw .placeholder) (d.extend (t :: rest)) := by
  have fault := leads.fault
  obtain ⟨rfl, again⟩ := unmodeledFrom_ok fault h
  have all : statementExtent before 0 0 c.ahead = c.ahead.length := by
    have most := statementExtent_le before 0 0 c.ahead
    rw [(moved_skip_of_fault fault _).2.1, List.drop_eq_nil_iff] at nothing
    omega
  rw [all] at again nothing ⊢
  have extent : statementExtent before 0 0 (c.extend (t :: rest)).ahead = c.ahead.length := by
    have scanned := statementExtent_append all (t :: rest)
    rw [leads.closed, leads.whole, statementExtent_of_separates separates other] at scanned
    exact scanned
  have tail : statementTail before (c.extend (t :: rest)) =
      .ok (c.ahead.map c.normalize) ((c.skip c.ahead.length).extend (t :: rest)) := by
    unfold statementTail
    rw [takeRun_of_ready (c := c.extend (t :: rest)) fault, extent,
      Cursor.skip_extend _ (Nat.le_refl _)]
    simp [Cursor.extend, Cursor.normalize]
  have mark : terminator ((c.skip c.ahead.length).extend (t :: rest)) =
      .ok .placeholder ((c.skip c.ahead.length).extend (t :: rest)) := by
    obtain ⟨k, _, word⟩ := Token.exists_of_isAnyKeyword separates
    have fault' : (c.skip c.ahead.length).fault = none := (moved_skip_of_fault fault _).2.2
    rw [terminator_eq, current_extend_of_nil separates fault' nothing, word, if_neg (by simp)]
  rw [List.take_length] at again
  unfold unmodeledFrom
  rw [bind_of_ok _ tail, bind_of_ok _ mark, again]

/-! ### First words -/

theorem unmodeled_extend {raw : RawTokens} (leads : Leads ts [] c) {k : Keyword}
    (word : c.current.isKeyword k = true) (notCase : k ≠ .CASE)
    (h : unmodeled c = .ok (.unmodeled raw .placeholder) d) (nothing : d.ahead = []) :
    unmodeled (c.extend (t :: rest)) = .ok (.unmodeled raw .placeholder) (d.extend (t :: rest)) := by
  obtain ⟨some, leads'⟩ := leads.advance word notCase
  unfold unmodeled at h ⊢
  rw [take_bind] at h
  rw [take_bind, Cursor.current_extend _ some, Cursor.advance_extend _ some]
  exact unmodeledFrom_extend separates other leads' h nothing

omit other in
theorem orAlter_extend (rest : List Token) {first : Token} {words : List Token} (leads : Leads ts [first] c)
    (h : orAlter first c = .ok words d) :
    Leads ts (first :: words) d ∧
      orAlter first (c.extend (t :: rest)) = .ok words (d.extend (t :: rest)) := by
  have same : ((c.extend (t :: rest)).current.isKeyword .OR &&
      (c.extend (t :: rest)).lookahead.isKeyword .ALTER) =
        (c.current.isKeyword .OR && c.lookahead.isKeyword .ALTER) := by
    rw [isKeyword_current_extend separates leads.eof (by decide)]
    cases isOr : c.current.isKeyword .OR with
    | false => rfl
    | true =>
      obtain ⟨some, _⟩ := leads.advance isOr (by decide)
      rw [isKeyword_lookahead_extend separates leads.eof some (by decide)]
  unfold orAlter at h ⊢
  rw [atKeywords_bind] at h
  rw [atKeywords_bind, same]
  split at h
  · next both =>
    rw [if_pos both]
    simp only [Bool.and_eq_true] at both
    obtain ⟨a, b, more, ahead, _, isAlter⟩ :=
      exists_ahead_of_keywords leads.toReady.stands both.2.1 both.2.2
    obtain ⟨some, leads'⟩ := leads.advance both.2.1 (by decide)
    have second : c.advance.current.isKeyword .ALTER = true := by
      rw [Cursor.advance_eq leads.toReady ahead] at leads' ⊢
      rwa [Cursor.current_eq leads'.toReady, Cursor.isKeyword_normalize]
    obtain ⟨some', leads''⟩ := leads'.advance second (by decide)
    rw [take_bind, take_bind] at h
    cases h
    refine ⟨leads'', ?_⟩
    rw [take_bind, Cursor.current_extend _ some, Cursor.advance_extend _ some, take_bind,
      Cursor.current_extend _ some', Cursor.advance_extend _ some']
    rfl
  · next both =>
    rw [if_neg both]
    cases h
    exact ⟨leads, rfl⟩

section

variable {expr : Precedence → Parser Expr} {statement : Parser Statement} {raw : RawTokens}

omit separates other in
/-- A rule that gives statements of other kinds gives no raw one. -/
theorem foreign {kinds : List NodeKind} {p : Parser Statement} (returns : ReturnsKinds kinds p)
    (absent : NodeKind.unmodeled ∉ kinds) : p c ≠ .ok (.unmodeled raw .placeholder) d :=
  fun run => absent (returns.holds run)

/-- The words of the objects whose statements have a structure. -/
def objectKeywords : List Keyword := [.PROC, .PROCEDURE, .VIEW, .FUNCTION]

omit separates other in
/-- A `CREATE` that is kept raw is not that of an object with a structure. -/
theorem create_unmodeled (h : create expr statement c = .ok (.unmodeled raw .placeholder) d) :
    ∃ words e, orAlter c.current c.advance = .ok words e ∧
      (∀ k ∈ objectKeywords, e.current.isKeyword k = false) ∧
      unmodeledFrom (c.current :: words) e = .ok (.unmodeled raw .placeholder) d := by
  unfold create at h
  rw [take_bind] at h
  obtain ⟨words, e, read, h⟩ := bind_ok h
  refine ⟨words, e, read, ?_⟩
  rw [current_bind] at h
  generalize found : e.current.keyword? = word at h
  split at h
  case h_1 | h_2 => exact absurd h (foreign (returns_procedure expr statement _) (by simp))
  case h_3 => exact absurd h (foreign (returns_view expr _) (by simp))
  case h_4 => exact absurd h (foreign (returns_function expr statement _) (by simp))
  case h_5 =>
    refine ⟨?_, h⟩
    simp_all [objectKeywords, Token.isKeyword]

omit separates other in
theorem create_of_other {words : List Token} {e : Cursor}
    (read : orAlter c.current c.advance = .ok words e)
    (plain : ∀ k ∈ objectKeywords, e.current.isKeyword k = false) :
    create expr statement c = unmodeledFrom (c.current :: words) e := by
  unfold create
  rw [take_bind, bind_of_ok _ read, current_bind]
  simp only [objectKeywords, List.forall_mem_cons, Token.isKeyword] at plain
  generalize e.current.keyword? = word at plain ⊢
  split <;> simp_all

theorem create_extend (leads : Leads ts [] c) {k : Keyword} (word : c.current.isKeyword k = true)
    (notCase : k ≠ .CASE)
    (h : create expr statement c = .ok (.unmodeled raw .placeholder) d) (nothing : d.ahead = []) :
    create expr statement (c.extend (t :: rest)) =
      .ok (.unmodeled raw .placeholder) (d.extend (t :: rest)) := by
  obtain ⟨words, e, read, plain, h⟩ := create_unmodeled h
  obtain ⟨some, leads'⟩ := leads.advance word notCase
  obtain ⟨leads'', read'⟩ := orAlter_extend separates rest leads' read
  rw [← Cursor.current_extend (t :: rest) some,
    ← Cursor.advance_extend (t :: rest) some] at read'
  rw [create_of_other read' ?_, Cursor.current_extend _ some]
  · exact unmodeledFrom_extend separates other leads'' h nothing
  · intro k member
    have absent : ∀ k ∈ objectKeywords, k ∉ separatingKeywords := by decide
    rw [isKeyword_current_extend separates leads''.eof (absent k member)]
    exact plain k member

/-- The words behind a `BEGIN` that is kept raw. -/
def rawBeginKeywords : List Keyword := [.DIALOG, .CONVERSATION, .DISTRIBUTED]

omit separates other in
theorem beginStatement_unmodeled
    (h : beginStatement statement c = .ok (.unmodeled raw .placeholder) d) :
    ∃ k ∈ rawBeginKeywords, c.lookahead.isKeyword k = true := by
  unfold beginStatement at h
  rw [lookahead_bind] at h
  generalize found : c.lookahead.keyword? = word at h
  split at h
  case h_1 | h_2 => exact absurd h (foreign returns_beginTransaction (by simp))
  case h_3 => exact absurd h (foreign (returns_tryCatch statement) (by simp))
  case h_7 =>
    obtain ⟨b, e, _, h⟩ := bind_ok h
    cases h
  all_goals
    have next := Token.isKeyword_iff.mpr (Token.keyword?_eq_some_iff.mp found)
    exact ⟨_, by simp [rawBeginKeywords], next⟩

omit separates other in
theorem beginStatement_of_raw {k : Keyword} (member : k ∈ rawBeginKeywords)
    (next : c.lookahead.isKeyword k = true) : beginStatement statement c = unmodeled c := by
  unfold beginStatement
  rw [lookahead_bind, Token.keyword?_eq_some_iff.mpr (Token.isKeyword_iff.mp next)]
  simp only [rawBeginKeywords, List.mem_cons, List.not_mem_nil, or_false] at member
  rcases member with rfl | rfl | rfl <;> rfl

theorem beginStatement_extend (leads : Leads ts [] c) (isBegin : c.current.isKeyword .BEGIN = true)
    (h : beginStatement statement c = .ok (.unmodeled raw .placeholder) d) (nothing : d.ahead = []) :
    beginStatement statement (c.extend (t :: rest)) =
      .ok (.unmodeled raw .placeholder) (d.extend (t :: rest)) := by
  have absent : ∀ k ∈ rawBeginKeywords, k ∉ separatingKeywords := by decide
  obtain ⟨some, _⟩ := leads.advance isBegin (by decide)
  obtain ⟨k, member, next⟩ := beginStatement_unmodeled h
  rw [beginStatement_of_raw member next] at h
  rw [← isKeyword_lookahead_extend separates leads.eof some (absent k member)] at next
  rw [beginStatement_of_raw member next]
  exact unmodeled_extend separates other leads isBegin (by decide) h nothing

/-- Raw statements are told by their first words, and what is told by the second word is told by
another word than those that separate. -/
theorem wordStatement_extend (leads : Leads ts [] c) (some : c.ahead ≠ [])
    (h : wordStatement expr statement c.current c = .ok (.unmodeled raw .placeholder) d)
    (nothing : d.ahead = []) :
    wordStatement expr statement c.current (c.extend (t :: rest)) =
      .ok (.unmodeled raw .placeholder) (d.extend (t :: rest)) := by
  unfold wordStatement at h ⊢
  rw [lookahead_bind] at h ⊢
  have first : ∀ {k}, c.current.keyword? = .some k → c.current.isKeyword k = true := by
    intro k found
    simp [Token.isKeyword, found]
  generalize found : c.current.keyword? = word at h first ⊢
  split at h
  case h_1 => exact beginStatement_extend separates other leads (first rfl) h nothing
  case h_2 => exact absurd h (foreign (returns_ifElse expr statement) (by simp))
  case h_3 => exact absurd h (foreign (returns_whileLoop expr statement) (by simp))
  case h_4 | h_5 => exact absurd h (foreign returns_loopControl (by simp))
  case h_6 => exact absurd h (foreign (returns_returnValue expr) (by simp))
  case h_7 => exact absurd h (foreign returns_goto (by simp))
  case h_8 => exact absurd h (foreign (returns_set expr) (by simp))
  case h_9 => exact absurd h (foreign (returns_declare expr) (by simp))
  case h_10 | h_11 => exact create_extend separates other leads (first rfl) (by decide) h nothing
  case h_12 => exact absurd h (foreign (returns_expressionStatement expr) (by simp))
  case h_13 =>
    split at h
    · next isRaw =>
      have isRaw' : (c.extend (t :: rest)).lookahead.isKeyword .CONVERSATION = true :=
        (isKeyword_lookahead_extend separates leads.eof some (by decide)).trans isRaw
      simp only [isRaw', if_true]
      exact unmodeled_extend separates other leads (first rfl) (by decide) h nothing
    · exact absurd h fail_ok
  case h_14 => exact absurd h fail_ok
  case h_15 =>
    split at h
    · exact absurd h (foreign returns_label (by simp))
    · next noLabel =>
      split at h
      · next starts =>
        rw [if_neg ?_, if_pos starts]
        · obtain ⟨k, member, word⟩ := Token.exists_of_isAnyKeyword starts
          have isWord := Token.isKeyword_iff.mpr word
          have notCase : k ≠ .CASE := by
            rintro rfl
            simp [statementKeywords] at member
          exact unmodeled_extend separates other leads isWord notCase h nothing
        · rcases lookahead_extend t rest some with same | ⟨_, same⟩
          · rwa [same]
          · obtain ⟨k, _, isWord⟩ := Token.exists_of_isAnyKeyword separates
            simp [same, isWord]
      · exact absurd h failExpected_ok

theorem anyStatement_extend (rest : List Token) (leads : Leads ts [] c) (some : c.ahead ≠ [])
    (h : anyStatement expr statement c = .ok (.unmodeled raw .placeholder) d)
    (nothing : d.ahead = []) :
    anyStatement expr statement (c.extend (t :: rest)) =
      .ok (.unmodeled raw .placeholder) (d.extend (t :: rest)) := by
  unfold anyStatement at h ⊢
  rw [current_bind] at h
  rw [current_bind, Cursor.current_extend _ some]
  generalize c.current.kind = kind at h ⊢
  split at h
  case h_1 =>
    obtain ⟨same, _⟩ := build_ok h
    cases same
  case h_2 => exact absurd h (foreign (returns_expressionStatement expr) (by simp))
  case h_3 => exact wordStatement_extend separates other leads some h nothing
  case h_4 => exact absurd h failAtError_ok
  case h_5 => exact absurd h failExpected_ok

end

end

end Grammar

/-- A script that is one raw statement without `;` and leaves nothing open may be followed by a
script that starts with a separating word: the raw statement ends before the word. -/
theorem raw_statement_ends_at_word {depth : Nat} {first rest : List Token} {t : Token}
    {raw : RawTokens} {more : List Statement}
    (others : ∀ u ∈ first ++ t :: rest, u.isEof = false)
    (read : (Parser.statements depth).result (.ofTokens first) = .ok [.unmodeled raw .placeholder])
    (balanced : Balanced first) (closed : openCases first = 0)
    (separates : t.isAnyKeyword Grammar.separatingKeywords = true)
    (other : ¬ Grammar.IsDropIf first t)
    (read' : (Parser.statements depth).result (.ofTokens (t :: rest)) = .ok more) :
    (Parser.statements depth).result (.ofTokens (first ++ t :: rest)) =
      .ok (.unmodeled raw .placeholder :: more) := by
  obtain ⟨others₁, others₂⟩ := List.forall_mem_append.mp others
  rw [script_iff others₁] at read
  rw [script_iff others₂] at read'
  rw [script_iff others]
  rw [Cursor.ofTokens_eq others₁] at read
  cases read with
  | cons started run none =>
    cases none
    have nonempty : first ≠ [] := by
      rintro rfl
      cases started
    have parens : (first.foldl openStep (0, 0)).1 = 0 :=
      foldl_openStep_fst (balanced_iff.mp balanced)
    have leads : Grammar.Leads first [] { ahead := first, eof := .eof .zero } :=
      ⟨⟨rfl, rfl⟩, rfl, rfl, Prod.ext parens closed⟩
    cases depth with
    | zero => exact absurd run fail_ok
    | succ depth =>
      have run' := Grammar.anyStatement_extend separates other rest leads nonempty run rfl
      rw [← Cursor.current_extend (t :: rest) nonempty] at started
      rw [Cursor.ofTokens_eq others₂] at read'
      rw [Cursor.ofTokens_eq others]
      exact .cons started run' read'

/-- A single unread statement without a `;`. -/
def isUnterminatedRaw : List Statement → Bool
  | [.unmodeled _ t] => t = .placeholder
  | _ => false

/-- An `INSERT` with a `CASE` and an `IF` in parentheses goes on over its `SELECT`, up to the next `IF`. -/
theorem raw_statement_ends_at_word_insert :
    ∃ raw more, (Parser.statements defaultDepth).result
        (.ofTokens (lex "INSERT t SELECT CASE WHEN a = 1 THEN (IF) END FROM u").dropLast) =
          .ok [.unmodeled raw .placeholder] ∧
      (Parser.statements defaultDepth).result (.ofTokens (lex "IF b = 2 RETURN").dropLast) = .ok more ∧
      (Parser.statements defaultDepth).result
        (.ofTokens ((lex "INSERT t SELECT CASE WHEN a = 1 THEN (IF) END FROM u").dropLast ++
          (lex "IF b = 2 RETURN").dropLast)) = .ok (.unmodeled raw .placeholder :: more) := by
  have shape : ((Parser.statements defaultDepth).result (.ofTokens
      (lex "INSERT t SELECT CASE WHEN a = 1 THEN (IF) END FROM u").dropLast)).toOption.any
        isUnterminatedRaw = true := by
    decide +kernel
  obtain ⟨ss, read⟩ := exists_of_isOk (x := (Parser.statements defaultDepth).result
    (.ofTokens (lex "INSERT t SELECT CASE WHEN a = 1 THEN (IF) END FROM u").dropLast))
    (by decide +kernel)
  obtain ⟨more, read'⟩ := exists_of_isOk (x := (Parser.statements defaultDepth).result
    (.ofTokens (lex "IF b = 2 RETURN").dropLast)) (by decide +kernel)
  rw [read] at shape
  simp only [Except.toOption, Option.any_some, isUnterminatedRaw] at shape
  split at shape
  · next raw t =>
    obtain rfl : t = .placeholder := of_decide_eq_true shape
    have words : (lex "IF b = 2 RETURN").dropLast =
        (lex "IF b = 2 RETURN").head (by decide +kernel) :: (lex "IF b = 2 RETURN").dropLast.tail := by
      decide +kernel
    refine ⟨raw, more, read, read', ?_⟩
    rw [words] at read' ⊢
    exact raw_statement_ends_at_word (by decide +kernel) read
      (balanced_iff.mpr (by decide +kernel)) (by decide +kernel) (by decide +kernel)
      (by rintro ⟨_, two, _⟩; revert two; decide +kernel) read'
  · cases shape

end TransactSql
