import TransactSql.Proofs.Failures
import TransactSql.Proofs.Procedures

/-!
# Texts that are one block

Between the `BEGIN` and the `END` of a block that makes up a text any tokens may stand: a body that
does not follow the grammar is kept as its tokens. The only other outcome is that the grammar finds
the end of the block before the end of the text.
-/

namespace TransactSql

open TransactSql.Parser

/-- Tokens with a final `;` apart. -/
def splitTerminator (ts : List Token) : List Token × Option Token :=
  match ts.getLast? with
  | some t => if t.kind = .semicolon then (ts.dropLast, some t) else (ts, none)
  | none => (ts, none)

theorem splitTerminator_concat (ts : List Token) (t : Token) :
    splitTerminator (ts ++ [t]) = if t.kind = .semicolon then (ts, some t) else (ts ++ [t], none) := by
  simp [splitTerminator]

/-! ### Recovery -/

namespace Grammar

/-- After a fault what is made of all the tokens, with a final `;` apart, is the outcome. -/
theorem recovering_of_fault {p : Parser α} [framed : Framed p]
    (recover : List Token → Option Token → Parser α) {c d : Cursor} {x : Diagnostic}
    {front : List Token} {last : Option Token} (run : p c.beginRecording = .error (.grammar x) d)
    (split : splitTerminator c.ahead = (front, last)) :
    ∃ e : Cursor, recovering p recover c = recording (fun _ => recover front last e) c := by
  obtain ⟨raw, moved⟩ := framed.error run
  obtain ⟨skipped, _, _⟩ := moved_skip_of_fault (c := d.clear) rfl d.ahead.length
  have recorded : (d.clear.skip d.ahead.length).recorded = c.ahead := by
    rw [recorded_of_moved ((moved.trans d.moved_clear).trans skipped), List.append_nil]
    have all : d.clear.ahead.take d.ahead.length = d.ahead := List.take_length
    rw [all]
    exact moved.ahead.symm
  have read : readToEnd d = .ok (front, last) (d.clear.skip d.ahead.length) := by
    rw [← split]
    unfold readToEnd splitTerminator
    simp only [modify_bind, get_bind, recorded]
    cases c.ahead.getLast? with
    | none => rfl
    | some t =>
      dsimp only
      split <;> rfl
  refine ⟨d.clear.skip d.ahead.length, ?_⟩
  unfold recovering recording
  rw [attempt_bind, run]
  dsimp only
  rw [bind_of_ok _ read]

/-! ### The outer tokens of a block -/

/-- The outer tokens of a block are its words, with a `;` or nothing behind. -/
structure Delimited (b : Block) : Prop where
  begins : b.beginToken.isKeyword .BEGIN = true
  ends : b.endToken.isKeyword .END = true
  terminated : b.terminator = .placeholder ∨ b.terminator.kind = .semicolon

theorem delimited_of_build {beginToken endToken last : Token} {body : List Statement} {b : Block}
    {c d : Cursor} (made : build (Checked.block beginToken body endToken last) c = .ok b d)
    (terminated : last = .placeholder ∨ last.kind = .semicolon) : Delimited b := by
  have fits : (Checked.block beginToken body endToken last).isOk = true := by
    cases shaped : Checked.block beginToken body endToken last with
    | ok _ => rfl
    | error e =>
      rw [shaped] at made
      cases made
  obtain ⟨rfl, rfl⟩ := build_ok made
  simp only [Checked.block, Shaped.isOk_bind, Check.isOk_keyword, Bool.and_eq_true] at fits
  exact ⟨fits.1, fits.2.1, terminated⟩

theorem terminator_ok {t : Token} {c d : Cursor} (h : terminator c = .ok t d) :
    t = .placeholder ∨ t.kind = .semicolon := by
  unfold terminator at h
  obtain ⟨found, e, eaten, h⟩ := bind_ok h
  cases h
  rcases eat_ok eaten with ⟨rfl, accepted, _⟩ | ⟨rfl, _, _⟩
  · exact .inr (eq_of_beq accepted)
  · exact .inl rfl

section

variable {statement : Parser Statement} {c d : Cursor} {b : Block}

theorem block_delimited (h : block statement c = .ok b d) : Delimited b := by
  unfold block at h
  obtain ⟨_, _, _, h⟩ := bind_ok h
  obtain ⟨_, _, _, h⟩ := bind_ok h
  obtain ⟨_, _, _, h⟩ := bind_ok h
  obtain ⟨_, _, last, h⟩ := bind_ok h
  exact delimited_of_build h (terminator_ok last)

theorem recoveredBlock_delimited {tokens : List Token} {last : Option Token}
    (semicolon : last.all (·.kind == .semicolon) = true)
    (h : recoveredBlock tokens last c = .ok b d) : Delimited b := by
  unfold recoveredBlock at h
  generalize tokens.head? = first, tokens.tail.getLast? = final at h
  split at h
  · dsimp only at h
    split at h
    · exact absurd h fail_ok
    · obtain ⟨_, _, _, h⟩ := bind_ok h
      refine delimited_of_build h ?_
      cases last with
      | none => exact .inl rfl
      | some t => exact .inr (eq_of_beq semicolon)
  · exact absurd h fail_ok

theorem blockRecovering_delimited [Framed statement] (h : blockRecovering statement c = .ok b d) :
    Delimited b := by
  have ending := recovering_ends (block statement) recoveredBlock c
  unfold blockRecovering at h
  rw [h] at ending
  cases ending with
  | read run => exact block_delimited run
  | kept run all ends rest made => exact recoveredBlock_delimited ends made

end

/-- A block that is recovered has its `END`. -/
theorem recoveredBlock_fault {tokens : List Token} {last : Option Token} {c d : Cursor}
    {x : Diagnostic} (h : recoveredBlock tokens last c = .error (.grammar x) d) :
    x = c.diagnose (.missing "END") ∧
      ∀ first middle endToken, tokens = first :: (middle ++ [endToken]) →
        ¬(first.isKeyword .BEGIN = true ∧ endToken.isKeyword .END = true) := by
  unfold recoveredBlock at h
  generalize isFirst : tokens.head? = first, isFinal : tokens.tail.getLast? = final at h
  split at h
  · next beginToken endToken =>
    dsimp only at h
    split at h
    · next refused =>
      cases h
      refine ⟨rfl, ?_⟩
      rintro first middle final rfl ⟨isBegin, isEnd⟩
      simp_all
    · exact absurd h (Faultless.never (p := recoveredStatements tokens.tail.dropLast >>= _))
  · next missing =>
    cases h
    refine ⟨rfl, ?_⟩
    rintro first middle final rfl _
    exact missing first final isFirst.symm (by simpa using isFinal.symm)

end Grammar

/-! ### The place of each token -/

theorem Token.ReadAs.eq_of_kind_ne {raw t : Token} (read : raw.ReadAs t)
    (plain : t.kind ≠ .assignment none) : raw = t := by
  rcases read with rfl | rfl
  · rfl
  · unfold asAssignment at plain ⊢
    split
    · next isEq => simp [isEq] at plain
    · rfl

theorem Token.ReadAs.eq_of_isKeyword {raw t : Token} {k : Keyword} (read : raw.ReadAs t)
    (word : t.isKeyword k = true) : raw = t :=
  read.eq_of_kind_ne (by simp [isKeyword_iff.mp word])

theorem exists_concat_of_forall₂ {R : α → β → Prop} {as : List α} {bs : List β} {b : β}
    (h : List.Forall₂ R as (bs ++ [b])) :
    ∃ front a, as = front ++ [a] ∧ List.Forall₂ R front bs ∧ R a b := by
  induction bs generalizing as with
  | nil =>
    obtain ⟨a, rest, first, tail, rfl⟩ := List.forall₂_cons_right_iff.mp h
    obtain rfl := List.forall₂_nil_right_iff.mp tail
    exact ⟨[], a, rfl, .nil, first⟩
  | cons next bs ih =>
    obtain ⟨a, rest, first, tail, rfl⟩ := List.forall₂_cons_right_iff.mp h
    obtain ⟨front, final, rfl, before, last⟩ := ih tail
    exact ⟨a :: front, final, rfl, .cons first before, last⟩

/-- The tokens that a block was read from are its words, those of its body between them, and a `;`
or none. -/
theorem Grammar.Delimited.split {b : Block} (delimited : Delimited b) {ts : List Token}
    (read : List.Forall₂ Token.ReadAs ts b.tree.tokens) :
    ∃ middle last, splitTerminator ts = (b.beginToken :: (middle ++ [b.endToken]), last) ∧
      b.terminator = last.getD .placeholder ∧
      List.Forall₂ Token.ReadAs middle (Statement.listTree b.body).tokens := by
  obtain ⟨beginToken, body, endToken, terminator⟩ := b
  obtain ⟨begins, ends, terminated⟩ := delimited
  dsimp only at begins ends terminated ⊢
  have tokens : (Block.tree ⟨beginToken, body, endToken, terminator⟩).tokens =
      beginToken :: ((Statement.listTree body).tokens ++ [endToken]) ++
        (Tree.token terminator).tokens := by
    simp [Block.tree, Statement.listTree, Tree.tokens_token (Token.isSource_of_isKeyword begins),
      Tree.tokens_token (Token.isSource_of_isKeyword ends)]
  -- What stands before the terminator, and what follows.
  have inner : ∀ {front}, List.Forall₂ Token.ReadAs front
      (beginToken :: ((Statement.listTree body).tokens ++ [endToken])) →
      ∃ middle, front = beginToken :: (middle ++ [endToken]) ∧
        List.Forall₂ Token.ReadAs middle (Statement.listTree body).tokens := by
    intro front read
    obtain ⟨first, rest, isFirst, more, rfl⟩ := List.forall₂_cons_right_iff.mp read
    obtain ⟨middle, final, rfl, between, isFinal⟩ := exists_concat_of_forall₂ more
    rw [isFirst.eq_of_isKeyword begins, isFinal.eq_of_isKeyword ends]
    exact ⟨middle, rfl, between⟩
  rw [tokens] at read
  rcases terminated with rfl | semicolon
  · rw [Tree.tokens_placeholder, List.append_nil] at read
    obtain ⟨middle, rfl, between⟩ := inner read
    refine ⟨middle, none, ?_, rfl, between⟩
    have other : endToken.kind ≠ .semicolon := by simp [Token.isKeyword_iff.mp ends]
    rw [← List.cons_append, splitTerminator_concat, if_neg other]
  · rw [Tree.tokens_token (Token.isSource_of_kind_eq rfl semicolon)] at read
    obtain ⟨front, last, rfl, before, isLast⟩ := exists_concat_of_forall₂ read
    obtain ⟨middle, rfl, between⟩ := inner before
    rw [isLast.eq_of_kind_ne (by simp [semicolon])]
    refine ⟨middle, some terminator, ?_, rfl, between⟩
    rw [splitTerminator_concat, if_pos semicolon]

/-! ### Messages -/

/-- The text does not follow the grammar, and the message starts with `what`. -/
def Failure.Starts (what : String) : Failure → Prop
  | .grammar d => ∃ rest, d.message = what ++ rest
  | _ => False

theorem Failure.Starts.withSource {what : String} {f : Failure} (starts : f.Starts what)
    (text : String) : (f.withSource text).Starts what := by
  cases f with
  | grammar d => exact starts
  | _ => exact starts.elim

/-- A fault comes first in the message of its diagnostic. -/
theorem Cursor.diagnose_starts (c : Cursor) (f : Fault) :
    (Failure.grammar (c.diagnose f)).Starts f.message := by
  unfold diagnose
  cases c.fault with
  | none => exact ⟨"", by simp [Diagnostic.message]⟩
  | some d =>
    obtain ⟨faults, span, near⟩ := d
    cases faults with
    | nil => exact ⟨"", by simp [Diagnostic.message]⟩
    | cons cause causes =>
      refine ⟨": " ++ ": ".intercalate ((cause :: causes).map Fault.message), ?_⟩
      simp [Diagnostic.message, String.append_assoc]

theorem Parser.result_toEnd_of_more {p : Parser α} {a : α} {c d : Cursor} (run : p c = .ok a d)
    (ready : d.Ready) (more : d.current.isEof = false) :
    ∃ f, p.toEnd.result c = .error f ∧ f.Starts "expected end of input" := by
  have refused : expectEnd d = failExpected "end of input" d := by
    unfold expectEnd
    rw [atEnd_bind, more, if_neg (by decide), get_bind, ready.fault]
  obtain ⟨rest, message⟩ :=
    d.diagnose_starts (.expectedFound "end of input" d.current.describe)
  refine ⟨.grammar (d.diagnose (.expectedFound "end of input" d.current.describe)), ?_,
    ", found " ++ d.current.describe ++ rest, message.trans ?_⟩
  · have stops : p.toEnd c = failExpected "end of input" d := by
      unfold toEnd
      rw [bind_of_ok _ run]
      exact bind_of_error _ refused
    unfold result
    rw [stops]
    rfl
  · simp only [Fault.message, String.append_assoc]
    rw [← String.append_assoc]
    rfl

/-! ### Texts -/

/-- A text without errors and without external code that starts like a block. -/
structure BlockText (text : String) (first : Token) (rest : List Token) : Prop where
  tokens : (lex text).dropLast = first :: rest
  begins : first.isKeyword .BEGIN = true
  opens : ∀ t ∈ rest.head?, t.isAnyKeyword
    [.TRAN, .TRANSACTION, .TRY, .DIALOG, .CONVERSATION, .DISTRIBUTED] = false
  clean : ∀ t ∈ lex text, t.isError = false
  inside : ¬NamesExternal (lex text).dropLast

namespace BlockText

variable {text : String} {first : Token} {rest : List Token}

theorem topStatement_eq (h : BlockText text first rest) (depth : Nat) :
    topStatement depth (.ofText text) =
      (Grammar.blockRecovering (statement depth) >>= fun b => pure (.block b)) (.ofText text) := by
  obtain ⟨ahead, ready⟩ := Cursor.ofText_eq text
  rw [h.tokens] at ahead
  generalize Cursor.ofText text = c at ahead ready
  have isBegin : c.current.isKeyword .BEGIN = true := by
    rw [Cursor.current_eq ready, Cursor.isKeyword_normalize, Cursor.rawCurrent, ahead]
    exact h.begins
  have opens : c.lookahead.isAnyKeyword
      [.TRAN, .TRANSACTION, .TRY, .DIALOG, .CONVERSATION, .DISTRIBUTED] = false := by
    rw [Cursor.lookahead, ahead, List.tail_cons]
    cases behind : rest with
    | nil =>
      cases found : c.eof.isAnyKeyword
          [.TRAN, .TRANSACTION, .TRY, .DIALOG, .CONVERSATION, .DISTRIBUTED] with
      | false => exact found
      | true =>
        have other := Token.not_isEof_of_isSource (Token.isSource_of_isAnyKeyword found)
        rw [ready.eof] at other
        cases other
    | cons t more => exact h.opens t (by simp [behind])
  unfold topStatement Grammar.atBlock
  simp only [bind_assoc, current_bind, lookahead_bind, pure_bind', isBegin, opens]
  rfl

/-- No other failure can come up: the tokens give no reason. -/
theorem eq_grammar (h : BlockText text first rest) {depth : Nat} {f : Failure} {d : Cursor}
    (run : topStatement depth (.ofText text) = .error f d) : ∃ x, f = .grammar x := by
  have settles : Settles (lex text).dropLast _ (topStatement depth (.ofText text)) :=
    Settled.settles (stands_ofText text)
  rw [run] at settles
  cases f with
  | grammar x => exact ⟨x, rfl⟩
  | shape e =>
    obtain ⟨t, member, absent, _⟩ := settles.2
    have error := isError_of_not_isSource member absent
    rw [h.clean t (List.dropLast_subset _ member)] at error
    cases error
  | mismatch => exact settles.2.elim
  | unsupported what => exact (h.inside settles.2).elim

/-- A text that is refused before its end lacks the `END`. -/
theorem missing_end (h : BlockText text first rest) {front : List Token} {last : Option Token}
    (split : splitTerminator (lex text).dropLast = (front, last)) {depth : Nat} {f : Failure}
    {d : Cursor} (run : topStatement depth (.ofText text) = .error f d) :
    f.Starts "missing END" ∧
      ∀ middle endToken, front = first :: (middle ++ [endToken]) →
        endToken.isKeyword .END = false := by
  obtain ⟨x, rfl⟩ := h.eq_grammar run
  rw [h.topStatement_eq] at run
  rcases bind_error run with refused | ⟨b, e, _, impossible⟩
  · have ending := Grammar.recovering_ends (Grammar.block (statement depth)) Grammar.recoveredBlock
      (.ofText text)
    unfold Grammar.blockRecovering at refused
    rw [refused] at ending
    cases ending with
    | refused _ other => exact absurd rfl (other x)
    | lost fault _ _ _ =>
      rw [← (Cursor.ofText_eq text).1] at split
      obtain ⟨e, recovers⟩ := Grammar.recovering_of_fault Grammar.recoveredBlock fault split
      rw [refused] at recovers
      unfold recording at recovers
      cases made : Grammar.recoveredBlock front last e with
      | ok b _ =>
        rw [made] at recovers
        cases recovers
      | error failure _ =>
        rw [made] at recovers
        obtain ⟨rfl, _⟩ := EStateM.Result.error.inj recovers
        obtain ⟨rfl, absent⟩ := Grammar.recoveredBlock_fault made
        refine ⟨e.diagnose_starts (.missing "END"), fun middle endToken parts => ?_⟩
        have words := absent first middle endToken parts
        simpa [h.begins] using words
  · cases impossible

/-- A text that a block was read from to the end is that block; if tokens are left it is refused. -/
theorem parseStatement_of_ok (h : BlockText text first rest) {s : Statement} {d : Cursor}
    (run : topStatement defaultDepth (.ofText text) = .ok s d) :
    (∃ b, parseStatement text = .ok (.block b) ∧ Grammar.Delimited b ∧
      List.Forall₂ Token.ReadAs (lex text).dropLast b.tree.tokens) ∨
    ∃ f, parseStatement text = .error f ∧ f.Starts "expected end of input" := by
  obtain ⟨ahead, ready⟩ := Cursor.ofText_eq text
  obtain ⟨⟨raw, moved, read⟩, source, ready'⟩ := Yields.reads ready run
  cases more : d.current.isEof with
  | false =>
    obtain ⟨f, refused, starts⟩ := result_toEnd_of_more run ready' more
    refine .inr ⟨f.withSource text, ?_, starts.withSource text⟩
    rw [parseStatement, parseAll_eq, refused]
    rfl
  | true =>
    have accepted := result_toEnd_of_ok run (expectEnd_of_isEof more)
    rw [h.topStatement_eq] at run
    obtain ⟨b, e, block, made⟩ := bind_ok run
    cases made
    refine .inl ⟨b, ?_, Grammar.blockRecovering_delimited block, ?_⟩
    · rw [parseStatement, parseAll_eq, accepted]
      rfl
    · have others : ∀ t ∈ d.ahead, t.isEof = false := by
        intro t member
        obtain ⟨init, last, tokens, _, others, _⟩ := (lex_tiling text).ends
        rw [tokens, List.dropLast_concat, moved.ahead] at ahead
        exact others t (ahead ▸ List.mem_append_right raw member)
      have all := Cursor.ahead_of_isEof ready' others more
      rw [moved.ahead, all, List.append_nil] at ahead
      rw [← ahead]
      simpa [Statement.tree] using read

end BlockText

/-- A text from a `BEGIN` to an `END` is the block of all its tokens, whatever stands in between,
unless the grammar ends the block earlier. A text without the `END` is refused. -/
theorem parseStatement_recovers_block {text : String} {first : Token} {rest front : List Token}
    {last : Option Token} (h : BlockText text first rest)
    (split : splitTerminator (lex text).dropLast = (front, last)) :
    (∀ middle endToken, front = first :: (middle ++ [endToken]) → endToken.isKeyword .END = true →
      (∃ b, parseStatement text = .ok (.block b) ∧ b.beginToken = first ∧ b.endToken = endToken ∧
        b.terminator = last.getD .placeholder ∧
        List.Forall₂ Token.ReadAs middle (Statement.listTree b.body).tokens) ∨
      ∃ f, parseStatement text = .error f ∧ f.Starts "expected end of input") ∧
    ((∀ t ∈ front.getLast?, t.isKeyword .END = false) →
      ∃ f, parseStatement text = .error f ∧
        (f.Starts "missing END" ∨ f.Starts "expected end of input")) := by
  cases run : topStatement defaultDepth (.ofText text) with
  | error f d =>
    have refused : parseStatement text = .error (f.withSource text) := by
      rw [parseStatement, parseAll_eq, result_toEnd_of_error run]
      rfl
    obtain ⟨starts, absent⟩ := h.missing_end split run
    refine ⟨fun middle endToken parts isEnd => ?_, fun _ => ?_⟩
    · rw [absent middle endToken parts] at isEnd
      cases isEnd
    · exact ⟨_, refused, .inl (starts.withSource text)⟩
  | ok s d =>
    rcases h.parseStatement_of_ok run with ⟨b, accepted, delimited, read⟩ | ⟨f, failed, starts⟩
    · obtain ⟨inner, terminator, parts, terminated, between⟩ := delimited.split read
      rw [split] at parts
      obtain ⟨rfl, rfl⟩ := Prod.mk.inj parts
      refine ⟨fun middle endToken parts _ => .inl ⟨b, accepted, ?_⟩, fun absent => ?_⟩
      · obtain ⟨same, rest⟩ := List.cons.inj parts
        obtain ⟨rfl, final⟩ := List.append_inj' rest rfl
        exact ⟨same, List.singleton_inj.mp final, terminated, between⟩
      · have isEnd : b.endToken.isKeyword .END = false := by
          refine absent b.endToken ?_
          rw [← List.cons_append, List.getLast?_concat]
          rfl
        rw [delimited.ends] at isEnd
        cases isEnd
    · exact ⟨fun _ _ _ _ => .inr ⟨f, failed, starts⟩, fun _ => ⟨f, failed, .inr starts⟩⟩

/-- A body that is an unclosed parenthesis is kept, and without the `END` the text is refused. -/
theorem parseStatement_recovers_block_unclosed :
    (∃ first middle endToken last b, (lex "BEGIN SELECT ( END;").dropLast =
        first :: (middle ++ [endToken]) ++ [last] ∧
      parseStatement "BEGIN SELECT ( END;" = .ok (.block b) ∧ b.beginToken = first ∧
      b.endToken = endToken ∧ b.terminator = last ∧
      List.Forall₂ Token.ReadAs middle (Statement.listTree b.body).tokens) ∧
    ∃ f, parseStatement "BEGIN SELECT (" = .error f ∧
      (f.Starts "missing END" ∨ f.Starts "expected end of input") := by
  have inside : ∀ {ts : List Token}, (∀ t ∈ ts, t.isKeyword .EXTERNAL = false) →
      ¬NamesExternal ts := by
    rintro ts none ⟨a, b, adjacent, external, _⟩
    rw [none a (adjacent.subset (by simp))] at external
    cases external
  constructor
  · have layout : (lex "BEGIN SELECT ( END;").dropLast.map (·.kind) = [.word (.keyword .BEGIN),
        .word (.keyword .SELECT), .leftParen, .word (.keyword .END), .semicolon] := by decide +kernel
    simp only [List.map_eq_cons_iff, List.map_eq_nil_iff] at layout
    obtain ⟨first, _, tokens, isBegin, select, _, rfl, isSelect, lparen, _, rfl, _, endToken, _, rfl,
      isEnd, last, _, rfl, semicolon, rfl⟩ := layout
    have text : BlockText "BEGIN SELECT ( END;" first [select, lparen, endToken, last] :=
      ⟨tokens, Token.isKeyword_iff.mpr isBegin, by simp [Token.isAnyKeyword,
        Token.keyword?_eq_some_iff.mpr isSelect], by decide +kernel, inside (by decide +kernel)⟩
    have split : splitTerminator (lex "BEGIN SELECT ( END;").dropLast =
        ([first, select, lparen, endToken], some last) := by
      simp [tokens, splitTerminator, semicolon]
    rcases (parseStatement_recovers_block text split).1 [select, lparen] endToken rfl
      (Token.isKeyword_iff.mpr isEnd) with ⟨b, kept⟩ | ⟨f, refused, _⟩
    · exact ⟨first, [select, lparen], endToken, last, b, tokens, kept⟩
    · have accepted : failure? (parseStatement "BEGIN SELECT ( END;") = none := by decide +kernel
      rw [refused] at accepted
      cases accepted
  · have layout : (lex "BEGIN SELECT (").dropLast.map (·.kind) =
        [.word (.keyword .BEGIN), .word (.keyword .SELECT), .leftParen] := by decide +kernel
    simp only [List.map_eq_cons_iff, List.map_eq_nil_iff] at layout
    obtain ⟨first, _, tokens, isBegin, select, _, rfl, isSelect, lparen, _, rfl, isParen, rfl⟩ := layout
    have text : BlockText "BEGIN SELECT (" first [select, lparen] :=
      ⟨tokens, Token.isKeyword_iff.mpr isBegin, by simp [Token.isAnyKeyword,
        Token.keyword?_eq_some_iff.mpr isSelect], by decide +kernel, inside (by decide +kernel)⟩
    have split : splitTerminator (lex "BEGIN SELECT (").dropLast =
        ([first, select, lparen], none) := by
      simp [tokens, splitTerminator, isParen]
    refine (parseStatement_recovers_block text split).2 fun t isLast => ?_
    cases isLast
    simp [Token.isKeyword, Token.keyword?, isParen, TokenKind.keyword?]

end TransactSql
