import TransactSql.Proofs.Failures
import TransactSql.Proofs.Grammar.Locality
import TransactSql.Proofs.Parens.Expressions

/-!
# Parentheses are read to the end

Behind a `(` whose matching `)` follows, what stands in between is read up to that `)` and no
further, whatever it is: where it is no expression its tokens are kept. It is refused only at a `)`
or `,` where an operand is missing.
-/

namespace TransactSql

open TransactSql.Parser TransactSql.Grammar

/-- A token that is met before the matching `)`, or is that `)`. -/
theorem Cursor.Meets.mem {c : Cursor} {body rest : List Token} {rparen t : Token} (meets : c.Meets t)
    (ahead : c.ahead = body ++ rparen :: rest) (isClosing : rparen.kind = .rightParen)
    (balanced : parenDepth? 0 body = some 0) : t ∈ body ∨ t = rparen := by
  obtain ⟨before, after, ahead', upright⟩ := meets
  have same : before ++ t :: after = body ++ rparen :: rest := ahead'.symm.trans ahead
  have shorter := upright.length_le balanced isClosing same
  have front : before ++ [t] <+: body ++ [rparen] := by
    have met : before ++ [t] <+: c.ahead := ⟨after, by simp [ahead']⟩
    have whole : body ++ [rparen] <+: c.ahead := ⟨rest, by simp [ahead]⟩
    refine List.prefix_of_prefix_length_le met whole ?_
    simp only [List.length_append, List.length_singleton]
    omega
  have member : t ∈ body ++ [rparen] := front.subset (by simp)
  simpa using member

/-- Where a run that closes only what it opened stands before the matching `)`. -/
theorem Cursor.Opens.before {c d : Cursor} {body rest : List Token} {rparen : Token} {k : Nat}
    (opens : c.Opens k d) (ahead : c.ahead = body ++ rparen :: rest)
    (isClosing : rparen.kind = .rightParen) (balanced : parenDepth? 0 body = some 0) :
    ∃ before t after, body ++ [rparen] = before ++ t :: after ∧ d.ahead = t :: (after ++ rest) := by
  obtain ⟨raw, ahead', depth⟩ := opens
  have same : raw ++ d.ahead = body ++ rparen :: rest := ahead'.symm.trans ahead
  have shorter := Upright.length_le ⟨k, depth⟩ balanced isClosing same
  obtain ⟨more, rfl⟩ : raw <+: body := by
    have whole : body <+: raw ++ d.ahead := ⟨rparen :: rest, same.symm⟩
    exact List.prefix_of_prefix_length_le (List.prefix_append raw d.ahead) whole shorter
  have behind : d.ahead = more ++ rparen :: rest := by
    rw [List.append_assoc] at same
    exact List.append_cancel_left same
  cases more with
  | nil => exact ⟨raw, rparen, [], by simp, by simpa using behind⟩
  | cons t more => exact ⟨raw, t, more ++ [rparen], by simp, by simpa using behind⟩

/-- From behind a `(`, with the matching `)` ahead and no error before it, the contents are read and
the cursor stands right behind that `)`; or they are refused at a `)` or `,` that is not behind it.
This holds of every cursor on tokens of a text, in either context and however deep it is. -/
theorem parenBody_reads_to_match {text : String} {c : Cursor} {body rest : List Token}
    {rparen : Token} (depth : Nat) (ready : c.Ready) (lexed : c.ahead <:+ (lex text).dropLast)
    (ahead : c.ahead = body ++ rparen :: rest) (isClosing : rparen.kind = .rightParen)
    (balanced : Balanced body) (clean : ∀ t ∈ body, t.isError = false) :
    (∃ inner d, parenBody (Parser.expr depth) c = .ok (inner, rparen) d ∧ d.fault = none ∧
      d.ahead = rest) ∨
    (∃ x d before t after, parenBody (Parser.expr depth) c = .error (.grammar x) d ∧
      body ++ [rparen] = before ++ t :: after ∧ (t.kind = .rightParen ∨ t.kind = .comma) ∧
      x.span = t.span ∧ d.ahead = t :: (after ++ rest)) := by
  have level := balanced_iff.mp balanced
  have closed := ClosesParen.closed (p := parenBody (Parser.expr depth)) ready
  have settles : Settles _ _ (parenBody (Parser.expr depth) c) := Settled.settles ready.stands
  have others : ∀ t ∈ c.ahead, t.isEof = false := by
    intro t member
    obtain ⟨init, last, tokens, _, others, _⟩ := (lex_tiling text).ends
    rw [tokens, List.dropLast_concat] at lexed
    exact others t (lexed.subset member)
  cases run : parenBody (Parser.expr depth) c with
  | ok value d =>
    rw [run] at closed
    obtain ⟨ready', isClosing', inner, ahead', level'⟩ := closed
    -- Both cuts of the tokens end at the first `)` that closes nothing.
    obtain ⟨_, same, behind⟩ :=
      eq_of_balanced level isClosing level' isClosing' (ahead'.symm.trans ahead)
    exact .inl ⟨value.1, d, by rw [← same], ready'.fault, behind⟩
  | error f d =>
    rw [run] at closed settles
    cases f with
    | grammar x =>
      obtain ⟨⟨_, span, k, opens⟩, cut⟩ := closed
      obtain ⟨before, t, after, parts, behind⟩ := opens.before ahead isClosing level
      have current : d.rawCurrent = t := by
        rw [Cursor.rawCurrent, behind]
        rfl
      have member : t ∈ c.ahead := by
        obtain ⟨raw, all, _⟩ := opens
        simp [all, behind]
      have short := cut x rfl
      rw [current, isCutShort, others t member] at short
      refine .inr ⟨x, d, before, t, after, rfl, parts, by simpa using short, ?_, behind⟩
      rw [span, current]
    | shape e =>
      -- A node is refused only for a token that is an error, and there is none up to the `)`.
      obtain ⟨bad, _, _, rfl⟩ := settles.2
      obtain ⟨t, meets, absent⟩ := closed.1 rfl
      rcases meets.mem ahead isClosing level with inside | same
      · have error : t.isError = true := by
          refine isError_of_not_isSource (lexed.subset ?_) absent
          rw [ahead]
          exact List.mem_append_left _ inside
        rw [clean t inside] at error
        cases error
      · rw [same, Token.isSource_of_kind_eq rfl isClosing] at absent
        cases absent
    | mismatch => exact settles.2.elim
    | unsupported what => exact absurd run Local.supported

/-- Contents that are no expression, with parentheses inside, and contents that lack an operand. -/
theorem parenBody_reads_to_match_raw :
    (∃ rparen inner d, (lex "f(a b (c d), e) x").dropLast.drop 10 =
        rparen :: (lex "f(a b (c d), e) x").dropLast.drop 11 ∧
      parenBody (Parser.expr 8)
        { ahead := (lex "f(a b (c d), e) x").dropLast.drop 2, eof := .eof .zero } =
          .ok (inner, rparen) d ∧
      d.ahead = (lex "f(a b (c d), e) x").dropLast.drop 11) ∧
    ∃ x d, parenBody (Parser.expr 8)
        { ahead := (lex "(a + , b)").dropLast.drop 1, eof := .eof .zero } = .error (.grammar x) d ∧
      d.ahead.head?.any (fun t => t.kind == .rightParen || t.kind == .comma) = true := by
  have closing : ∀ (ts : List Token) (n : Nat),
      (ts.drop n).head?.any (·.kind == .rightParen) = true →
        ∃ rparen, ts.drop n = rparen :: ts.drop (n + 1) ∧ rparen.kind = .rightParen := by
    intro ts n found
    rw [← List.drop_drop]
    generalize ts.drop n = us at found ⊢
    cases us with
    | nil => cases found
    | cons t rest => exact ⟨t, rfl, eq_of_beq found⟩
  constructor
  · obtain ⟨rparen, isLast, isClosing⟩ :=
      closing (lex "f(a b (c d), e) x").dropLast 10 (by decide +kernel)
    have parts : (lex "f(a b (c d), e) x").dropLast.drop 2 =
        ((lex "f(a b (c d), e) x").dropLast.drop 2).take 8 ++
          rparen :: (lex "f(a b (c d), e) x").dropLast.drop 11 := by
      rw [← isLast, ← List.drop_drop (j := 2) (i := 8)]
      exact (List.take_append_drop 8 _).symm
    have inside : (lex "f(a b (c d), e) x").dropLast.drop 2 <:+
        (lex "f(a b (c d), e) x").dropLast := List.drop_suffix 2 _
    rcases parenBody_reads_to_match 8
      (c := { ahead := (lex "f(a b (c d), e) x").dropLast.drop 2, eof := .eof .zero }) ⟨rfl, rfl⟩
      inside parts isClosing
      (balanced_iff.mpr (by decide +kernel)) (by decide +kernel) with
      ⟨inner, d, run, _, behind⟩ | ⟨x, d, _, _, _, run, _⟩
    · exact ⟨rparen, inner, d, isLast, run, behind⟩
    · have accepted : (match parenBody (Parser.expr 8)
          { ahead := (lex "f(a b (c d), e) x").dropLast.drop 2, eof := .eof .zero } with
        | .ok _ _ => true
        | .error _ _ => false) = true := by decide +kernel
      rw [run] at accepted
      cases accepted
  · obtain ⟨rparen, isLast, isClosing⟩ :=
      closing (lex "(a + , b)").dropLast 5 (by decide +kernel)
    have parts : (lex "(a + , b)").dropLast.drop 1 =
        ((lex "(a + , b)").dropLast.drop 1).take 4 ++
          rparen :: (lex "(a + , b)").dropLast.drop 6 := by
      rw [← isLast, ← List.drop_drop (j := 1) (i := 4)]
      exact (List.take_append_drop 4 _).symm
    have inside : (lex "(a + , b)").dropLast.drop 1 <:+ (lex "(a + , b)").dropLast :=
      List.drop_suffix 1 _
    rcases parenBody_reads_to_match 8
      (c := { ahead := (lex "(a + , b)").dropLast.drop 1, eof := .eof .zero }) ⟨rfl, rfl⟩
      inside parts isClosing
      (balanced_iff.mpr (by decide +kernel)) (by decide +kernel) with
      ⟨inner, d, run, _⟩ | ⟨x, d, _, t, _, run, _, kinds, _, behind⟩
    · have refused : (match parenBody (Parser.expr 8)
          { ahead := (lex "(a + , b)").dropLast.drop 1, eof := .eof .zero } with
        | .ok _ _ => true
        | .error _ _ => false) = false := by decide +kernel
      rw [run] at refused
      cases refused
    · exact ⟨x, d, run, by simpa [behind] using kinds⟩

end TransactSql
