import TransactSql.Parse
import TransactSql.Proofs.Grammar.RoutineYield

/-!
# Statements keep their tokens
-/

namespace TransactSql

namespace Grammar

open TransactSql.Parser

variable (expr : Precedence → Parser Expr) [∀ min, Yields (expr min) fun e => [e.tree]]

instance : Yields (expressionStatement expr) fun s => [s.tree] where
  reads ready h := by
    unfold expressionStatement at h
    obtain ⟨e, _, r, h⟩ := (Cursor.Reads.start ready).bind h
    obtain ⟨terminator, _, r, h⟩ := r.bind h
    obtain ⟨rfl, rfl⟩ := build_ok h
    exact r.of_tokens (by simp [Statement.tree])

instance : Yields (optionalValue expr) Expr.optionalSlot where
  reads ready h := by
    unfold optionalValue at h
    simp only [current_bind] at h
    split at h
    · obtain ⟨e, _, r, h⟩ := (Cursor.Reads.start ready).bind h
      cases h
      exact r
    · cases h
      exact .start ready

instance (first second : Keyword) : Yields (keywordPair first second) Tree.tokenPair where
  reads ready h := by
    unfold keywordPair at h
    obtain ⟨x, _, r, h⟩ := (Cursor.Reads.start ready).bind h
    obtain ⟨y, _, r, h⟩ := r.bind h
    cases h
    exact r

instance (statement : Parser Statement) [Yields statement fun s => [s.tree]] :
    Yields (elseBranch statement) ElseBranch.slots where
  reads ready h := by
    unfold elseBranch at h
    obtain ⟨keyword, _, r, h⟩ := (Cursor.Reads.start ready).bind h
    cases keyword with
    | none =>
      cases h
      exact r
    | some keyword =>
      obtain ⟨s, _, r, h⟩ := r.bind h
      cases h
      exact r

section

variable {c d : Cursor} {s : Statement} (ready : c.Ready) (source : c.current.isSource = true)

include ready source

theorem unmodeled_reads (h : unmodeled c = .ok s d) : c.Reads [s.tree] d := by
  unfold unmodeled at h
  obtain ⟨r, h⟩ := (Cursor.Reads.start ready).take source h
  have first : c.Reads (Tree.tokenSlots [c.current]) c.advance := r
  exact unmodeledFrom_reads first h

theorem beginTransaction_reads (next : c.lookahead.isSource = true)
    (h : beginTransaction c = .ok s d) : c.Reads [s.tree] d := by
  unfold beginTransaction at h
  obtain ⟨beginToken, transaction, _, r, h⟩ := takePair_reads (.start ready) source next h
  have named : Yields (eat fun t => t.isWord && !t.isReserved) Tree.optionalToken :=
    yields_eat fun accepted => Token.isSource_of_isWord (Bool.and_eq_true _ _ ▸ accepted).1
  obtain ⟨name, _, r, h⟩ := r.bind h
  obtain ⟨terminator, _, r, h⟩ := r.bind h
  obtain ⟨rfl, rfl⟩ := build_ok h
  exact r.of_tokens (by simp [Statement.tree])

theorem whileLoop_reads {statement : Parser Statement} [Yields statement fun s => [s.tree]]
    (h : whileLoop expr statement c = .ok s d) : c.Reads [s.tree] d := by
  unfold whileLoop at h
  obtain ⟨r, h⟩ := (Cursor.Reads.start ready).take source h
  obtain ⟨condition, _, r, h⟩ := r.bind h
  obtain ⟨body, _, r, h⟩ := r.bind h
  obtain ⟨rfl, rfl⟩ := build_ok h
  exact r.of_tokens (by simp [Statement.tree])

theorem ifElse_reads {statement : Parser Statement} [Yields statement fun s => [s.tree]]
    (h : ifElse expr statement c = .ok s d) : c.Reads [s.tree] d := by
  unfold ifElse at h
  obtain ⟨r, h⟩ := (Cursor.Reads.start ready).take source h
  obtain ⟨condition, _, r, h⟩ := r.bind h
  obtain ⟨thenBranch, _, r, h⟩ := r.bind h
  obtain ⟨otherwise, _, r, h⟩ := r.bind h
  obtain ⟨rfl, rfl⟩ := build_ok h
  exact r.of_tokens (by simp [Statement.tree])

theorem tryCatch_reads {statement : Parser Statement} [Yields statement fun s => [s.tree]]
    (next : c.lookahead.isSource = true) (h : tryCatch statement c = .ok s d) :
    c.Reads [s.tree] d := by
  unfold tryCatch at h
  obtain ⟨beginToken, tryToken, _, r, h⟩ := takePair_reads (.start ready) source next h
  obtain ⟨tryBody, _, r, h⟩ := r.bind h
  obtain ⟨endTry, _, r, h⟩ := r.bind h
  obtain ⟨beginCatch, _, r, h⟩ := r.bind h
  obtain ⟨catchBody, _, r, h⟩ := r.bind h
  obtain ⟨endCatch, _, r, h⟩ := r.bind h
  obtain ⟨terminator, _, r, h⟩ := r.bind h
  obtain ⟨rfl, rfl⟩ := build_ok h
  exact r.of_tokens (by simp [Statement.tree])

theorem loopControl_reads (h : loopControl c = .ok s d) : c.Reads [s.tree] d := by
  unfold loopControl at h
  obtain ⟨r, h⟩ := (Cursor.Reads.start ready).take source h
  obtain ⟨terminator, _, r, h⟩ := r.bind h
  obtain ⟨rfl, rfl⟩ := build_ok h
  exact r.of_tokens (by simp [Statement.tree])

theorem returnValue_reads (h : returnValue expr c = .ok s d) : c.Reads [s.tree] d := by
  unfold returnValue at h
  obtain ⟨r, h⟩ := (Cursor.Reads.start ready).take source h
  obtain ⟨value, _, r, h⟩ := r.bind h
  obtain ⟨terminator, _, r, h⟩ := r.bind h
  obtain ⟨rfl, rfl⟩ := build_ok h
  exact r.of_tokens (by simp [Statement.tree])

theorem goto_reads (h : goto c = .ok s d) : c.Reads [s.tree] d := by
  unfold goto at h
  obtain ⟨r, h⟩ := (Cursor.Reads.start ready).take source h
  obtain ⟨label, _, r, h⟩ := r.bind h
  obtain ⟨terminator, _, r, h⟩ := r.bind h
  obtain ⟨rfl, rfl⟩ := build_ok h
  exact r.of_tokens (by simp [Statement.tree])

theorem label_reads (next : c.lookahead.isSource = true) (h : label c = .ok s d) :
    c.Reads [s.tree] d := by
  unfold label at h
  obtain ⟨label, colon, _, r, h⟩ := takePair_reads (.start ready) source next h
  obtain ⟨rfl, rfl⟩ := build_ok h
  exact r.of_tokens (by simp [Statement.tree])

end

/-! ### Set -/

theorem setVariable_reads {b c d : Cursor} {setToken : Token} {s : Statement}
    (r : b.Reads [.token setToken] c) (source : c.current.isSource = true)
    (h : setVariable expr setToken c = .ok s d) : b.Reads [s.tree] d := by
  unfold setVariable at h
  simp only [lookahead_bind] at h
  split at h
  · exact absurd h fail_ok
  · next assigns =>
    have next : c.lookahead.isSource = true := by
      unfold Token.isSource
      cases hk : c.lookahead.kind <;> simp_all [TokenKind.isSource, TokenKind.isAssignment]
    have sign := Cursor.isSource_current_advance r.ready source next
    obtain ⟨r, h⟩ := r.take source h
    obtain ⟨⟨operator, value⟩, _, run, h⟩ := bind_ok h
    obtain ⟨_, inside, run, leave⟩ := reads_withAssignment r run
    rw [← Cursor.isSource_current_setAssignment r.ready true] at sign
    obtain ⟨inside, run⟩ := inside.take sign run
    obtain ⟨_, _, inside, run⟩ := inside.bind run
    cases run
    obtain ⟨terminator, _, r, h⟩ := (leave inside).bind h
    obtain ⟨rfl, rfl⟩ := build_ok h
    exact r.of_tokens (by simp [Statement.tree])

theorem setOption_reads {b c d : Cursor} {setToken : Token} {s : Statement}
    (r : b.Reads [.token setToken] c) (h : setOption setToken c = .ok s d) : b.Reads [s.tree] d := by
  unfold setOption statementTail at h
  obtain ⟨⟨items, separators⟩, _, r, h⟩ := r.bind h
  have h := build_bind_ok h
  obtain ⟨value, _, run, h⟩ := bind_ok h
  obtain ⟨source, h⟩ := Checked.rawTokens_bind_ok h
  obtain ⟨terminator, _, r, h⟩ := (r.takeRun run source).bind h
  obtain ⟨rfl, rfl⟩ := build_ok h
  exact r.of_tokens (by simp [Statement.tree])

theorem set_reads {c d : Cursor} {s : Statement} (ready : c.Ready)
    (source : c.current.isSource = true) (h : set expr c = .ok s d) : c.Reads [s.tree] d := by
  unfold set at h
  obtain ⟨r, h⟩ := (Cursor.Reads.start ready).take source h
  simp only [current_bind] at h
  split at h
  · next named => exact setVariable_reads expr r (Token.isSource_of_isVariable named) h
  · exact setOption_reads r h

/-! ### All statements -/

section

variable (statement : Parser Statement) [Yields statement fun s => [s.tree]]

theorem beginStatement_reads {c d : Cursor} {s : Statement} (ready : c.Ready)
    (source : c.current.isSource = true) (h : beginStatement statement c = .ok s d) :
    c.Reads [s.tree] d := by
  unfold beginStatement at h
  simp only [lookahead_bind] at h
  generalize next : c.lookahead.keyword? = k at h
  split at h
  case h_1 | h_2 => exact beginTransaction_reads ready source (Token.isSource_of_keyword? next) h
  case h_3 => exact tryCatch_reads ready source (Token.isSource_of_keyword? next) h
  case h_4 | h_5 | h_6 => exact unmodeled_reads ready source h
  case h_7 =>
    obtain ⟨b, _, r, h⟩ := (Cursor.Reads.start ready).bind h
    cases h
    exact r.of_tokens (by simp [Statement.tree])

variable [∀ min, Framed (expr min)] [Framed statement]

theorem wordStatement_reads {c d : Cursor} {s : Statement} (ready : c.Ready)
    (source : c.current.isSource = true) (h : wordStatement expr statement c.current c = .ok s d) :
    c.Reads [s.tree] d := by
  unfold wordStatement at h
  simp only [lookahead_bind] at h
  generalize c.current.keyword? = k at h
  split at h
  case h_1 => exact beginStatement_reads statement ready source h
  case h_2 => exact ifElse_reads expr ready source h
  case h_3 => exact whileLoop_reads expr ready source h
  case h_4 | h_5 => exact loopControl_reads ready source h
  case h_6 => exact returnValue_reads expr ready source h
  case h_7 => exact goto_reads ready source h
  case h_8 => exact set_reads expr ready source h
  case h_9 =>
    have r := (Cursor.Reads.start ready).next h
    exact r
  case h_10 | h_11 => exact create_reads expr statement ready source h
  case h_12 =>
    have r := (Cursor.Reads.start ready).next h
    exact r
  case h_13 =>
    split at h
    · exact unmodeled_reads ready source h
    · exact absurd h fail_ok
  case h_14 => exact absurd h fail_ok
  case h_15 =>
    split at h
    · next labels =>
      rw [Bool.and_eq_true] at labels
      exact label_reads ready source (Token.isSource_of_kind rfl labels.2) h
    · split at h
      · exact unmodeled_reads ready source h
      · exact absurd h failExpected_ok

instance : Yields (anyStatement expr statement) fun s => [s.tree] where
  reads {c d s} ready h := by
    unfold anyStatement at h
    simp only [current_bind] at h
    generalize found : c.current.kind = k at h
    split at h
    case h_1 =>
      obtain ⟨r, h⟩ := (Cursor.Reads.start ready).take (Token.isSource_of_kind_eq rfl found) h
      obtain ⟨rfl, rfl⟩ := build_ok h
      exact r.of_tokens (by simp [Statement.tree])
    case h_2 =>
      have r := (Cursor.Reads.start ready).next h
      exact r
    case h_3 => exact wordStatement_reads expr statement ready (Token.isSource_of_kind_eq rfl found) h
    case h_4 => exact absurd h failAtError_ok
    case h_5 => exact absurd h failExpected_ok

end

end Grammar

namespace Parser

/-- Statements of any depth keep the tokens they read. -/
instance statement_yields (depth : Nat) : Yields (statement depth) fun s => [s.tree] := by
  induction depth with
  | zero =>
    refine ⟨fun _ h => ?_⟩
    unfold statement at h
    exact absurd h fail_ok
  | succ depth ih =>
    unfold statement
    infer_instance

instance (depth : Nat) : Yields (statements depth) fun ss => ss.map Statement.tree :=
  inferInstanceAs (Yields (Grammar.statements _) _)

instance (depth : Nat) : Yields (topStatement depth) fun s => [s.tree] where
  reads ready h := by
    unfold topStatement Grammar.atBlock at h
    simp only [bind_assoc, current_bind, lookahead_bind, pure_bind'] at h
    split at h
    · obtain ⟨b, _, r, h⟩ := (Cursor.Reads.start ready).bind h
      cases h
      exact r.of_tokens (by simp [Statement.tree])
    · have r := (Cursor.Reads.start ready).next h
      exact r

end Parser

end TransactSql
