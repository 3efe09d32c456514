import TransactSql.Proofs.Expr.Checked
import TransactSql.Proofs.Grammar.Frame
import TransactSql.Proofs.Parser.Yield

/-!
# Operators take tokens

Every operator that is applied takes the token it stands at, so the loop over operators stops
because no operator applies, not because it runs out of rounds.
-/

namespace TransactSql

open TransactSql.Parser

namespace Cursor

/-- Fewer tokens are left. -/
def Shortens (c d : Cursor) : Prop := d.ahead.length < c.ahead.length

theorem Moved.length_le {c d : Cursor} {raw : List Token} (moved : c.Moved raw d) :
    d.ahead.length ≤ c.ahead.length := by
  rw [moved.ahead, List.length_append]
  omega

theorem Reads.shortens {c d : Cursor} {slots : List Tree} (r : c.Reads slots d)
    (some : Tree.tokensOf slots ≠ []) : c.Shortens d := by
  obtain ⟨raw, moved, read⟩ := r.moved
  have taken : raw.length ≠ 0 := by
    rw [read.length_eq]
    exact fun none => some (List.length_eq_zero_iff.mp none)
  rw [Shortens, moved.ahead, List.length_append]
  omega

variable {c d e : Cursor}

theorem Shortens.then {p : Parser α} [Framed p] {a : α} (taken : c.Shortens d) (h : p d = .ok a e) :
    c.Shortens e := by
  obtain ⟨raw, moved⟩ := Framed.ok h
  exact Nat.lt_of_le_of_lt moved.length_le taken

theorem shortens_advance (ready : c.Ready) (source : c.current.isSource = true) :
    c.Shortens c.advance :=
  (reads_advance ready source).shortens (by simp [Tree.tokens_token source])

/-- A token that binds stands for text, and there is no fault where one is current. -/
theorem ready_of_precedence {min : Precedence} (eof : c.eof.isEof = true)
    (binds : min < c.current.precedence) : c.Ready ∧ c.current.isSource = true := by
  have power : c.current.precedence ≠ .none := by
    intro none
    rw [none] at binds
    exact absurd binds (Nat.not_lt_zero _)
  refine ⟨⟨?_, eof⟩, ?_⟩
  · cases fault : c.fault with
    | none => rfl
    | some x =>
      rw [current, fault] at power
      exact absurd rfl power
  · unfold Token.isSource
    unfold Token.precedence at power
    cases kind : c.current.kind <;> simp_all [TokenKind.isSource, TokenKind.precedence]

end Cursor

namespace Parser

/-- A loop whose rounds take tokens ends with a round that stops it. -/
theorem rounds_exit {step : σ → Parser (Option σ)} (Inv Done : σ → Cursor → Prop)
    (go : ∀ {s c t d}, Inv s c → step s c = .ok (some t) d → Inv t d ∧ c.Shortens d)
    (stop : ∀ {s c d}, Inv s c → step s c = .ok none d → Done s d) {limit : Nat} {s t : σ}
    {c d : Cursor} (inv : Inv s c) (enough : c.ahead.length < limit)
    (h : rounds step limit s c = .ok t d) : Done t d := by
  induction limit generalizing s c with
  | zero => exact absurd enough (Nat.not_lt_zero _)
  | succ limit ih =>
    unfold rounds at h
    obtain ⟨next, e, round, h⟩ := bind_ok h
    cases next with
    | none =>
      obtain ⟨rfl, rfl⟩ := pure_ok h
      exact stop inv round
    | some u =>
      obtain ⟨inv', taken⟩ := go inv round
      have fewer : e.ahead.length < c.ahead.length := taken
      exact ih inv' (by omega) h

theorem loop_exit {step : σ → Parser (Option σ)} (Inv Done : σ → Cursor → Prop)
    (go : ∀ {s c t d}, Inv s c → step s c = .ok (some t) d → Inv t d ∧ c.Shortens d)
    (stop : ∀ {s c d}, Inv s c → step s c = .ok none d → Done s d) {s t : σ} {c d : Cursor}
    (inv : Inv s c) (h : loop step s c = .ok t d) : Done t d :=
  rounds_exit Inv Done go stop inv (Nat.lt_succ_self _) h

theorem take_shortens {k : Token → Parser β} [∀ t, Framed (k t)] {c d : Cursor} {b : β}
    (ready : c.Ready) (source : c.current.isSource = true) (h : (take >>= k) c = .ok b d) :
    c.Shortens d := by
  rw [take_bind] at h
  exact (Cursor.shortens_advance ready source).then h

end Parser

namespace Grammar

variable (sub : Precedence → Parser Expr) [∀ min, Framed (sub min)]

section

variable {c d : Cursor} {e : Expr} (ready : c.Ready)

include ready

theorem pattern_shortens {left : Expr} {not : Option Token} (h : pattern sub left not c = .ok e d) :
    c.Shortens d := by
  unfold pattern at h
  simp only [current_bind] at h
  generalize found : c.current.keyword? = k at h
  split at h
  · exact take_shortens ready (Token.isSource_of_keyword? found) h
  · exact take_shortens ready (Token.isSource_of_keyword? found) h
  · obtain ⟨keyword, f, run, h⟩ := bind_ok h
    obtain ⟨_, here, rfl⟩ := require_ok run
    have taken := Cursor.shortens_advance ready (Token.isSource_of_isKeyword here)
    obtain ⟨lparen, f, opened, h⟩ := bind_ok h
    obtain ⟨⟨values, rparen⟩, g, read, h⟩ := bind_ok h
    have closed := (taken.then opened).then read
    cases values with
    | none => exact absurd h fail_ok
    | some values =>
      obtain ⟨rfl, rfl⟩ := build_ok h
      exact closed

variable (source : c.current.isSource = true)

include source

theorem call_shortens {left : Expr} (h : call sub left c = .ok e d) : c.Shortens d := by
  unfold call cast at h
  cases callee : castKeyword? left with
  | some keyword =>
    rw [callee] at h
    exact take_shortens ready source h
  | none =>
    rw [callee] at h
    exact take_shortens ready source h

theorem assignment_shortens {left : Expr} (h : assignment sub left c = .ok e d) : c.Shortens d := by
  unfold assignment at h
  dsimp only at h
  split at h
  · exact absurd h fail_ok
  · exact take_shortens ready source h

theorem orderBy_shortens {left : Expr} (h : orderBy sub left c = .ok e d) : c.Shortens d := by
  unfold orderBy at h
  obtain ⟨f, rfl, run⟩ := withAssignment_ok h
  rw [← Cursor.isSource_current_setAssignment ready false] at source
  have inside := take_shortens (ready.setAssignment false) source run
  exact inside

end

/-- The first comma of a list is taken. -/
theorem list_shortens {c d : Cursor} {left e : Expr} (ready : c.Ready)
    (comma : c.current.kind = .comma) (h : list sub left c = .ok e d) : c.Shortens d := by
  unfold list commaTail loop at h
  obtain ⟨read, f, run, h⟩ := bind_ok h
  obtain ⟨_, rfl⟩ := build_ok h
  rw [get_bind] at run
  unfold rounds at run
  obtain ⟨next, g, round, run⟩ := bind_ok run
  unfold commaItem at round
  obtain ⟨found, g', eaten, round⟩ := bind_ok round
  rcases eat_ok eaten with ⟨rfl, _, rfl⟩ | ⟨_, _, refused⟩
  · obtain ⟨item, g'', itemRun, round⟩ := bind_ok round
    cases round
    have taken := Cursor.shortens_advance ready (Token.isSource_of_kind_eq rfl comma)
    exact (taken.then itemRun).then run
  · have accepted := refused ready.fault
    simp [comma] at accepted

theorem keywordOperator_shortens {c d : Cursor} {left e : Expr} {k : Keyword} {operator : Parser Expr}
    (ready : c.Ready) (source : c.current.isSource = true)
    (found : keywordOperator sub left k c.lookahead = some operator) (h : operator c = .ok e d) :
    c.Shortens d := by
  unfold keywordOperator at found
  split at found
  case h_1 | h_2 | h_3 | h_8 =>
    cases found
    exact take_shortens ready source h
  case h_4 =>
    split at found
    · cases found
      exact take_shortens ready source h
    · cases found
  case h_5 | h_6 | h_7 =>
    cases found
    exact pattern_shortens sub ready h
  case h_9 =>
    split at found
    · cases found
      unfold overClause at h
      obtain ⟨window, f, run, h⟩ := bind_ok h
      obtain ⟨_, rfl⟩ := build_ok h
      exact take_shortens ready source run
    · cases found
  case h_10 | h_11 | h_12 =>
    split at found
    · cases found
      exact take_shortens ready source h
    · cases found
  case h_13 =>
    split at found
    · cases found
      exact orderBy_shortens sub ready source h
    · cases found
  case h_14 | h_15 =>
    split at found
    · cases found
      exact take_shortens ready source h
    · cases found
  case h_16 => cases found

/-- Every operator takes at least the token it stands at. -/
theorem operator?_shortens {c d : Cursor} {left e : Expr} {operator : Parser Expr} (ready : c.Ready)
    (found : operator? sub left c.current c.lookahead = some operator) (h : operator c = .ok e d) :
    c.Shortens d := by
  unfold operator? at found
  generalize here : c.current.kind = k at found
  split at found
  case h_1 =>
    split at found
    · cases found
      exact call_shortens sub ready (Token.isSource_of_kind_eq rfl here) h
    · cases found
  case h_2 =>
    cases found
    exact list_shortens sub ready here h
  case h_3 =>
    cases found
    exact assignment_shortens sub ready (Token.isSource_of_kind_eq rfl here) h
  case h_4 | h_5 =>
    cases found
    exact take_shortens ready (Token.isSource_of_kind_eq rfl here) h
  case h_6 => exact keywordOperator_shortens sub ready (Token.isSource_of_kind_eq rfl here) found h
  case h_7 => cases found

end Grammar

end TransactSql
