import TransactSql.Grammar.Operand
import TransactSql.Proofs.Expr.Checked
import TransactSql.Proofs.Grammar.Frame
import TransactSql.Proofs.Parser.Yield

/-!
# Names, parentheses and data types keep their tokens
-/

namespace TransactSql

attribute [simp] Tree.tokenSlots Tree.optionalToken Name.tree RawTokens.tree TableType.tree
  Expr.optionalSlot Tail.slots Clause.optionalSlot

namespace Grammar

open TransactSql.Parser

/-! ### Names -/

theorem namePart_reads {b c d : Cursor} {parts : List Token} {next : Option (List Token)}
    (r : b.Reads (Tree.tokenSlots parts) c) (h : namePart parts c = .ok next d) :
    b.Reads (Tree.tokenSlots (next.getD parts)) d := by
  unfold namePart at h
  simp only [atKind_bind] at h
  split at h
  · cases h
    exact r
  · obtain ⟨dots, e, run, h⟩ := bind_ok h
    have dotted := r.trans (takeWhile_reads r.ready (Token.isSource_of_kind rfl) run)
    simp only [atKind_bind] at h
    split at h
    · next star =>
      obtain ⟨final, h⟩ := dotted.take (Token.isSource_of_kind rfl star) h
      cases h
      exact final.of_tokens (by simp)
    · obtain ⟨part, e, final, h⟩ := dotted.bind h
      cases h
      exact final.of_tokens (by simp)

instance : Yields name fun n => [n.tree] where
  reads ready h := by
    unfold name at h
    obtain ⟨first, _, r, h⟩ := (Cursor.Reads.start ready).bind h
    obtain ⟨parts, _, run, h⟩ := bind_ok h
    have whole := loop_invariant (fun parts c => Cursor.Reads _ (Tree.tokenSlots parts) c)
      namePart_reads r run
    obtain ⟨rfl, rfl⟩ := build_ok h
    exact whole.node

/-! ### Parentheses -/

/-- What stands in parentheses, and the closing one. -/
def parenSlots (body : Option Expr × Token) : List Tree := Expr.optionalSlot body.1 ++ [.token body.2]

theorem rawParenBody_reads {b c d : Cursor} {raw : List Token} {body : Option Expr × Token}
    (moved : b.beginRecording.Moved raw c) (eof : b.eof.isEof = true)
    (h : rawParenBody c = .ok body d) : b.beginRecording.Reads (parenSlots body) d := by
  unfold rawParenBody at h
  obtain ⟨⟨tokens, rparen⟩, e, read, h⟩ := bind_ok h
  obtain ⟨source, h⟩ := Checked.rawTokens_bind_ok h
  cases h
  exact (readToCloseParen_reads moved eof read source).of_tokens (by simp [parenSlots, Expr.tree])

section

variable (sub : Precedence → Parser Expr) [∀ min, Yields (sub min) fun e => [e.tree]]
  [∀ min, Framed (sub min)]

instance : Yields (parenBody sub) parenSlots where
  reads {c d body} ready h := by
    unfold parenBody at h
    obtain ⟨rparen, e, r, h⟩ := (Cursor.Reads.start ready).bind h
    cases rparen with
    | some rparen =>
      cases h
      exact r
    | none =>
      obtain ⟨_, _, h, leave⟩ := reads_withAssignment r h
      obtain ⟨_, inside, h, leave'⟩ := reads_recording (.start (r.ready.setAssignment false)) h
      refine leave (leave' ?_)
      rw [attempt_bind] at h
      cases run : sub .none (e.setAssignment false).beginRecording with
      | ok inner f =>
        simp only [run, atKind_bind] at h
        split at h
        · next close =>
          obtain ⟨closed, h⟩ := (inside.next run).take (Token.isSource_of_kind rfl close) h
          cases h
          exact closed
        · obtain ⟨raw, moved⟩ := Framed.ok run
          exact rawParenBody_reads moved inside.ready.eof h
      | error failure f =>
        obtain ⟨raw, moved⟩ := Framed.error run
        cases failure with
        | grammar x =>
          simp only [run, rawCurrent_bind] at h
          split at h
          · exact absurd h throw_ok
          · exact rawParenBody_reads moved inside.ready.eof h
        | _ =>
          simp only [run] at h
          exact absurd h throw_ok

/-! ### Data types -/

instance : Yields tableType fun t => [t.tree] where
  reads {c d t} ready h := by
    unfold tableType at h
    obtain ⟨tableToken, _, r, h⟩ := (Cursor.Reads.start ready).bind h
    obtain ⟨lparen, e, r, h⟩ := r.bind h
    obtain ⟨⟨definition, rparen⟩, f, read, h⟩ := bind_ok h
    dsimp only at h
    split at h
    · exact absurd h fail_ok
    · obtain ⟨source, h⟩ := Checked.rawTokens_bind_ok h
      obtain ⟨_, _, read, leave⟩ := reads_recording r read
      have inside := readToCloseParen_reads (.refl _) r.ready.eof read source
      obtain ⟨rfl, rfl⟩ := build_ok h
      exact (leave inside).of_tokens (by simp)

instance : Yields (dataType sub) fun t => [t.tree] where
  reads {c d t} ready h := by
    unfold dataType at h
    simp only [atKeyword_bind] at h
    split at h
    · obtain ⟨type, _, r, h⟩ := (Cursor.Reads.start ready).bind h
      cases h
      exact r.of_tokens (by simp [DataType.tree])
    · obtain ⟨n, _, r, h⟩ := (Cursor.Reads.start ready).bind h
      obtain ⟨lparen, e, r, h⟩ := r.bind h
      cases lparen with
      | none =>
        cases h
        exact r.of_tokens (by simp [DataType.tree, simpleType])
      | some lparen =>
        obtain ⟨⟨args, rparen⟩, _, r, h⟩ := r.bind h
        dsimp only at h
        split at h
        · exact absurd h fail_ok
        · obtain ⟨rfl, rfl⟩ := build_ok h
          exact r.of_tokens (by simp [DataType.tree, parenSlots])

end

instance : Yields assignSign Tree.optionalToken := inferInstanceAs (Yields (withAssignment _ _) _)

end Grammar

end TransactSql
