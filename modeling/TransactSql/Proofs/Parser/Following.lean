import TransactSql.Proofs.Parser.Frame
import TransactSql.Proofs.Parser.Polling

/-!
# Cursors on sources and cursors on lists

A cursor on a token source looks like a cursor on a list of the tokens that the source gives, whether
or not the source comes to an end, as long as the list has a token for each operation. Parsers pass
over many tokens of a list at once, which is to advance as many times.
-/

namespace TransactSql

/-! ### Cursors on lists -/

namespace Cursor

variable {c : Cursor} {t : Token} {ts : List Token}

/-- The cursor stands on the first of the tokens `ts`, of which those from the first end of input on
do not count. -/
def On (c : Cursor) (ts : List Token) : Prop :=
  c.ahead = (ofTokens ts).ahead ∧ c.eof = (ofTokens ts).eof

theorem on_cons_of_isEof (ended : t.isEof = true) : c.On (t :: ts) ↔ c.ahead = [] ∧ c.eof = t := by
  constructor
  · rintro ⟨ahead, eof⟩
    simpa [ofTokens, ended] using And.intro ahead eof
  · rintro ⟨ahead, eof⟩
    exact ⟨by simp [ahead, ofTokens, ended], by simp [eof, ofTokens, ended]⟩

theorem On.ahead_cons (on : c.On (t :: ts)) (more : t.isEof = false) :
    c.ahead = t :: (ofTokens ts).ahead := by
  simp [on.1, ofTokens, more]

theorem On.rawCurrent (on : c.On (t :: ts)) : c.rawCurrent = t := by
  cases ended : t.isEof with
  | true =>
    obtain ⟨ahead, eof⟩ := (on_cons_of_isEof ended).mp on
    simp [Cursor.rawCurrent, ahead, eof]
  | false => simp [Cursor.rawCurrent, on.ahead_cons ended]

theorem On.skip (on : c.On (t :: ts)) (ready : c.fault = none) (more : t.isEof = false) :
    (c.skip 1).On ts := by
  constructor
  · simp [Cursor.skip, ready, on.ahead_cons more]
  · simp [Cursor.skip, ready, on.2, ofTokens, more]

theorem On.lookahead {u : Token} (on : c.On (t :: u :: ts)) (last : t.isEof = true → u = t) :
    c.lookahead = u := by
  cases ended : t.isEof with
  | true =>
    obtain ⟨ahead, eof⟩ := (on_cons_of_isEof ended).mp on
    simp [Cursor.lookahead, ahead, eof, last ended]
  | false =>
    have behind : Cursor.On { c with ahead := (ofTokens (u :: ts)).ahead } (u :: ts) :=
      ⟨rfl, by simp [on.2, ofTokens, ended]⟩
    have next := behind.rawCurrent
    simpa [Cursor.lookahead, Cursor.rawCurrent, on.ahead_cons ended] using next

/-- To pass over `n` tokens at once is to advance `n` times. -/
theorem skip_eq_run (c : Cursor) (n : Nat) : c.skip n = c.run (List.replicate n .advance) := by
  induction n generalizing c with
  | zero => exact c.skip_zero
  | succ n ih =>
    rw [← skip_advance, ih]
    rfl

end Cursor

namespace SourceCursor

open TokenSource
open Cursor (Operation)

section

variable {r d : SourceCursor σ} {c : Cursor} {n : Nat}

variable [TokenSource σ]

/-- The two cursors look the same and take the same tokens. -/
structure Shows (r : SourceCursor σ) (c : Cursor) : Prop where
  current : r.current = c.current
  rawCurrent : r.rawCurrent = c.rawCurrent
  lookahead : r.lookahead = c.lookahead
  error : r.error = c.fault.map fun x => .error x.message x.span
  assignment : r.assignment = c.assignment
  recordings : r.recordings = c.recordings
  expect : ∀ p what required, (r.expect p what required).1 = (c.expect p what required).1

/-- The two cursors are in the same state, the tokens of the second being at least those that are at
hand and the next `n` of the source. -/
structure Follows (n : Nat) (r : SourceCursor σ) (c : Cursor) : Prop where
  tokens : ∃ m, n ≤ m ∧ c.On (r.rawCurrent :: r.lookahead :: upcoming m r.source)
  error : r.error = c.fault.map fun x => .error x.message x.span
  caused : ∀ x ∈ c.fault, x.faults ≠ []
  assignment : r.assignment = c.assignment
  recordings : r.recordings = c.recordings

namespace Follows

theorem mono {m : Nat} (follows : Follows n r c) (fewer : m ≤ n) : Follows m r c := by
  obtain ⟨k, enough, on⟩ := follows.tokens
  exact { follows with tokens := ⟨k, Nat.le_trans fewer enough, on⟩ }

theorem rawCurrent (follows : Follows n r c) : r.rawCurrent = c.rawCurrent := by
  obtain ⟨_, _, on⟩ := follows.tokens
  exact on.rawCurrent.symm

theorem normalized (follows : Follows n r c) (regular : r.Regular) :
    r.normalized = c.normalize c.rawCurrent := by
  rw [regular.normalized, ← follows.rawCurrent, normalize, Cursor.normalize, follows.assignment]

theorem fault_eq_none (follows : Follows n r c) : r.error = none ↔ c.fault = none := by
  rw [follows.error, Option.map_eq_none_iff]

theorem error_of_fault (follows : Follows n r c) {x : Diagnostic} (fault : c.fault = some x) :
    r.error = some (.error x.message x.span) := by
  rw [follows.error, fault, Option.map_some]

theorem expect_fst (follows : Follows n r c) (regular : r.Regular) (p : Token → Bool)
    (what : String) (required : Bool) :
    (r.expect p what required).1 = (c.expect p what required).1 := by
  cases fault : c.fault with
  | some x =>
    have error := follows.error_of_fault fault
    cases required <;> simp [SourceCursor.expect, Cursor.expect, error, fault]
  | none =>
    have ready : r.error = none := follows.fault_eq_none.mpr fault
    have current : r.normalized = c.current := by
      rw [follows.normalized regular, Cursor.current, fault]
    cases wanted : p c.current <;> cases required <;>
      simp [SourceCursor.expect, Cursor.expect, ready, fault, current, wanted]

theorem shows (follows : Follows n r c) (regular : r.Regular) : r.Shows c where
  current := by
    unfold current Cursor.current
    rw [follows.error]
    cases c.fault with
    | none => exact follows.normalized regular
    | some x => rfl
  rawCurrent := follows.rawCurrent
  lookahead := by
    obtain ⟨_, _, on⟩ := follows.tokens
    exact (on.lookahead regular.ended).symm
  error := follows.error
  assignment := follows.assignment
  recordings := follows.recordings
  expect := follows.expect_fst regular

/-- Both pass over the current token, which may take one more token of the source. -/
theorem step (follows : Follows (n + 1) r c) (ready : c.fault = none)
    (more : r.rawCurrent.isEof = false) : Follows n r.step (c.skip 1) := by
  obtain ⟨m, enough, on⟩ := follows.tokens
  have behind := on.skip ready more
  obtain ⟨k, rfl⟩ : ∃ k, m = k + 1 := Nat.exists_eq_add_of_le' (Nat.le_trans (by omega) enough)
  have skipped : c.skip 1 = { c with
      ahead := c.ahead.drop 1
      recordings := c.recordings.map (· ++ c.ahead.take 1) } := by
    simp [Cursor.skip, ready]
  refine ⟨?_, ?_, ?_, ?_, ?_⟩
  · -- The source is polled unless the lookahead is the end of input, which then counts twice.
    cases ended : r.lookahead.isEof with
    | true =>
      refine ⟨k + 1, by omega, ?_⟩
      have last := (Cursor.on_cons_of_isEof ended).mp behind
      simpa [SourceCursor.step, ended] using (Cursor.on_cons_of_isEof ended).mpr last
    | false =>
      exact ⟨k, by omega, by simpa [SourceCursor.step, ended, upcoming] using behind⟩
  · rw [skipped]
    exact follows.error
  · rw [skipped]
    exact follows.caused
  · rw [skipped]
    exact follows.assignment
  · rw [skipped]
    simp [SourceCursor.step, follows.recordings, on.ahead_cons more]

theorem advance (follows : Follows (n + 1) r c) : Follows n r.advance.2 c.advance := by
  cases fault : c.fault with
  | some x =>
    rw [advance_of_error (follows.error_of_fault fault), Cursor.advance, Cursor.advance?, fault]
    exact follows.mono (Nat.le_succ n)
  | none =>
    have ready : r.error = none := follows.fault_eq_none.mpr fault
    obtain ⟨m, enough, on⟩ := follows.tokens
    cases ended : r.rawCurrent.isEof with
    | true =>
      have still : c.advance = c := by
        simp [Cursor.advance, Cursor.advance?, ((Cursor.on_cons_of_isEof ended).mp on).1]
      rw [advance_of_isEof ready ended, still]
      exact { follows.mono (Nat.le_succ n) with }
    | false =>
      have moves : c.advance = c.skip 1 := by
        simp [Cursor.advance, Cursor.advance?, fault, on.ahead_cons ended]
      rw [advance_of_token ready ended, moves]
      exact follows.step fault ended

theorem install (follows : Follows n r c) (regular : r.Regular) (f : Fault) :
    Follows n (r.install f.message).2 (c.install f) := by
  refine { follows with error := ?_, caused := ?_ }
  · unfold SourceCursor.install Cursor.install Cursor.diagnose
    rw [follows.error]
    cases fault : c.fault with
    | none =>
      have place : r.normalized.span = c.rawCurrent.span := by rw [regular.span, follows.rawCurrent]
      simp [Diagnostic.message, place]
    | some x =>
      obtain ⟨cause, causes, faults⟩ := List.exists_cons_of_ne_nil (follows.caused x fault)
      simp [Diagnostic.message, faults, Token.error, Token.errorMessage?, String.append_assoc]
  · unfold Cursor.install Cursor.diagnose
    cases c.fault <;> simp

theorem expect (follows : Follows (n + 1) r c) (regular : r.Regular) (p : Token → Bool)
    (what : String) (required : Bool) :
    Follows n (r.expect p what required).2 (c.expect p what required).2 := by
  have fewer := follows.mono (Nat.le_succ n)
  cases fault : c.fault with
  | some x =>
    have error := follows.error_of_fault fault
    cases required with
    | false => simpa [SourceCursor.expect, Cursor.expect, error, fault] using fewer
    | true =>
      simpa [SourceCursor.expect, Cursor.expect, error, fault, Fault.message] using
        fewer.install regular (.expected what)
  | none =>
    have ready : r.error = none := follows.fault_eq_none.mpr fault
    have current : r.normalized = c.current := by
      rw [follows.normalized regular, Cursor.current, fault]
    cases wanted : p c.current with
    | true =>
      simpa [SourceCursor.expect, Cursor.expect, ready, fault, current, wanted] using
        follows.advance
    | false =>
      cases required with
      | false =>
        simpa [SourceCursor.expect, Cursor.expect, ready, fault, current, wanted] using fewer
      | true =>
        simpa [SourceCursor.expect, Cursor.expect, ready, fault, current, wanted, Fault.message] using
          fewer.install regular (.expectedFound what c.current.describe)

theorem perform (follows : Follows (n + 1) r c) (regular : r.Regular) (op : Operation) :
    Follows n (r.perform op) (c.perform op) := by
  have fewer := follows.mono (Nat.le_succ n)
  cases op with
  | advance => exact follows.advance
  | expect p what required => exact follows.expect regular p what required
  | install message => exact fewer.install regular (.stated message)
  | clear => exact { fewer with error := rfl, caused := nofun }
  | setAssignment assignment => exact { fewer with assignment := rfl }
  | beginRecording => exact { fewer with recordings := congrArg ([] :: ·) follows.recordings }
  | endRecording => exact { fewer with recordings := congrArg List.tail follows.recordings }

theorem run (ops : List Operation) (follows : Follows (n + ops.length) r c)
    (regular : r.Regular) : Follows n (r.run ops) (c.run ops) := by
  induction ops generalizing r c with
  | nil => exact follows
  | cons op ops ih => exact ih (follows.perform regular op) (regular.goes (r.goes_perform op))

end Follows

theorem follows_start (n : Nat) (s : σ) :
    Follows n (start s) (.ofTokens (upcoming (n + 2) s)) where
  tokens := by
    refine ⟨n, Nat.le_refl n, ?_⟩
    cases ended : (nextToken s).1.isEof with
    | true =>
      simp only [start, upcoming, ended]
      exact (Cursor.on_cons_of_isEof ended).mpr
        ((Cursor.on_cons_of_isEof ended).mp ⟨rfl, rfl⟩)
    | false =>
      simp only [start, upcoming, ended]
      exact ⟨rfl, rfl⟩
  error := rfl
  caused := nofun
  assignment := rfl
  recordings := rfl

theorem follows_run (s : σ) (ops : List Operation) {k : Nat} (enough : k + ops.length + 2 ≤ n) :
    Follows k ((start s).run ops) ((Cursor.ofTokens (upcoming n s)).run ops) := by
  obtain ⟨m, rfl⟩ : ∃ m, n = m + 2 := Nat.exists_eq_add_of_le' (by omega)
  exact ((follows_start m s).mono (by omega)).run ops (regular_start s)

/-- Whatever is done with it, a cursor on a source looks like one on a list of enough of the tokens
that the source gives. -/
theorem shows_run (s : σ) (ops : List Operation) (enough : ops.length + 2 ≤ n) :
    ((start s).run ops).Shows ((Cursor.ofTokens (upcoming n s)).run ops) :=
  (follows_run (k := 0) s ops (by omega)).shows ((regular_start s).run ops)

end

end SourceCursor

end TransactSql
