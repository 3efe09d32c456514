import TransactSql.Proofs.Grammar.Progress

/-!
# Passing over given tokens

Runs told forwards: what a parser does at a cursor that stands before certain tokens, where `=` is
a comparison. The cursor behind the tokens is determined by them.
-/

namespace TransactSql

namespace Cursor

/-- From one cursor to another over the tokens `ts`, read as they stand. -/
structure Passes (c : Cursor) (ts : List Token) (d : Cursor) : Prop extends c.Moved ts d where
  ready : c.Ready
  comparing : c.assignment = false
  fault : d.fault = none

namespace Passes

variable {c d e : Cursor} {t u : Token} {ts us : List Token}

theorem eq_of_nil (h : c.Passes [] d) : d = c := by
  obtain ⟨⟨ahead, recordings, assignment, eof⟩, ⟨unfaulted, _⟩, _, fault⟩ := h
  cases c
  cases d
  simp_all

theorem split (h : c.Passes (ts ++ us) e) : ∃ d, c.Passes ts d ∧ d.Passes us e := by
  have ahead := h.ahead
  rw [List.append_assoc] at ahead
  let d := { c with ahead := us ++ e.ahead, recordings := c.recordings.map (· ++ ts) }
  have recordings : e.recordings = d.recordings.map (· ++ us) := by simp [h.recordings, d]
  exact ⟨d, ⟨⟨ahead, rfl, rfl, rfl⟩, h.ready, h.comparing, h.ready.fault⟩,
    ⟨⟨rfl, recordings, h.assignment, h.eof⟩, ⟨h.ready.fault, h.ready.eof⟩, h.comparing, h.fault⟩⟩

theorem current (h : c.Passes (t :: ts) d) : c.current = t := by
  rw [current_eq h.ready]
  simp [normalize, h.comparing, rawCurrent, h.ahead]

theorem lookahead (h : c.Passes (t :: u :: ts) d) : c.lookahead = u := by
  simp [Cursor.lookahead, h.ahead]

theorem advance (h : c.Passes (t :: ts) d) : c.advance.Passes ts d := by
  have ahead : c.ahead = t :: (ts ++ d.ahead) := h.ahead
  rw [advance_eq h.ready ahead]
  refine ⟨⟨rfl, ?_, h.assignment, h.eof⟩, ⟨h.ready.fault, h.ready.eof⟩, h.comparing, h.fault⟩
  simp [h.recordings, Function.comp_def]

theorem shortens (h : c.Passes ts d) (some : ts ≠ []) : c.Shortens d := by
  have taken : ts.length ≠ 0 := fun none => some (List.length_eq_zero_iff.mp none)
  rw [Shortens, h.ahead, List.length_append]
  omega

/-- A recording that begins before the tokens and ends behind them makes no difference. -/
theorem record (h : c.Passes ts d) :
    ∃ d', c.beginRecording.Passes ts d' ∧ d'.endRecording = d := by
  refine ⟨{ d with recordings := ts :: d.recordings }, ?_, rfl⟩
  refine ⟨⟨h.ahead, ?_, h.assignment, h.eof⟩, ⟨h.ready.fault, h.ready.eof⟩, h.comparing, h.fault⟩
  simp [beginRecording, h.recordings]

end Passes

/-- A cursor on all the tokens of a list, where none of them is an end of input. -/
theorem passes_ofTokens {ts : List Token} (source : ∀ t ∈ ts, t.isSource = true) :
    ∃ d, (ofTokens ts).Passes ts d ∧ d.current.isEof = true := by
  have all : ts.takeWhile (!·.isEof) = ts := by
    refine List.takeWhile_eq_self_iff.mpr fun t member => ?_
    simp [Token.not_isEof_of_isSource (source t member)]
  have none : ts.find? Token.isEof = none := by
    refine List.find?_eq_none.mpr fun t member => ?_
    simp [Token.not_isEof_of_isSource (source t member)]
  refine ⟨{ ofTokens ts with ahead := [] }, ⟨⟨?_, rfl, rfl, rfl⟩, ⟨rfl, ?_⟩, rfl, rfl⟩, ?_⟩
  · simp [ofTokens, all]
  · simp [ofTokens, none, Token.isEof, Token.eof]
  · simp [ofTokens, none, Token.isEof, Token.eof, Cursor.current, normalize, rawCurrent]

end Cursor

namespace Parser

variable {c d : Cursor} {t : Token} {ts : List Token}

theorem build_of_ok {made : Shaped α} {a : α} (h : made = .ok a) : build made c = .ok a c := by
  rw [h]
  rfl

theorem require_of_passes {p : Token → Bool} (what : String) (h : c.Passes (t :: ts) d)
    (accepted : p t = true) : require p what c = .ok t c.advance := by
  unfold require Cursor.expect
  simp [h.ready.fault, h.current, accepted]

theorem eat_of_passes {p : Token → Bool} (h : c.Passes (t :: ts) d) (accepted : p t = true) :
    eat p c = .ok (some t) c.advance := by
  change EStateM.Result.ok (c.expect p "" false).1 (c.expect p "" false).2 = _
  simp [Cursor.expect, h.ready.fault, h.current, accepted]

/-- An optional keyword is taken just if it is there. -/
theorem eatKeyword_of_passes {k : Keyword} {not : Option Token}
    (h : c.Passes (not.toList ++ t :: ts) d) (given : ∀ u ∈ not, u.isKeyword k = true)
    (other : t.isKeyword k = false) :
    ∃ e, eatKeyword k c = .ok not e ∧ e.Passes (t :: ts) d := by
  cases not with
  | none => exact ⟨c, eat_of_refused (by rwa [h.current]), h⟩
  | some u => exact ⟨c.advance, eat_of_passes h (given u rfl), h.advance⟩

/-- The context inside is left for the one before. -/
theorem withAssignment_of_ok {p : Parser α} {a : α} {assignment : Bool}
    (run : p (c.setAssignment assignment) = .ok a (d.setAssignment assignment))
    (same : d.assignment = c.assignment) : withAssignment assignment p c = .ok a d := by
  unfold withAssignment
  rw [run, ← same]
  rfl

theorem withAssignment_of_comparing {p : Parser α} {a : α} (comparing : c.assignment = false)
    (same : d.assignment = c.assignment) (run : p c = .ok a d) :
    withAssignment false p c = .ok a d := by
  have stays : ∀ e : Cursor, e.assignment = false → e.setAssignment false = e :=
    fun e comparing => by rw [← comparing]; rfl
  refine withAssignment_of_ok ?_ same
  rw [stays c comparing, stays d (same.trans comparing), run]

/-- A loop that does not go on. -/
theorem loop_of_stopped {step : σ → Parser (Option σ)} {s : σ} (stopped : step s c = .ok none d) :
    loop step s c = .ok s d := by
  unfold loop
  rw [get_bind, rounds, bind_of_ok _ stopped]
  rfl

theorem recording_of_ok {p : Parser α} {a : α} (run : p c.beginRecording = .ok a d) :
    recording p c = .ok a d.endRecording := by
  simp [recording, run]

end Parser

end TransactSql
