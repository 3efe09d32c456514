import TransactSql.Parser.SourceCursor

/-!
# What cursors poll

What a cursor on a token source may do at an operation, and with it what it polls: a source that has
given the end of input is never polled again.
-/

namespace TransactSql

/-- A source that keeps what it has given. -/
structure Logged (σ : Type u) where
  source : σ
  given : List Token := []

instance [TokenSource σ] : TokenSource (Logged σ) where
  nextToken l :=
    let (t, s) := TokenSource.nextToken l.source
    (t, ⟨s, l.given ++ [t]⟩)

namespace SourceCursor

open TokenSource
open Cursor (Operation)

/-! ### What an operation does -/

section

variable {r d : SourceCursor σ}

/-- The normalized token is the current one as the context reads it, and behind the end of input
comes the end of input. -/
structure Regular (r : SourceCursor σ) : Prop where
  normalized : r.normalized = r.normalize r.rawCurrent
  ended : r.rawCurrent.isEof = true → r.lookahead = r.rawCurrent

theorem Regular.span (regular : r.Regular) : r.normalized.span = r.rawCurrent.span := by
  rw [regular.normalized]
  unfold normalize Token.asAssignment
  split
  · split <;> rfl
  · rfl

variable [TokenSource σ]

theorem advance_of_error {e : Token} (error : r.error = some e) : r.advance = (false, r) := by
  simp [advance, error]

theorem advance_of_isEof (ready : r.error = none) (ended : r.rawCurrent.isEof = true) :
    r.advance.2 = { r with eofHits := min (r.eofHits + 1) 255 } := by
  simp [advance, ready, ended]

theorem advance_of_token (ready : r.error = none) (more : r.rawCurrent.isEof = false) :
    r.advance = (true, r.step) := by
  simp [advance, ready, more]

/-- What an operation may do to a cursor. -/
inductive Goes (r : SourceCursor σ) : SourceCursor σ → Prop
  | stay : Goes r r
  | hit (ready : r.error = none) (ended : r.rawCurrent.isEof = true) :
    Goes r { r with eofHits := min (r.eofHits + 1) 255 }
  | step (ready : r.error = none) (more : r.rawCurrent.isEof = false) : Goes r r.step
  | install (message : String) : Goes r (r.install message).2
  | clear : Goes r r.clear
  | setAssignment (assignment : Bool) : Goes r (r.setAssignment assignment).2
  | beginRecording : Goes r r.beginRecording
  | endRecording : Goes r r.endRecording.2

theorem goes_advance (r : SourceCursor σ) : r.Goes r.advance.2 := by
  cases error : r.error with
  | some e =>
    rw [advance_of_error error]
    exact .stay
  | none =>
    cases ended : r.rawCurrent.isEof with
    | true =>
      rw [advance_of_isEof error ended]
      exact .hit error ended
    | false =>
      rw [advance_of_token error ended]
      exact .step error ended

theorem goes_expect (r : SourceCursor σ) (p : Token → Bool) (what : String) (required : Bool) :
    r.Goes (r.expect p what required).2 := by
  unfold expect
  split
  · exact r.goes_advance
  · split
    · exact .install _
    · exact .stay

theorem goes_perform (r : SourceCursor σ) (op : Operation) : r.Goes (r.perform op) := by
  cases op with
  | advance => exact r.goes_advance
  | expect p what required => exact r.goes_expect p what required
  | install message => exact .install message
  | clear => exact .clear
  | setAssignment assignment => exact .setAssignment assignment
  | beginRecording => exact .beginRecording
  | endRecording => exact .endRecording

/-- What is kept by all that an operation may do is kept by every run. -/
theorem run_keeps {P : SourceCursor σ → Prop}
    (keeps : ∀ r d : SourceCursor σ, P r → r.Goes d → P d) (holds : P r) (ops : List Operation) :
    P (r.run ops) := by
  induction ops generalizing r with
  | nil => exact holds
  | cons op ops ih => exact ih (keeps r (r.perform op) holds (r.goes_perform op))

theorem regular_start (s : σ) : (start s).Regular := by
  refine ⟨rfl, fun ended => ?_⟩
  have first : (nextToken s).1.isEof = true := ended
  simp [start, first]

theorem Regular.goes (regular : r.Regular) (goes : r.Goes d) : d.Regular := by
  cases goes with
  | step _ _ =>
    refine ⟨rfl, fun ended => ?_⟩
    have last : r.lookahead.isEof = true := ended
    simp [SourceCursor.step, last]
  | setAssignment assignment => exact ⟨rfl, regular.ended⟩
  | _ => exact ⟨regular.normalized, regular.ended⟩

theorem Regular.run (regular : r.Regular) (ops : List Operation) : (r.run ops).Regular :=
  run_keeps (fun _ _ => Regular.goes) regular ops

end

/-! ### Polls -/

section

variable [TokenSource σ] {r d : SourceCursor (Logged σ)}

/-- The source has given the lookahead last, and no end of input before. -/
def Polled (r : SourceCursor (Logged σ)) : Prop :=
  ∃ before, r.source.given = before ++ [r.lookahead] ∧ ∀ t ∈ before, t.isEof = false

theorem polled_start (s : σ) : (start (Logged.mk s [])).Polled := by
  cases ended : (nextToken s).1.isEof with
  | true => exact ⟨[], by simp [start, nextToken, ended], nofun⟩
  | false =>
    refine ⟨[(nextToken s).1], by simp [start, nextToken, ended], fun t member => ?_⟩
    rw [List.mem_singleton.mp member, ended]

theorem Polled.step (polled : r.Polled) : r.step.Polled := by
  obtain ⟨before, given, others⟩ := polled
  cases ended : r.lookahead.isEof with
  | true => exact ⟨before, by simp [SourceCursor.step, ended, given], others⟩
  | false =>
    refine ⟨before ++ [r.lookahead], by simp [SourceCursor.step, nextToken, ended, given], ?_⟩
    intro t member
    rcases List.mem_append.mp member with earlier | last
    · exact others t earlier
    · rw [List.mem_singleton.mp last, ended]

theorem Polled.goes (polled : r.Polled) (goes : r.Goes d) : d.Polled := by
  cases goes with
  | step _ _ => exact polled.step
  | _ => exact polled

/-- Of all that a source has given, only the last token can be the end of input. -/
theorem isEof_given (s : σ) (ops : List Operation) :
    ∀ t ∈ ((start (Logged.mk s [])).run ops).source.given.dropLast, t.isEof = false := by
  obtain ⟨before, given, others⟩ := run_keeps (fun _ _ => Polled.goes) (polled_start s) ops
  rw [given, List.dropLast_concat]
  exact others

/-- The cursor on the source that is logged. -/
def bare (r : SourceCursor (Logged σ)) : SourceCursor σ := { r with source := r.source.source }

theorem bare_start (s : σ) : (start (Logged.mk s [])).bare = start s := by
  cases ended : (nextToken s).1.isEof <;> simp [start, bare, nextToken, ended]

theorem bare_step (r : SourceCursor (Logged σ)) : r.step.bare = r.bare.step := by
  unfold step
  cases last : r.lookahead.isEof <;> simp only [bare, last] <;> rfl

theorem bare_advance (r : SourceCursor (Logged σ)) : r.advance.2.bare = r.bare.advance.2 := by
  have faulty : r.bare.error.isSome = r.error.isSome := rfl
  have ended : r.bare.rawCurrent.isEof = r.rawCurrent.isEof := rfl
  unfold advance
  rw [faulty, ended]
  split
  · rfl
  · split
    · rfl
    · exact bare_step r

theorem bare_expect (r : SourceCursor (Logged σ)) (p : Token → Bool) (what : String)
    (required : Bool) : (r.expect p what required).2.bare = (r.bare.expect p what required).2 := by
  have taken : (r.bare.error.isNone && p r.bare.normalized) =
      (r.error.isNone && p r.normalized) := rfl
  unfold expect
  rw [taken]
  split
  · exact bare_advance r
  · split <;> rfl

theorem bare_perform (r : SourceCursor (Logged σ)) (op : Operation) :
    (r.perform op).bare = r.bare.perform op := by
  cases op with
  | advance => exact bare_advance r
  | expect p what required => exact bare_expect r p what required
  | _ => rfl

/-- The log changes nothing else. -/
theorem bare_run (r : SourceCursor (Logged σ)) (ops : List Operation) :
    (r.run ops).bare = r.bare.run ops := by
  induction ops generalizing r with
  | nil => rfl
  | cons op ops ih => exact (ih (r.perform op)).trans (by rw [bare_perform]; rfl)

end

end SourceCursor

end TransactSql
