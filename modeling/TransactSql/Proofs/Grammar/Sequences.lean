import TransactSql.Proofs.Procedures

/-!
# Scripts as sequences of statements

A script is read statement by statement, each where the one before it has left the cursor. Told in
this way, without a loop and what it has gathered, sequences that follow one another make one.
-/

namespace TransactSql

open TransactSql.Parser

namespace Parser

/-- A loop without a bound has one outcome. -/
theorem Repeats.unique {step : σ → Parser (Option σ)} {s : σ} {c : Cursor}
    {reply reply' : EStateM.Result Failure Cursor σ} (h : Repeats step s c reply)
    (h' : Repeats step s c reply') : reply = reply' := by
  induction h with
  | stop round =>
    cases h' with
    | stop round' => cases round.symm.trans round'; rfl
    | fail round' => cases round.symm.trans round'
    | next round' => cases round.symm.trans round'
  | fail round =>
    cases h' with
    | stop round' => cases round.symm.trans round'
    | fail round' => cases round.symm.trans round'; rfl
    | next round' => cases round.symm.trans round'
  | next round _ _ ih =>
    cases h' with
    | stop round' => cases round.symm.trans round'
    | fail round' => cases round.symm.trans round'
    | next round' _ more =>
      cases round.symm.trans round'
      exact ih more

end Parser

namespace Grammar

variable {statement : Parser Statement} {c d e : Cursor} {ss : List Statement}

/-- Statements that are read one after another, from one cursor to another. -/
inductive Sequence (statement : Parser Statement) : Cursor → List Statement → Cursor → Prop
  | nil (c : Cursor) : Sequence statement c [] c
  | cons {c d e : Cursor} {s : Statement} {ss : List Statement} (started : c.current.isEof = false)
    (run : statement c = .ok s d) (more : Sequence statement d ss e) :
    Sequence statement c (s :: ss) e

theorem Sequence.append {more : List Statement} (first : Sequence statement c ss d)
    (second : Sequence statement d more e) : Sequence statement c (ss ++ more) e := by
  induction first with
  | nil => exact second
  | cons started run _ ih => exact .cons started run (ih second)

theorem moreStatements_of_isEof (ended : c.current.isEof = true) :
    moreStatements statement ss c = .ok none c := by
  unfold moreStatements
  rw [atEnd_bind, ended]
  rfl

theorem moreStatements_of_ok {s : Statement} (started : c.current.isEof = false)
    (run : statement c = .ok s d) : moreStatements statement ss c = .ok (some (ss ++ [s])) d := by
  unfold moreStatements
  rw [atEnd_bind, started, if_neg (by decide), bind_of_ok _ run]
  rfl

theorem moreStatements_cases {next : Option (List Statement)}
    (h : moreStatements statement ss c = .ok next d) :
    (next = none ∧ d = c ∧ c.current.isEof = true) ∨
      ∃ s, next = some (ss ++ [s]) ∧ c.current.isEof = false ∧ statement c = .ok s d := by
  unfold moreStatements at h
  rw [atEnd_bind] at h
  split at h
  · next ended =>
    cases h
    exact .inl ⟨rfl, rfl, ended⟩
  · next started =>
    obtain ⟨s, e, run, h⟩ := bind_ok h
    cases h
    exact .inr ⟨s, rfl, Bool.eq_false_iff.mpr started, run⟩

/-- What the loop has gathered goes before what it reads. -/
theorem sequence_of_repeats {all : List Statement}
    (h : Repeats (moreStatements statement) ss c (.ok all d)) :
    ∃ more, all = ss ++ more ∧ Sequence statement c more d ∧ d.current.isEof = true := by
  generalize outcome : EStateM.Result.ok all d = reply at h
  induction h with
  | stop round =>
    cases outcome
    rcases moreStatements_cases round with ⟨_, rfl, ended⟩ | ⟨s, absent, _⟩
    · exact ⟨[], by simp, .nil _, ended⟩
    · cases absent
  | fail round => cases outcome
  | next round _ _ ih =>
    obtain ⟨more, rfl, sequence, ended⟩ := ih outcome
    rcases moreStatements_cases round with ⟨absent, _⟩ | ⟨s, found, started, run⟩
    · cases absent
    · cases found
      exact ⟨s :: more, by simp, .cons started run sequence, ended⟩

variable [framed : Framed statement] [consumes : Consumes statement]

theorem repeats_of_sequence {more : List Statement} (sequence : Sequence statement c more d)
    (ended : d.current.isEof = true) (eof : c.eof.isEof = true) (ss : List Statement) :
    Repeats (moreStatements statement) ss c (.ok (ss ++ more) d) := by
  induction sequence generalizing ss with
  | nil c =>
    rw [List.append_nil]
    exact .stop (moreStatements_of_isEof ended)
  | @cons c e d s more started run _ ih =>
    obtain ⟨raw, moved⟩ := framed.ok run
    have rest := ih ended (moved.eof ▸ eof) (ss ++ [s])
    rw [List.append_assoc] at rest
    exact .next (moreStatements_of_ok started run) (consumes.shortens eof run) rest

theorem statements_iff (eof : c.eof.isEof = true) :
    statements statement c = .ok ss d ↔ Sequence statement c ss d ∧ d.current.isEof = true := by
  have repeats := loop_repeats (moreStatements statement) [] eof
  constructor
  · intro h
    unfold statements at h
    rw [h] at repeats
    obtain ⟨more, rfl, sequence, ended⟩ := sequence_of_repeats repeats
    exact ⟨sequence, ended⟩
  · rintro ⟨sequence, ended⟩
    exact repeats.unique (repeats_of_sequence sequence ended eof [])

omit consumes in
theorem Sequence.moved (sequence : Sequence statement c ss d) : ∃ raw, c.Moved raw d := by
  induction sequence with
  | nil c => exact ⟨[], .refl c⟩
  | cons _ run _ ih =>
    obtain ⟨raw, first⟩ := framed.ok run
    obtain ⟨more, second⟩ := ih
    exact ⟨raw ++ more, first.trans second⟩

end Grammar

/-! ### Scripts -/

/-- At the end of input nothing is left of the tokens, and all else is as it was. -/
theorem Cursor.eq_of_isEof {ts raw : List Token} {d : Cursor} (others : ∀ t ∈ ts, t.isEof = false)
    (moved : (ofTokens ts).Moved raw d) (ended : d.current.isEof = true) : d = ofTokens [] := by
  rw [ofTokens_eq others] at moved
  have fault : d.fault = none := by
    cases fault : d.fault with
    | none => rfl
    | some x =>
      rw [current, fault] at ended
      cases ended
  have ready : d.Ready := ⟨fault, moved.eof ▸ rfl⟩
  have rest : d.ahead = [] := by
    refine ahead_of_isEof ready (fun t member => others t ?_) ended
    rw [show ts = raw ++ d.ahead from moved.ahead]
    exact List.mem_append_right raw member
  obtain ⟨ahead, eof, fault', assignment, recordings⟩ := d
  have same := moved.eof
  have context := moved.assignment
  have recorded := moved.recordings
  subst rest fault same context recorded
  rfl

/-- A script is read if its statements are, one after another, up to its end. -/
theorem script_iff {depth : Nat} {ts : List Token} {ss : List Statement}
    (others : ∀ t ∈ ts, t.isEof = false) :
    (Parser.statements depth).result (.ofTokens ts) = .ok ss ↔
      Grammar.Sequence (Parser.statement depth) (.ofTokens ts) ss (.ofTokens []) := by
  have eof := Cursor.isEof_ofTokens ts
  constructor
  · intro h
    unfold Parser.result at h
    split at h
    · next whole =>
      cases h
      obtain ⟨sequence, ended⟩ := (Grammar.statements_iff eof).mp whole
      obtain ⟨raw, moved⟩ := sequence.moved
      rwa [Cursor.eq_of_isEof others moved ended] at sequence
    · cases h
  · intro sequence
    have whole := (Grammar.statements_iff eof).mpr ⟨sequence, rfl⟩
    unfold Parser.result Parser.statements
    rw [whole]

end TransactSql
