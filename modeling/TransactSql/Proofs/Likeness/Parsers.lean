import TransactSql.Proofs.Likeness.Construction
import TransactSql.Proofs.Parser.Reading

/-!
# Parsers on related cursors

Two cursors are related if the tokens ahead, the end of input and the recordings correspond, and
the context is the same. A parser is related to another one if from related cursors without a
fault both succeed with related values on related cursors, or both fail in the same way, at
corresponding places. Parsers made of related parsers in the same way are related, since no
parser looks at more of a token than its kind.
-/

namespace TransactSql

variable {R : Correspondence}

instance : Relatable Diagnostic := ⟨fun R x y => R.spans x.span y.span⟩

structure Cursor.Alike (R : Correspondence) (c d : Cursor) : Prop where
  ahead : Related R c.ahead d.ahead
  eof : Related R c.eof d.eof
  /-- A fault is reported at one of these places or at the end of input. -/
  places : List.Forall₂ (fun t u => R.spans t.span u.span) c.ahead d.ahead
  limit : R.spans c.eof.span d.eof.span
  fault : Related R c.fault d.fault
  assignment : c.assignment = d.assignment
  recordings : Related R c.recordings d.recordings

instance : Relatable Cursor := ⟨Cursor.Alike⟩

namespace Cursor

variable {c d : Cursor}

theorem alike (h : Related R c d) : c.Alike R d := h.rel

theorem ready_of_related (h : Related R c d) (ready : c.fault = none) : d.fault = none := by
  obtain ⟨_, none⟩ | ⟨_, _, some, _⟩ := (alike h).fault.option
  · exact none
  · rw [ready] at some
    cases some

instance [h : Related R c d] : Related R c.ahead d.ahead := (alike h).ahead

theorem spans_rawCurrent (h : Related R c d) : R.spans c.rawCurrent.span d.rawCurrent.span := by
  have places := (alike h).places
  unfold rawCurrent
  cases hc : c.ahead with
  | nil =>
    rw [hc] at places
    rw [List.forall₂_nil_left_iff.mp places]
    exact (alike h).limit
  | cons t ts =>
    rw [hc] at places
    obtain ⟨u, us, first, -, hd⟩ := List.forall₂_cons_left_iff.mp places
    rw [hd]
    exact first

theorem related_headD {ts us : List Token} {t u : Token} (h : Related R ts us) (h' : Related R t u) :
    Related R (ts.headD t) (us.headD u) := by
  obtain ⟨rfl, rfl⟩ | ⟨_, _, _, _, rfl, rfl, first, _⟩ := h.list
  · exact h'
  · exact first

instance [h : Related R c d] : Related R c.rawCurrent d.rawCurrent :=
  related_headD inferInstance (alike h).eof

instance [h : Related R c d] : Related R c.lookahead d.lookahead :=
  related_headD inferInstance (alike h).eof

theorem related_normalize {t u : Token} (h : Related R c d) (h' : Related R t u) :
    Related R (c.normalize t) (d.normalize u) := by
  unfold normalize
  rw [(alike h).assignment]
  infer_instance

theorem related_current (h : Related R c d) (ready : c.fault = none) :
    Related R c.current d.current := by
  unfold current
  rw [ready, ready_of_related h ready]
  exact related_normalize h inferInstance

instance [h : Related R c d] : Related R c.recorded d.recorded := by
  unfold recorded
  obtain ⟨left, right⟩ | ⟨_, _, _, _, left, right, first, _⟩ := (alike h).recordings.list
  · rw [left, right]
    exact ⟨.nil⟩
  · rw [left, right]
    exact first

theorem related_skip (h : Related R c d) (ready : c.fault = none) (n : Nat) :
    Related R (c.skip n) (d.skip n) := by
  have recordings : Related R (c.recordings.map (· ++ c.ahead.take n))
      (d.recordings.map (· ++ d.ahead.take n)) :=
    (alike h).recordings.map fun _ _ _ => inferInstance
  unfold skip
  rw [ready, ready_of_related h ready]
  exact ⟨{ alike h with
    ahead := inferInstance
    places := List.forall₂_drop n (alike h).places
    fault := ⟨.none⟩
    recordings }⟩

theorem ready_skip (ready : c.fault = none) (n : Nat) : (c.skip n).fault = none := by
  unfold skip
  rw [ready]

theorem related_advance (h : Related R c d) (ready : c.fault = none) :
    Related R c.advance d.advance := by
  have empty : c.ahead.isEmpty = d.ahead.isEmpty := Bool.eq_of_related (R := R) inferInstance
  unfold advance advance?
  rw [ready, ready_of_related h ready, empty]
  split
  · exact h
  · exact related_skip h ready 1

theorem ready_advance (ready : c.fault = none) : c.advance.fault = none := by
  unfold advance advance?
  split
  · exact ready
  · exact ready_skip ready 1

theorem related_diagnose (h : Related R c d) (f g : Fault) :
    Related R (c.diagnose f) (d.diagnose g) := by
  unfold diagnose
  obtain ⟨left, right⟩ | ⟨_, _, left, right, x⟩ := (alike h).fault.option
  · rw [left, right]
    exact ⟨spans_rawCurrent h⟩
  · rw [left, right]
    exact ⟨x.rel⟩

theorem related_install (h : Related R c d) (f g : Fault) :
    Related R (c.install f) (d.install g) := by
  have x := related_diagnose h f g
  exact ⟨{ alike h with fault := ⟨.some x.rel⟩ }⟩

theorem related_clear (h : Related R c d) : Related R c.clear d.clear :=
  ⟨{ alike h with fault := ⟨.none⟩ }⟩

theorem related_setAssignment (h : Related R c d) {a b : Bool} (same : a = b) :
    Related R (c.setAssignment a) (d.setAssignment b) :=
  ⟨{ alike h with assignment := same }⟩

theorem related_beginRecording (h : Related R c d) :
    Related R c.beginRecording d.beginRecording :=
  ⟨{ alike h with recordings := ⟨.cons .nil (alike h).recordings.rel⟩ }⟩

theorem related_endRecording (h : Related R c d) : Related R c.endRecording d.endRecording := by
  have recordings := (alike h).recordings
  exact ⟨{ alike h with
    recordings := inferInstanceAs (Related R c.recordings.tail d.recordings.tail) }⟩

end Cursor

/-! ### Outcomes -/

/-- Both runs succeed with related values, or both fail in the same way. A grammar fault is
installed in the cursor it leaves. -/
inductive Outcome (R : Correspondence) [Relatable α] :
    EStateM.Result Failure Cursor α → EStateM.Result Failure Cursor α → Prop
  | ok {a b : α} {c d : Cursor} : Related R a b → Related R c d → c.fault = none →
    Outcome R (.ok a c) (.ok b d)
  | grammar {x y : Diagnostic} {c d : Cursor} : Related R x y → Related R c d →
    c.fault = some x → d.fault = some y →
    Outcome R (.error (.grammar x) c) (.error (.grammar y) d)
  | shape {e e' : ShapeError} {c d : Cursor} : Related R c d →
    Outcome R (.error (.shape e) c) (.error (.shape e') d)
  | unsupported {what : String} {c d : Cursor} : Related R c d →
    Outcome R (.error (.unsupported what) c) (.error (.unsupported what) d)

instance [Relatable α] : Relatable (Parser α) :=
  ⟨fun R p q => ∀ c d : Cursor, Related R c d → c.fault = none → Outcome R (p c) (q d)⟩

namespace Parser

variable [Relatable α] [Relatable β]

theorem outcome {p q : Parser α} (h : Related R p q) {c d : Cursor} (cursors : Related R c d)
    (ready : c.fault = none) : Outcome R (p c) (q d) := h.rel c d cursors ready

/-! ### Sequences -/

theorem outcome_bind {p q : Parser α} {f g : α → Parser β} {c d : Cursor}
    (first : Outcome R (p c) (q d)) (rest : ∀ a b, Related R a b → Related R (f a) (g b)) :
    Outcome R ((p >>= f) c) ((q >>= g) d) := by
  simp only [Bind.bind, EStateM.bind]
  generalize p c = reply at first ⊢
  generalize q d = reply' at first ⊢
  cases first with
  | ok value cursors ready => exact outcome (rest _ _ value) cursors ready
  | grammar x cursors fault fault' => exact .grammar x cursors fault fault'
  | shape cursors => exact .shape cursors
  | unsupported cursors => exact .unsupported cursors

theorem related_bind {p q : Parser α} {f g : α → Parser β} (h : Related R p q)
    (rest : ∀ a b, Related R a b → Related R (f a) (g b)) : Related R (p >>= f) (q >>= g) :=
  ⟨fun _ _ cursors ready => outcome_bind (outcome h cursors ready) rest⟩

instance {a b : α} [h : Related R a b] : Related R (pure a : Parser α) (pure b) :=
  ⟨fun _ _ cursors ready => .ok h cursors ready⟩

instance {p q : Parser Unit} {f g : Unit → Parser β} [h : Related R p q]
    [rest : Related R (f ()) (g ())] : Related R (p >>= f) (q >>= g) :=
  related_bind h fun _ _ _ => rest

theorem related_test {p q : Parser Bool} {f g : Bool → Parser β} (h : Related R p q)
    (rest : ∀ b, Related R (f b) (g b)) : Related R (p >>= f) (q >>= g) := by
  refine related_bind h fun a b same => ?_
  obtain rfl := Bool.eq_of_related same
  exact rest a

instance {p q : Parser Bool} {f g : Bool → Parser β} [h : Related R p q]
    [rest : ∀ b, Related R (f b) (g b)] : Related R (p >>= f) (q >>= g) := related_test h rest

instance {e e' : ShapeError} : Related R (throw (.shape e) : Parser α) (throw (.shape e')) :=
  ⟨fun _ _ cursors _ => .shape cursors⟩

instance {what : String} :
    Related R (throw (.unsupported what) : Parser α) (throw (.unsupported what)) :=
  ⟨fun _ _ cursors _ => .unsupported cursors⟩

instance {m m' : Shaped α} [h : Related R m m'] : Related R (build m) (build m') := by
  unfold build
  obtain ⟨_, _, rfl, rfl, _⟩ | ⟨_, _, rfl, rfl⟩ := Shaped.cases_of_related h <;>
    dsimp only <;> infer_instance

/-! ### Looking -/

instance : Related R current current :=
  ⟨fun _ _ cursors ready => .ok (Cursor.related_current cursors ready) cursors ready⟩

instance : Related R lookahead lookahead :=
  ⟨fun _ _ cursors ready => .ok inferInstance cursors ready⟩

instance (k : TokenKind) [k.Quiet] : Related R (atKind k) (atKind k) :=
  related_bind inferInstance fun _ _ _ => inferInstance

instance (k : Keyword) : Related R (atKeyword k) (atKeyword k) :=
  related_bind inferInstance fun _ _ _ => inferInstance

instance (first second : Keyword) : Related R (atKeywords first second) (atKeywords first second) :=
  related_bind inferInstance fun _ _ _ => related_bind inferInstance fun _ _ _ => inferInstance

instance : Related R atEnd atEnd := related_bind inferInstance fun _ _ _ => inferInstance

/-! ### Taking tokens -/

instance : Related R take take :=
  ⟨fun _ _ cursors ready => .ok (Cursor.related_current cursors ready)
    (Cursor.related_advance cursors ready) (Cursor.ready_advance ready)⟩

theorem related_eat {p q : Token → Bool} (same : ∀ t u, Related R t u → Related R (p t) (q u)) :
    Related R (eat p) (eat q) := by
  refine ⟨fun c d cursors ready => ?_⟩
  have current := Cursor.related_current cursors ready
  have accepted : p c.current = q d.current := Bool.eq_of_related (same _ _ current)
  have ready' := Cursor.ready_of_related cursors ready
  have run : ∀ (p : Token → Bool) (e : Cursor),
      eat p e = .ok (e.expect p "" false).1 (e.expect p "" false).2 := fun _ _ => rfl
  rw [run, run]
  simp only [Cursor.expect, ready, ready', accepted]
  cases q d.current with
  | true =>
    have taken : Related R (some c.current) (some d.current) := inferInstance
    exact .ok taken (Cursor.related_advance cursors ready) (Cursor.ready_advance ready)
  | false =>
    have refused : Related R (none : Option Token) none := inferInstance
    exact .ok refused cursors ready

instance (k : Keyword) : Related R (eatKeyword k) (eatKeyword k) :=
  related_eat fun _ _ _ => inferInstance

instance (ks : List Keyword) : Related R (eatAnyKeyword ks) (eatAnyKeyword ks) :=
  related_eat fun _ _ _ => inferInstance

instance (k : TokenKind) [k.Quiet] : Related R (eatKind k) (eatKind k) :=
  related_eat fun _ _ _ => inferInstance

theorem related_takeRun {extent extent' : List Token → Nat}
    (same : ∀ ts us, Related R ts us → extent ts = extent' us) :
    Related R (takeRun extent) (takeRun extent') := by
  refine ⟨fun c d cursors ready => ?_⟩
  have ready' := Cursor.ready_of_related cursors ready
  have count : extent c.ahead = extent' d.ahead := same _ _ inferInstance
  have tokens : Related R ((c.ahead.take (extent' d.ahead)).map c.normalize)
      ((d.ahead.take (extent' d.ahead)).map d.normalize) :=
    .map inferInstance fun _ _ h => Cursor.related_normalize cursors h
  have run : ∀ (extent : List Token → Nat) {e : Cursor}, e.fault = none → takeRun extent e =
      .ok ((e.ahead.take (extent e.ahead)).map e.normalize) (e.skip (extent e.ahead)) := by
    intro extent e ready
    have taken : takeRun extent e =
        let read := if e.fault.isSome then ([], e)
          else ((e.ahead.take (extent e.ahead)).map e.normalize, e.skip (extent e.ahead))
        .ok read.1 read.2 := rfl
    rw [taken, ready]
    rfl
  rw [run extent ready, run extent' ready', count]
  exact .ok tokens (Cursor.related_skip cursors ready _) (Cursor.ready_skip ready _)

instance : Related R terminator terminator := related_bind inferInstance fun _ _ _ => inferInstance

instance : Related R optionalAs optionalAs := related_bind inferInstance fun _ _ _ => inferInstance

/-! ### Failing -/

theorem outcome_fail {c d : Cursor} (cursors : Related R c d) (f g : Fault) :
    Outcome R (fail f c : EStateM.Result Failure Cursor α) (fail g d) :=
  .grammar (Cursor.related_diagnose cursors f g) (Cursor.related_install cursors f g) rfl rfl

instance (f g : Fault) : Related R (fail f : Parser α) (fail g) :=
  ⟨fun _ _ cursors _ => outcome_fail cursors f g⟩

/-- What stands behind a failure is not run. -/
instance (f g : Fault) {k k' : α → Parser β} : Related R (fail f >>= k) (fail g >>= k') :=
  ⟨fun _ _ cursors _ => outcome_fail cursors f g⟩

instance (what : String) : Related R (failExpected what : Parser α) (failExpected what) :=
  related_bind inferInstance fun _ _ _ => inferInstance

instance : Related R (failAtError : Parser α) failAtError := by
  refine ⟨fun c d cursors ready => ?_⟩
  have ready' := Cursor.ready_of_related cursors ready
  have run : ∀ {e : Cursor}, e.fault = none →
      (failAtError : Parser α) e = fail (.stated e.current.describe) e := by
    intro e ready
    unfold failAtError
    rw [get_bind, ready]
    rfl
  rw [run ready, run ready']
  exact outcome_fail cursors _ _

theorem related_require {p q : Token → Bool} (what : String)
    (same : ∀ t u, Related R t u → Related R (p t) (q u)) :
    Related R (require p what) (require q what) := by
  refine ⟨fun c d cursors ready => ?_⟩
  have current := Cursor.related_current cursors ready
  have accepted : p c.current = q d.current := Bool.eq_of_related (same _ _ current)
  have ready' := Cursor.ready_of_related cursors ready
  unfold require
  simp only [Cursor.expect, ready, ready', accepted]
  cases q d.current with
  | true => exact .ok current (Cursor.related_advance cursors ready) (Cursor.ready_advance ready)
  | false =>
    exact .grammar (Cursor.related_diagnose cursors _ _) (Cursor.related_install cursors _ _) rfl rfl

instance (k : Keyword) : Related R (keyword k) (keyword k) :=
  related_require _ fun _ _ _ => inferInstance

instance (k : TokenKind) [k.Quiet] (what : String) : Related R (kind k what) (kind k what) :=
  related_require _ fun _ _ _ => inferInstance

instance (what : String) : Related R (word what) (word what) :=
  related_require _ fun _ _ _ => inferInstance

instance (what : String) : Related R (identifier what) (identifier what) :=
  related_require _ fun _ _ _ => inferInstance

instance : Related R variableName variableName := related_require _ fun _ _ _ => inferInstance

instance : Related R leftParen leftParen := by unfold leftParen; infer_instance

instance : Related R rightParen rightParen := by unfold rightParen; infer_instance

instance : Related R expectEnd expectEnd := by
  refine ⟨fun c d cursors ready => ?_⟩
  have ready' := Cursor.ready_of_related cursors ready
  have run : ∀ {e : Cursor}, e.fault = none →
      expectEnd e = (atEnd >>= fun done =>
        if done then pure () else failExpected "end of input" : Parser Unit) e := by
    intro e ready
    have looked : ∀ f : Bool → Parser Unit, (atEnd >>= f) e = f e.current.isEof e := fun _ => rfl
    unfold expectEnd
    rw [looked, looked]
    split
    · rfl
    · rw [get_bind, ready]
  rw [run ready, run ready']
  exact outcome inferInstance cursors ready

/-! ### Control -/

instance (f g : Fault) {p q : Parser α} [h : Related R p q] :
    Related R (context f p) (context g q) := by
  refine ⟨fun c d cursors ready => ?_⟩
  have inner := outcome h cursors ready
  unfold context
  generalize p c = reply at inner ⊢
  generalize q d = reply' at inner ⊢
  cases inner with
  | ok value cursors ready => exact .ok value cursors ready
  | grammar _ cursors _ _ => exact outcome_fail cursors f g
  | shape cursors => exact .shape cursors
  | unsupported cursors => exact .unsupported cursors

theorem related_withAssignment (assignment : Bool) {p q : Parser α} (h : Related R p q) :
    Related R (withAssignment assignment p) (withAssignment assignment q) := by
  refine ⟨fun c d cursors ready => ?_⟩
  have same := (Cursor.alike cursors).assignment
  have inner := outcome h (Cursor.related_setAssignment cursors (rfl : assignment = assignment)) ready
  unfold withAssignment
  generalize p (c.setAssignment assignment) = reply at inner ⊢
  generalize q (d.setAssignment assignment) = reply' at inner ⊢
  cases inner with
  | ok value cursors ready => exact .ok value (Cursor.related_setAssignment cursors same) ready
  | grammar x cursors fault fault' =>
    exact .grammar x (Cursor.related_setAssignment cursors same) fault fault'
  | shape cursors => exact .shape (Cursor.related_setAssignment cursors same)
  | unsupported cursors => exact .unsupported (Cursor.related_setAssignment cursors same)

instance (assignment : Bool) {p q : Parser α} [h : Related R p q] :
    Related R (withAssignment assignment p) (withAssignment assignment q) :=
  related_withAssignment assignment h

theorem related_recording {p q : Parser α} (h : Related R p q) :
    Related R (recording p) (recording q) := by
  refine ⟨fun c d cursors ready => ?_⟩
  have inner := outcome h (Cursor.related_beginRecording cursors) ready
  unfold recording
  generalize p c.beginRecording = reply at inner ⊢
  generalize q d.beginRecording = reply' at inner ⊢
  cases inner with
  | ok value cursors ready => exact .ok value (Cursor.related_endRecording cursors) ready
  | grammar x cursors fault fault' =>
    exact .grammar x (Cursor.related_endRecording cursors) fault fault'
  | shape cursors => exact .shape (Cursor.related_endRecording cursors)
  | unsupported cursors => exact .unsupported (Cursor.related_endRecording cursors)

instance {p q : Parser α} [h : Related R p q] : Related R (recording p) (recording q) :=
  related_recording h

/-- After an attempt, values are treated alike, grammar faults are treated alike in the cursors they
left, and other failures go on. -/
theorem related_attempt {p q : Parser α} {f g : Except Failure α → Parser β} (h : Related R p q)
    (values : ∀ a b, Related R a b → Related R (f (.ok a)) (g (.ok b)))
    (faults : ∀ {x y c d}, Related R x y → Related R c d → c.fault = some x → d.fault = some y →
      Outcome R (f (.error (.grammar x)) c) (g (.error (.grammar y)) d))
    (shapes : ∀ e, f (.error (.shape e)) = throw (.shape e) ∧ g (.error (.shape e)) = throw (.shape e))
    (others : ∀ what, f (.error (.unsupported what)) = throw (.unsupported what) ∧
      g (.error (.unsupported what)) = throw (.unsupported what)) :
    Related R (attempt p >>= f) (attempt q >>= g) := by
  refine ⟨fun c d cursors ready => ?_⟩
  have inner := outcome h cursors ready
  simp only [attempt, Bind.bind, EStateM.bind]
  generalize p c = reply at inner ⊢
  generalize q d = reply' at inner ⊢
  cases inner with
  | ok value cursors ready => exact outcome (values _ _ value) cursors ready
  | grammar x cursors fault fault' => exact faults x cursors fault fault'
  | @shape e e' _ _ cursors =>
    dsimp only
    rw [(shapes e).1, (shapes e').2]
    exact .shape cursors
  | @unsupported what _ _ cursors =>
    dsimp only
    rw [(others what).1, (others what).2]
    exact .unsupported cursors

/-! ### Loops -/

section Loops

variable [Relatable σ] {step step' : σ → Parser (Option σ)}

theorem related_rounds (steps : ∀ s s', Related R s s' → Related R (step s) (step' s')) :
    ∀ (limit : Nat) {s s' : σ}, Related R s s' →
      Related R (rounds step limit s) (rounds step' limit s')
  | 0, s, s', h => by
    unfold rounds
    infer_instance
  | limit + 1, s, s', h => by
    unfold rounds
    refine related_bind (steps s s' h) fun next next' more => ?_
    obtain ⟨rfl, rfl⟩ | ⟨t, t', rfl, rfl, inner⟩ := more.option
    · exact inferInstanceAs (Related R (pure s : Parser σ) (pure s'))
    · exact related_rounds steps limit inner

theorem related_loop (steps : ∀ s s', Related R s s' → Related R (step s) (step' s')) {s s' : σ}
    (h : Related R s s') : Related R (loop step s) (loop step' s') := by
  refine ⟨fun c d cursors ready => ?_⟩
  have lengths := (Cursor.alike cursors).ahead.length_eq
  have run : ∀ {step : σ → Parser (Option σ)} {s : σ} {e : Cursor},
      loop step s e = rounds step (e.ahead.length + 1) s e := rfl
  rw [run, run, lengths]
  exact outcome (related_rounds steps _ h) cursors ready

end Loops

theorem related_commaItem {item item' : Parser α} (h : Related R item item')
    {read read' : List α × List Token} (before : Related R read read') :
    Related R (commaItem item read) (commaItem item' read') := by
  unfold commaItem
  refine related_bind inferInstance fun comma comma' found => ?_
  obtain ⟨rfl, rfl⟩ | ⟨t, u, rfl, rfl, _⟩ := found.option
  · dsimp only
    infer_instance
  · refine related_bind h fun a b _ => ?_
    infer_instance

instance {a b : α} {item item' : Parser α} [h : Related R item item'] [Related R a b] :
    Related R (commaTail a item) (commaTail b item') :=
  related_loop (fun _ _ before => related_commaItem h before) inferInstance

instance {item item' : Parser α} [h : Related R item item'] :
    Related R (commaSeparated item) (commaSeparated item') :=
  related_bind h fun _ _ _ => inferInstance

/-! ### Tokens kept raw -/

theorem openParens_of_related {ts us : List Token} (h : Related R ts us) :
    openParens ts = openParens us := by
  refine List.rel_foldl (P := Eq) (R := R.tokens) ?_ rfl h.rel
  rintro depth _ rfl t u token
  dsimp only
  obtain same | ⟨_, _, left, right⟩ := Token.kind_of_related (R := R) ⟨token⟩
  · rw [same]
  · rw [left, right]

theorem closingDistance?_of_related {ts us : List Token} (h : Related R ts us) (depth : Nat) :
    closingDistance? depth ts = closingDistance? depth us := by
  have tokens : List.Forall₂ R.tokens ts us := h.rel
  clear h
  induction tokens generalizing depth with
  | nil => rfl
  | @cons t u ts us first _ rest =>
    obtain same | ⟨_, _, left, right⟩ := Token.kind_of_related (R := R) ⟨first⟩
    · unfold closingDistance?
      rw [same]
      simp only [rest]
    · unfold closingDistance?
      rw [left, right]
      simp only [rest]

theorem rawExtent_of_related {ts us : List Token} (h : Related R ts us) {stop : Token → Bool}
    (same : ∀ t u, Related R t u → Related R (stop t) (stop u)) :
    rawExtent stop ts = rawExtent stop us := by
  refine h.length_takeWhile fun t u token => ?_
  have stops := same t u token
  infer_instance

-- Faults are cleared first, so these two read on from cursors that have one.
theorem outcome_readToCloseParen {c d : Cursor} (cursors : Related R c d) :
    Outcome R (readToCloseParen c) (readToCloseParen d) := by
  have missing : ∀ {e : Cursor},
      closingDistance? (openParens e.clear.recorded) e.clear.ahead = none →
      readToCloseParen e = fail (.missing "')'") (e.clear.skip e.clear.ahead.length) := by
    intro e none
    unfold readToCloseParen
    rw [modify_bind, get_bind, none]
    rfl
  have found : ∀ {e : Cursor} {n : Nat},
      closingDistance? (openParens e.clear.recorded) e.clear.ahead = some n →
      readToCloseParen e = .ok ((e.clear.skip n).recorded, (e.clear.skip n).current)
        (e.clear.skip n).advance := by
    intro e n some
    unfold readToCloseParen
    rw [modify_bind, get_bind, some]
    rfl
  have cleared := Cursor.related_clear cursors
  have parens : openParens c.clear.recorded = openParens d.clear.recorded :=
    openParens_of_related (R := R) inferInstance
  have distance : closingDistance? (openParens c.clear.recorded) c.clear.ahead =
      closingDistance? (openParens d.clear.recorded) d.clear.ahead := by
    rw [parens]
    exact closingDistance?_of_related (R := R) inferInstance _
  have lengths := (Cursor.alike cleared).ahead.length_eq
  cases closing : closingDistance? (openParens d.clear.recorded) d.clear.ahead with
  | none =>
    rw [missing (distance.trans closing), missing closing, lengths]
    exact outcome_fail (Cursor.related_skip cleared rfl _) _ _
  | some n =>
    rw [found (distance.trans closing), found closing]
    have skipped := Cursor.related_skip cleared rfl n
    have ready := Cursor.ready_skip (c := c.clear) rfl n
    have current := Cursor.related_current skipped ready
    exact .ok inferInstance (Cursor.related_advance skipped ready) (Cursor.ready_advance ready)

instance : Related R readToCloseParen readToCloseParen :=
  ⟨fun _ _ cursors _ => outcome_readToCloseParen cursors⟩

theorem outcome_readToEnd {c d : Cursor} (cursors : Related R c d) :
    Outcome R (readToEnd c) (readToEnd d) := by
  have nothing : ∀ {e : Cursor}, (e.clear.skip e.ahead.length).recorded.getLast? = none →
      readToEnd e = (pure ((e.clear.skip e.ahead.length).recorded, none) : Parser _)
        (e.clear.skip e.ahead.length) := by
    intro e none
    unfold readToEnd
    rw [modify_bind, get_bind, none]
  have something : ∀ {e : Cursor} {t : Token},
      (e.clear.skip e.ahead.length).recorded.getLast? = some t →
      readToEnd e = (if t.kind = .semicolon then
          pure ((e.clear.skip e.ahead.length).recorded.dropLast, some t)
        else pure ((e.clear.skip e.ahead.length).recorded, none) : Parser _)
        (e.clear.skip e.ahead.length) := by
    intro e t some
    unfold readToEnd
    rw [modify_bind, get_bind, some]
  have skipped := Cursor.related_skip (Cursor.related_clear cursors) rfl d.ahead.length
  have ready := Cursor.ready_skip (c := c.clear) rfl d.ahead.length
  have same : c.ahead.length = d.ahead.length := (Cursor.alike cursors).ahead.length_eq
  have last : Related R (c.clear.skip d.ahead.length).recorded.getLast?
      (d.clear.skip d.ahead.length).recorded.getLast? := inferInstance
  obtain ⟨left, right⟩ | ⟨t, u, left, right, tokens⟩ := last.option
  · rw [nothing (same ▸ left), nothing right, same]
    exact outcome inferInstance skipped ready
  · have both : Related R
        (if t.kind = .semicolon then
          pure ((c.clear.skip d.ahead.length).recorded.dropLast, some t)
        else pure ((c.clear.skip d.ahead.length).recorded, none) : Parser _)
        (if u.kind = .semicolon then
          pure ((d.clear.skip d.ahead.length).recorded.dropLast, some u)
        else pure ((d.clear.skip d.ahead.length).recorded, none)) :=
      .ite (Token.kind_eq_iff tokens .semicolon) inferInstance inferInstance
    rw [something (same ▸ left), something right, same]
    exact outcome both skipped ready

end Parser

end TransactSql
