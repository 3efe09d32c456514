import TransactSql.Proofs.Parser.Repetition
import TransactSql.Proofs.Parser.Settling

/-!
# What stands behind an `AS` or a `;`

No rule looks behind an `AS` or a `;` at which it stands. So two token lists that differ only behind
such a fence are read in the same way as long as the fence is not taken. `Fork` is such a pair of
lists. A parser is local if its runs on the two do the same before the fence, or the first of them
goes beyond it. From there on the first run stays beyond, for no parser moves back, so whoever finds
it before the fence again knows that it never was.
-/

namespace TransactSql

theorem Cursor.length_advance {c : Cursor} (fault : c.fault = none) :
    c.advance.ahead.length = c.ahead.length - 1 := by
  cases ahead : c.ahead <;> simp [advance, advance?, skip, fault, ahead]

namespace Token

/-- An `AS` or a `;`. -/
def isFence (t : Token) : Bool := t.isKeyword .AS || t.kind == .semicolon

theorem not_isFence_of_isKeyword {t : Token} {k : Keyword} (here : t.isKeyword k = true)
    (other : k ≠ .AS) : t.isFence = false := by
  have word := isKeyword_iff.mp here
  simp [isFence, isKeyword, keyword?_eq_some_iff.mpr word, word, other]

theorem not_isFence_of_kind {t : Token} (paren : t.kind = .leftParen) : t.isFence = false := by
  simp [isFence, isKeyword, keyword?, TokenKind.keyword?, paren]

end Token

/-- A fence with two ways to go on. -/
structure Fork where
  word : Token
  isFence : word.isFence = true
  rest : List Token
  other : List Token

namespace Fork

variable (k : Fork) {c : Cursor}

/-- The cursor with the fence and `rest` behind the tokens ahead. -/
def here (c : Cursor) : Cursor := { c with ahead := c.ahead ++ k.word :: k.rest }

/-- The cursor with the fence and `other` behind the tokens ahead. -/
def there (c : Cursor) : Cursor := { c with ahead := c.ahead ++ k.word :: k.other }

def swap : Fork := { k with rest := k.other, other := k.rest }

/-- A fence is no `=`, so it is the same in every context. -/
theorem normalize_word (c : Cursor) : c.normalize k.word = k.word := by
  refine c.normalize_eq fun same => ?_
  have fence := k.isFence
  simp [Token.isFence, Token.isKeyword, Token.keyword?, TokenKind.keyword?, same] at fence

theorem rawCurrent_here : (k.here c).rawCurrent = c.ahead.headD k.word := by
  cases ahead : c.ahead <;> simp [here, Cursor.rawCurrent, ahead]

theorem rawCurrent_eq : (k.here c).rawCurrent = (k.there c).rawCurrent := by
  rw [k.rawCurrent_here]
  exact k.swap.rawCurrent_here.symm

theorem current_eq : (k.here c).current = (k.there c).current := by
  unfold Cursor.current
  rw [k.rawCurrent_eq]
  rfl

theorem diagnose_eq (f : Fault) : (k.here c).diagnose f = (k.there c).diagnose f := by
  unfold Cursor.diagnose
  rw [k.rawCurrent_eq]
  rfl

/-- Only at the fence, or after a fault, does the next token depend on the way. -/
theorem lookahead_eq_of_ne (source : (k.here c).current.isSource = true)
    (other : (k.here c).current ≠ k.word) : (k.here c).lookahead = (k.there c).lookahead := by
  cases ahead : c.ahead with
  | cons t ts => cases ts <;> simp [here, there, Cursor.lookahead, ahead]
  | nil =>
    unfold Cursor.current at source other
    rw [k.rawCurrent_here, ahead] at source other
    cases fault : c.fault with
    | some x =>
      rw [show (k.here c).fault = some x from fault] at source
      cases source
    | none =>
      rw [show (k.here c).fault = none from fault] at other
      exact absurd (k.normalize_word _) other

theorem lookahead_eq (source : (k.here c).current.isSource = true)
    (other : (k.here c).current.isFence = false) :
    (k.here c).lookahead = (k.there c).lookahead := by
  refine k.lookahead_eq_of_ne source fun same => ?_
  rw [same, k.isFence] at other
  cases other

theorem advance_here (stays : c.fault.isSome = true ∨ c.ahead ≠ []) :
    (k.here c).advance = k.here c.advance := by
  cases fault : c.fault with
  | some x => simp [here, Cursor.advance, Cursor.advance?, fault]
  | none =>
    cases ahead : c.ahead with
    | nil => simp [fault, ahead] at stays
    | cons t ts => simp [here, Cursor.advance, Cursor.advance?, Cursor.skip, fault, ahead]

theorem skip_here {n : Nat} (short : n ≤ c.ahead.length) :
    (k.here c).skip n = k.here (c.skip n) := by
  cases fault : c.fault with
  | some x => simp [here, Cursor.skip, fault]
  | none =>
    simp [here, Cursor.skip, fault, List.take_append_of_le_length short,
      List.drop_append_of_le_length short]

theorem skip_past {n : Nat} (fault : c.fault = none) (past : c.ahead.length < n) :
    ((k.here c).skip n).ahead.length ≤ k.rest.length := by
  simp only [here, Cursor.skip, fault, List.length_drop, List.length_append, List.length_cons]
  omega

end Fork

namespace Parser

/-- The cursor that an outcome leaves. -/
def endOf : EStateM.Result Failure Cursor α → Cursor
  | .ok _ d => d
  | .error _ d => d

/-- Both runs end in the same way before the fence, or the first one goes beyond it. -/
inductive InStep (k : Fork) :
    EStateM.Result Failure Cursor α → EStateM.Result Failure Cursor α → Prop
  | ok (a : α) {c : Cursor} (eof : c.eof.isEof = true) :
    InStep k (.ok a (k.here c)) (.ok a (k.there c))
  | error (e : Failure) {c : Cursor} (eof : c.eof.isEof = true) :
    InStep k (.error e (k.here c)) (.error e (k.there c))
  | strayed {reply reply' : EStateM.Result Failure Cursor α}
    (past : (endOf reply).ahead.length ≤ k.rest.length) : InStep k reply reply'

theorem InStep.exists_of_before {k : Fork} {a : α} {d : Cursor}
    {reply : EStateM.Result Failure Cursor α} (steps : InStep k (.ok a d) reply)
    (before : k.rest.length < d.ahead.length) :
    ∃ c, d = k.here c ∧ reply = .ok a (k.there c) := by
  cases steps with
  | ok => exact ⟨_, rfl, rfl⟩
  | strayed past => exact absurd before (Nat.not_lt.mpr past)

/-- What the parser does before a fence does not depend on what stands behind it. It reads no
routine, so it refuses none. -/
class Local (p : Parser α) : Prop where
  framed : Framed p := by infer_instance
  supported : ∀ {c d : Cursor} {what : String}, p c ≠ .error (.unsupported what) d
  inStep : ∀ (k : Fork) {c : Cursor}, c.eof.isEof = true → InStep k (p (k.here c)) (p (k.there c))

/-! ### Sequences and choices -/

/-- A run that is beyond the fence stays there. -/
theorem Framed.past {p : Parser α} (framed : Framed p) {n : Nat} {c : Cursor}
    (past : c.ahead.length ≤ n) : (endOf (p c)).ahead.length ≤ n := by
  obtain ⟨raw, moved⟩ := framed.moved c
  exact Nat.le_trans moved.length_le past

theorem bind_error {p : Parser α} {f : α → Parser β} {c d : Cursor} {e : Failure}
    (h : (p >>= f) c = .error e d) :
    p c = .error e d ∨ ∃ a e', p c = .ok a e' ∧ f a e' = .error e d := by
  cases run : p c with
  | ok a e' => exact .inr ⟨a, e', rfl, (bind_of_ok f run).symm.trans h⟩
  | error e' d' =>
    rw [bind_of_error f run] at h
    cases h
    exact .inl rfl

theorem Local.bind {p : Parser α} {f : α → Parser β} (first : Local p) (rest : ∀ a, Local (f a)) :
    Local (p >>= f) where
  framed := .bind first.framed fun a => (rest a).framed
  supported h := by
    rcases bind_error h with failed | ⟨a, e, _, failed⟩
    · exact first.supported failed
    · exact (rest a).supported failed
  inStep k c eof := by
    have start := first.inStep k eof
    simp only [Bind.bind, EStateM.bind]
    generalize p (k.here c) = reply at start ⊢
    generalize p (k.there c) = reply' at start ⊢
    cases start with
    | ok a eof => exact (rest a).inStep k eof
    | error e eof => exact .error e eof
    | strayed past =>
      cases reply with
      | ok a e => exact .strayed ((rest a).framed.past past)
      | error x e => exact .strayed past

instance {p : Parser α} {f : α → Parser β} [first : Local p] [rest : ∀ a, Local (f a)] :
    Local (p >>= f) := .bind first rest

instance (a : α) : Local (pure a : Parser α) where
  supported := nofun
  inStep _ _ eof := .ok a eof

theorem local_throw {e : Failure} (supported : ∀ what, e ≠ .unsupported what) :
    Local (throw e : Parser α) where
  supported h := by
    cases h
    exact supported _ rfl
  inStep _ _ eof := .error e eof

instance {b : Prop} [Decidable b] {p q : Parser α} [Local p] [Local q] :
    Local (if b then p else q) := by
  split <;> infer_instance

instance (made : Shaped α) : Local (build made) := by
  unfold build
  split
  · infer_instance
  · exact local_throw nofun

/-! ### Parsers of tokens -/

instance : Local current where
  supported := nofun
  inStep k c eof := by
    have run : ∀ d : Cursor, current d = .ok d.current d := fun _ => rfl
    rw [run, run, k.current_eq]
    exact .ok _ eof

instance : Local rawCurrent where
  supported := nofun
  inStep k c eof := by
    have run : ∀ d : Cursor, rawCurrent d = .ok d.rawCurrent d := fun _ => rfl
    rw [run, run, k.rawCurrent_eq]
    exact .ok _ eof

instance (kind : TokenKind) : Local (atKind kind) := by unfold atKind; infer_instance

instance (word : Keyword) : Local (atKeyword word) := by unfold atKeyword; infer_instance

theorem local_atKeywords {first : Keyword} (other : first ≠ .AS) (second : Keyword) :
    Local (atKeywords first second) where
  supported := nofun
  inStep k c eof := by
    have run : ∀ d : Cursor, atKeywords first second d =
        .ok (d.current.isKeyword first && d.lookahead.isKeyword second) d := fun _ => rfl
    rw [run, run, ← k.current_eq]
    cases here : (k.here c).current.isKeyword first with
    | false => exact .ok _ eof
    | true =>
      rw [k.lookahead_eq (Token.isSource_of_isKeyword here)
        (Token.not_isFence_of_isKeyword here other)]
      exact .ok _ eof

/-- One token is passed over, unless it is the fence. -/
theorem inStep_advance (k : Fork) (a : α) {c : Cursor} (eof : c.eof.isEof = true) :
    InStep k (.ok a (k.here c).advance) (.ok a (k.there c).advance) := by
  by_cases stays : c.fault.isSome = true ∨ c.ahead ≠ []
  · have advances : (k.there c).advance = k.there c.advance := k.swap.advance_here stays
    rw [k.advance_here stays, advances]
    obtain ⟨raw, moved⟩ := c.moved_advance
    exact .ok a (moved.eof ▸ eof)
  · simp only [not_or, Bool.not_eq_true, Option.isSome_eq_false_iff, Option.isNone_iff_eq_none,
      ne_eq, not_not] at stays
    refine .strayed ?_
    simp [endOf, Fork.here, Cursor.advance, Cursor.advance?, Cursor.skip, stays]

theorem inStep_skip (k : Fork) (a : α) {c : Cursor} (eof : c.eof.isEof = true) {n : Nat}
    (short : n ≤ c.ahead.length) :
    InStep k (.ok a ((k.here c).skip n)) (.ok a ((k.there c).skip n)) := by
  rw [k.skip_here short, show (k.there c).skip n = k.there (c.skip n) from k.swap.skip_here short]
  obtain ⟨raw, moved⟩ := c.moved_skip n
  exact .ok a (moved.eof ▸ eof)

instance : Local take where
  supported := nofun
  inStep k c eof := by
    have run : ∀ d : Cursor, take d = .ok d.current d.advance := fun _ => rfl
    rw [run, run, k.current_eq]
    exact inStep_advance k _ eof

theorem eat_eq (accepts : Token → Bool) (c : Cursor) : eat accepts c =
    if c.fault.isNone && accepts c.current then .ok (some c.current) c.advance else .ok none c := by
  change EStateM.Result.ok (c.expect accepts "" false).1 (c.expect accepts "" false).2 = _
  unfold Cursor.expect
  cases c.fault.isNone && accepts c.current <;> rfl

instance (accepts : Token → Bool) : Local (eat accepts) where
  supported := nofun
  inStep k c eof := by
    have fault : (k.there c).fault = (k.here c).fault := rfl
    rw [eat_eq, eat_eq, ← k.current_eq, fault]
    split
    · exact inStep_advance k _ eof
    · exact .ok _ eof

instance (word : Keyword) : Local (eatKeyword word) := by unfold eatKeyword; infer_instance

instance (words : List Keyword) : Local (eatAnyKeyword words) := by
  unfold eatAnyKeyword; infer_instance

instance (kind : TokenKind) : Local (eatKind kind) := by unfold eatKind; infer_instance

instance : Local optionalAs := by unfold optionalAs; infer_instance

/-! ### Failing -/

theorem inStep_fail (k : Fork) {c : Cursor} (eof : c.eof.isEof = true) (f : Fault) :
    InStep (α := α) k (fail f (k.here c)) (fail f (k.there c)) := by
  have run : ∀ d : Cursor, (fail f : Parser α) d =
      .error (.grammar (d.diagnose f)) { d with fault := some (d.diagnose f) } := fun _ => rfl
  rw [run, run, k.diagnose_eq]
  exact .error (c := { c with fault := some ((k.there c).diagnose f) }) _ eof

instance (f : Fault) : Local (fail f : Parser α) where
  supported := nofun
  inStep k _ eof := inStep_fail k eof f

instance (what : String) : Local (failExpected what : Parser α) := by
  unfold failExpected; infer_instance

instance : Local (failAtError : Parser α) where
  supported {c d what} h := by
    unfold failAtError at h
    rw [get_bind] at h
    generalize c.fault = fault at h
    cases fault <;> cases h
  inStep k c eof := by
    unfold failAtError
    rw [get_bind, get_bind]
    have fault : (k.here c).fault = (k.there c).fault := rfl
    rw [fault]
    cases (k.there c).fault with
    | some d => exact .error _ eof
    | none => exact Local.inStep k eof

instance (accepts : Token → Bool) (what : String) : Local (require accepts what) where
  supported {c d what} h := by
    unfold require at h
    split at h <;> cases h
  inStep k c eof := by
    have run : ∀ d : Cursor, require accepts what d =
        if d.fault.isNone && accepts d.current then .ok d.current d.advance
        else fail (if d.fault.isSome then .expected what
          else .expectedFound what d.current.describe) d := by
      intro d
      unfold require Cursor.expect
      cases d.fault.isNone && accepts d.current <;> rfl
    have fault : (k.there c).fault = (k.here c).fault := rfl
    rw [run, run, ← k.current_eq, fault]
    split
    · exact inStep_advance k _ eof
    · exact inStep_fail k eof _

instance (word : Keyword) : Local (keyword word) := by unfold keyword; infer_instance

instance (kind : TokenKind) (what : String) : Local (Parser.kind kind what) := by
  unfold Parser.kind; infer_instance

instance (what : String) : Local (word what) := by unfold word; infer_instance

instance (what : String) : Local (identifier what) := by unfold identifier; infer_instance

instance : Local variableName := by unfold variableName; infer_instance

instance : Local leftParen := by unfold leftParen; infer_instance

instance : Local rightParen := by unfold rightParen; infer_instance

/-! ### Control -/

instance (f : Fault) (p : Parser α) [inner : Local p] : Local (context f p) where
  framed :=
    have := inner.framed
    inferInstance
  supported {c d what} h := by
    unfold context at h
    split at h
    · cases h
    · exact inner.supported h
  inStep k c eof := by
    have inside := inner.inStep k eof
    unfold context
    generalize p (k.here c) = reply at inside ⊢
    generalize p (k.there c) = reply' at inside ⊢
    cases inside with
    | ok a eof => exact .ok a eof
    | error e eof =>
      cases e with
      | grammar x => exact inStep_fail k eof f
      | _ => exact .error _ eof
    | strayed past =>
      cases reply with
      | ok a d => exact .strayed past
      | error e d => cases e <;> exact .strayed past

theorem Local.withAssignment {p : Parser α} (assignment : Bool) (inner : Local p) :
    Local (Parser.withAssignment assignment p) where
  framed := inner.framed.withAssignment assignment
  supported {c d what} h := by
    unfold Parser.withAssignment at h
    split at h
    · cases h
    · next run =>
      cases h
      exact inner.supported run
  inStep k c eof := by
    have inside := inner.inStep k (c := c.setAssignment assignment) eof
    unfold Parser.withAssignment
    rw [show (k.here c).setAssignment assignment = k.here (c.setAssignment assignment) from rfl,
      show (k.there c).setAssignment assignment = k.there (c.setAssignment assignment) from rfl]
    generalize p (k.here (c.setAssignment assignment)) = reply at inside ⊢
    generalize p (k.there (c.setAssignment assignment)) = reply' at inside ⊢
    cases inside with
    | @ok a d eof => exact .ok (c := d.setAssignment c.assignment) a eof
    | @error e d eof => exact .error (c := d.setAssignment c.assignment) e eof
    | strayed past => cases reply <;> exact .strayed past

instance (assignment : Bool) (p : Parser α) [inner : Local p] :
    Local (withAssignment assignment p) :=
  inner.withAssignment assignment

theorem Local.recording {p : Parser α} (inner : Local p) : Local (Parser.recording p) where
  framed := inner.framed.recording
  supported {c d what} h := by
    unfold Parser.recording at h
    split at h
    · cases h
    · next run =>
      cases h
      exact inner.supported run
  inStep k c eof := by
    have inside := inner.inStep k (c := c.beginRecording) eof
    unfold Parser.recording
    rw [show (k.here c).beginRecording = k.here c.beginRecording from rfl,
      show (k.there c).beginRecording = k.there c.beginRecording from rfl]
    generalize p (k.here c.beginRecording) = reply at inside ⊢
    generalize p (k.there c.beginRecording) = reply' at inside ⊢
    cases inside with
    | @ok a d eof => exact .ok (c := d.endRecording) a eof
    | @error e d eof => exact .error (c := d.endRecording) e eof
    | strayed past => cases reply <;> exact .strayed past

instance (p : Parser α) [inner : Local p] : Local (recording p) := inner.recording

/-- What follows an attempt need not do anything for a construct that is refused. -/
theorem local_attempt_bind {p : Parser α} [inner : Local p] {f : Except Failure α → Parser β}
    (framed : ∀ r, Framed (f r)) (ok : ∀ a, Local (f (.ok a)))
    (error : ∀ {e}, (∀ what, e ≠ .unsupported what) → Local (f (.error e))) :
    Local (attempt p >>= f) where
  framed :=
    have := inner.framed
    .bind inferInstance framed
  supported {c d what} h := by
    rw [attempt_bind] at h
    split at h
    · exact (ok _).supported h
    · next run => exact (error fun _ same => inner.supported (same ▸ run)).supported h
  inStep k c eof := by
    have inside := inner.inStep k eof
    have supported : ∀ {d what}, p (k.here c) ≠ .error (.unsupported what) d := inner.supported
    rw [attempt_bind, attempt_bind]
    generalize p (k.here c) = reply at inside supported ⊢
    generalize p (k.there c) = reply' at inside ⊢
    cases inside with
    | ok a eof => exact (ok a).inStep k eof
    | error e eof =>
      refine (error fun what same => ?_).inStep k eof
      exact supported (congrArg (EStateM.Result.error · _) same)
    | strayed past => cases reply <;> exact .strayed ((framed _).past past)

/-! ### Loops -/

/-- As long as the fence is not taken, every round takes a token before it. So neither run is stopped
by its bound. -/
theorem inStep_rounds {step : σ → Parser (Option σ)} [advances : Advances step]
    [steps : ∀ s, Local (step s)] (k : Fork) {limit limit' : Nat} {s : σ} {c : Cursor}
    (eof : c.eof.isEof = true) (enough : c.ahead.length < limit)
    (enough' : c.ahead.length < limit') :
    InStep k (rounds step limit s (k.here c)) (rounds step limit' s (k.there c)) := by
  induction limit generalizing limit' s c with
  | zero => exact absurd enough (Nat.not_lt_zero _)
  | succ limit ih =>
    obtain ⟨limit', rfl⟩ := Nat.exists_eq_add_one_of_ne_zero (Nat.ne_zero_of_lt enough')
    have framed := fun s => (steps s).framed
    have round := (steps s).inStep k eof
    have shortens : ∀ {t d}, step s (k.here c) = .ok (some t) d → (k.here c).Shortens d :=
      advances.shortens eof
    unfold rounds
    simp only [Bind.bind, EStateM.bind]
    generalize step s (k.here c) = reply at round shortens ⊢
    generalize step s (k.there c) = reply' at round ⊢
    cases round with
    | @ok next d eof =>
      cases next with
      | none => exact .ok s eof
      | some t =>
        have taken : (k.here d).ahead.length < (k.here c).ahead.length := shortens rfl
        simp only [Fork.here, List.length_append] at taken
        exact ih eof (by omega) (by omega)
    | error e eof => exact .error e eof
    | strayed past =>
      cases reply with
      | error e d => exact .strayed past
      | ok next d =>
        cases next with
        | none => exact .strayed past
        | some t =>
          have framed : Framed (rounds step limit t) := inferInstance
          exact .strayed (framed.past past)

theorem rounds_supported {step : σ → Parser (Option σ)} [steps : ∀ s, Local (step s)] {limit : Nat}
    {s : σ} {c d : Cursor} {what : String} :
    rounds step limit s c ≠ .error (.unsupported what) d := by
  intro h
  induction limit generalizing s c with
  | zero => cases h
  | succ limit ih =>
    unfold rounds at h
    rcases bind_error h with failed | ⟨next, e, _, failed⟩
    · exact (steps s).supported failed
    · cases next with
      | none => cases failed
      | some t => exact ih failed

instance {step : σ → Parser (Option σ)} [Advances step] [steps : ∀ s, Local (step s)] (s : σ) :
    Local (loop step s) where
  framed :=
    have := fun s => (steps s).framed
    inferInstance
  supported h := rounds_supported h
  inStep k c eof := by
    have run : ∀ d : Cursor, loop step s d = rounds step (d.ahead.length + 1) s d := fun _ => rfl
    rw [run, run]
    refine inStep_rounds k eof ?_ ?_
    · simp only [Fork.here, List.length_append]
      omega
    · simp only [Fork.there, List.length_append]
      omega

instance (item : Parser α) [Local item] (read : List α × List Token) :
    Local (commaItem item read) := by
  unfold commaItem
  refine .bind inferInstance fun comma => ?_
  split <;> infer_instance

/-! ### Tokens kept raw -/

/-- How far a run of tokens goes is told by the tokens in it and the one that ends it. -/
class Bounded (extent : List Token → Nat) : Prop where
  eq : ∀ {ts : List Token} {t : Token} {rest : List Token} (other : List Token),
    extent (ts ++ t :: rest) ≤ ts.length → extent (ts ++ t :: other) = extent (ts ++ t :: rest)

/-- An extent that is found token by token, each time with what has been seen before. -/
theorem bounded_of_cons (extent : σ → List Token → Nat)
    (cons : ∀ s t, (∀ ts, extent s (t :: ts) = 0) ∨
      ∃ next, ∀ ts, extent s (t :: ts) = extent next ts + 1)
    (s : σ) : Bounded (extent s) where
  eq {ts t rest} other short := by
    induction ts generalizing s with
    | nil =>
      rcases cons s t with stops | ⟨next, goesOn⟩
      · rw [List.nil_append, List.nil_append, stops, stops]
      · rw [List.nil_append, goesOn] at short
        exact absurd short (Nat.not_succ_le_zero _)
    | cons u ts ih =>
      rcases cons s u with stops | ⟨next, goesOn⟩
      · rw [List.cons_append, List.cons_append, stops, stops]
      · rw [List.cons_append, goesOn] at short
        rw [List.cons_append, List.cons_append, goesOn, goesOn,
          ih next (Nat.le_of_succ_le_succ short)]

instance (accepts : Token → Bool) : Bounded fun ts => (ts.takeWhile accepts).length := by
  refine bounded_of_cons (fun (_ : Unit) ts => (ts.takeWhile accepts).length) (fun _ t => ?_) ()
  cases accepted : accepts t with
  | false => exact .inl fun ts => by simp [accepted]
  | true => exact .inr ⟨(), fun ts => by simp [accepted]⟩

instance (extent : List Token → Nat) [bounded : Bounded extent] : Local (takeRun extent) where
  supported := nofun
  inStep k c eof := by
    cases fault : c.fault with
    | some x =>
      rw [takeRun_of_fault (c := k.here c) fault, takeRun_of_fault (c := k.there c) fault]
      exact .ok _ eof
    | none =>
      rw [takeRun_of_ready (c := k.here c) fault, takeRun_of_ready (c := k.there c) fault]
      by_cases short : extent (k.here c).ahead ≤ c.ahead.length
      · rw [show extent (k.there c).ahead = extent (k.here c).ahead from bounded.eq k.other short]
        generalize extent (k.here c).ahead = n at short
        have taken : (k.here c).ahead.take n = (k.there c).ahead.take n := by
          simp [Fork.here, Fork.there, List.take_append_of_le_length short]
        rw [taken]
        exact inStep_skip k _ eof short
      · exact .strayed (k.skip_past fault (by omega))

theorem closingDistance?_cons (depth : Nat) (t : Token) :
    (∀ ts, closingDistance? depth (t :: ts) = some 0) ∨
      ∃ next, ∀ ts, closingDistance? depth (t :: ts) = (closingDistance? next ts).map (· + 1) := by
  cases kind : t.kind
  case rightParen =>
    cases depth with
    | zero => exact .inl fun ts => by simp [closingDistance?, kind]
    | succ depth => exact .inr ⟨depth, fun ts => by simp [closingDistance?, kind]⟩
  case leftParen => exact .inr ⟨depth + 1, fun ts => by simp [closingDistance?, kind]⟩
  all_goals exact .inr ⟨depth, fun ts => by simp [closingDistance?, kind]⟩

/-- The closing parenthesis is among the tokens, or behind them if anywhere. -/
theorem closingDistance?_append (depth : Nat) (ts : List Token) :
    (∃ n < ts.length, ∀ rest, closingDistance? depth (ts ++ rest) = some n) ∨
      ∀ {rest n}, closingDistance? depth (ts ++ rest) = some n → ts.length ≤ n := by
  induction ts generalizing depth with
  | nil => exact .inr fun _ => Nat.zero_le _
  | cons t ts ih =>
    rcases closingDistance?_cons depth t with first | ⟨next, later⟩
    · exact .inl ⟨0, Nat.succ_pos _, fun rest => first _⟩
    · rcases ih next with ⟨n, inside, found⟩ | beyond
      · refine .inl ⟨n + 1, Nat.succ_lt_succ inside, fun rest => ?_⟩
        rw [List.cons_append, later, found]
        rfl
      · refine .inr fun {rest n} found => ?_
        rw [List.cons_append, later, Option.map_eq_some_iff] at found
        obtain ⟨m, found, rfl⟩ := found
        exact Nat.succ_le_succ (beyond found)

instance : Local readToCloseParen where
  supported h := by
    unfold readToCloseParen at h
    simp only [modify_bind, get_bind] at h
    generalize closingDistance? _ _ = distance at h
    cases distance <;> cases h
  inStep k c eof := by
    have run : ∀ d : Cursor, readToCloseParen d =
        match closingDistance? (openParens d.recorded) d.ahead with
        | none => fail (.missing "')'") (d.clear.skip d.ahead.length)
        | some n =>
          .ok ((d.clear.skip n).recorded, (d.clear.skip n).current) (d.clear.skip n).advance := by
      intro d
      unfold readToCloseParen
      simp only [modify_bind, get_bind]
      change (match closingDistance? (openParens d.recorded) d.ahead with
        | none => _
        | some n => _ : Parser (List Token × Token)) d.clear = _
      cases closingDistance? (openParens d.recorded) d.ahead <;> rfl
    rw [run, run]
    have recorded : (k.there c).recorded = (k.here c).recorded := rfl
    rcases closingDistance?_append (openParens (k.here c).recorded) c.ahead with
      ⟨n, inside, found⟩ | beyond
    · rw [recorded, show closingDistance? _ (k.here c).ahead = some n from found _,
        show closingDistance? _ (k.there c).ahead = some n from found _]
      dsimp only
      have skipped : (k.here c).clear.skip n = k.here (c.clear.skip n) :=
        k.skip_here (c := c.clear) (Nat.le_of_lt inside)
      have skipped' : (k.there c).clear.skip n = k.there (c.clear.skip n) :=
        k.swap.skip_here (c := c.clear) (Nat.le_of_lt inside)
      obtain ⟨raw, moved⟩ := c.clear.moved_skip n
      rw [skipped, skipped', k.current_eq]
      exact inStep_advance k _ (moved.eof ▸ eof)
    · refine .strayed ?_
      cases found : closingDistance? (openParens (k.here c).recorded) (k.here c).ahead with
      | none => simp [endOf, fail, Cursor.install, Cursor.skip, Cursor.clear]
      | some n =>
        have past := beyond found
        have left : ((k.here c).clear.skip n).advance.ahead.length = _ := Cursor.length_advance rfl
        have length : ((k.here c).clear.skip n).ahead.length =
            c.ahead.length + (k.rest.length + 1) - n := by
          simp [Cursor.skip, Cursor.clear, Fork.here]
        change ((k.here c).clear.skip n).advance.ahead.length ≤ k.rest.length
        omega

end Parser

end TransactSql
