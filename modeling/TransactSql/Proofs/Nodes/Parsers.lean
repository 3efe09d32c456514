import TransactSql.Proofs.Expr.Checked
import TransactSql.Proofs.Nodes.Values

/-!
# Parsers whose values are sound

A parser is trusted in a context if what it gives there is sound. The tokens that are ahead or
recorded have to be as they were lexed, where `=` is always a comparison.
-/

namespace TransactSql

/-- All tokens ahead and recorded are as they were lexed. -/
structure Cursor.Lexed (c : Cursor) : Prop where
  eof : c.eof.isEof = true
  blank : c.eof.text = ""
  ahead : ∀ t ∈ c.ahead, t.isForeign = false
  recorded : ∀ read ∈ c.recordings, ∀ t ∈ read, t.isForeign = false

namespace Cursor.Lexed

variable {c d : Cursor}

theorem moved {raw : List Token} (lexed : c.Lexed) (moved : c.Moved raw d) : d.Lexed := by
  have all := lexed.ahead
  rw [moved.ahead, List.forall_mem_append] at all
  refine ⟨moved.eof ▸ lexed.eof, moved.eof ▸ lexed.blank, all.2, ?_⟩
  intro read member t found
  rw [moved.recordings] at member
  obtain ⟨before, old, rfl⟩ := List.mem_map.mp member
  rcases List.mem_append.mp found with earlier | passed
  · exact lexed.recorded before old t earlier
  · exact all.1 t passed

theorem setAssignment (lexed : c.Lexed) (assignment : Bool) : (c.setAssignment assignment).Lexed :=
  { lexed with }

theorem beginRecording (lexed : c.Lexed) : c.beginRecording.Lexed := by
  refine { lexed with recorded := ?_ }
  intro read member
  cases member with
  | head => exact nofun
  | tail _ old => exact lexed.recorded read old

theorem recorded_eq (lexed : c.Lexed) : ∀ t ∈ c.recorded, t.isForeign = false := by
  intro t member
  unfold Cursor.recorded at member
  cases found : c.recordings with
  | nil =>
    rw [found] at member
    cases member
  | cons read rest =>
    rw [found] at member
    exact lexed.recorded read (by simp [found]) t member

theorem isForeign_eof (lexed : c.Lexed) : c.eof.isForeign = false := by
  have kind := lexed.eof
  rw [Token.isEof, beq_iff_eq] at kind
  simp [Token.isForeign, Token.isSign, kind, lexed.blank]

theorem isForeign_headD (lexed : c.Lexed) {ts : List Token} (known : ∀ t ∈ ts, t ∈ c.ahead) :
    (ts.headD c.eof).isForeign = false := by
  cases ts with
  | nil => exact lexed.isForeign_eof
  | cons t rest => exact lexed.ahead t (known t List.mem_cons_self)

theorem isForeign_current (lexed : c.Lexed) (comparison : c.assignment = false) :
    c.current.isForeign = false := by
  unfold Cursor.current
  split
  · rfl
  · rw [Cursor.normalize, comparison]
    exact lexed.isForeign_headD fun _ member => member

end Cursor.Lexed

namespace Parser

variable {b : Bool}

/-- What the parser gives is sound if the context is the given one. -/
class Trusted (b : Bool) [Parts α] (p : Parser α) : Prop where
  sound : ∀ {c d : Cursor} {a : α}, c.Lexed → c.assignment = b → p c = .ok a d → Sound b a

theorem Framed.lexed {p : Parser α} [Framed p] {c d : Cursor} {a : α} (lexed : c.Lexed)
    (h : p c = .ok a d) : d.Lexed := by
  obtain ⟨_, moved⟩ := Framed.ok h
  exact lexed.moved moved

theorem Framed.assignment {p : Parser α} [Framed p] {c d : Cursor} {a : α} (context : c.assignment = b)
    (h : p c = .ok a d) : d.assignment = b := by
  obtain ⟨_, moved⟩ := Framed.ok h
  rw [moved.assignment, context]

section

variable [Parts α] [Parts β]

/-! ### Sequences and choices -/

instance (a : α) [h : Sound b a] : Trusted b (pure a : Parser α) where
  sound _ _ run := by
    cases run
    exact h

instance (e : Failure) : Trusted b (throw e : Parser α) := ⟨fun _ _ run => by cases run⟩

instance (f : Fault) : Trusted b (fail f : Parser α) := ⟨fun _ _ run => by cases run⟩

instance (what : String) : Trusted b (failExpected what : Parser α) :=
  ⟨fun _ _ run => absurd run failExpected_ok⟩

instance : Trusted b (failAtError : Parser α) := ⟨fun _ _ run => absurd run failAtError_ok⟩

omit [Parts α] in
/-- What follows a part of which something is known. -/
theorem Trusted.bind_known {p : Parser α} {f : α → Parser β} [Framed p] {Q : α → Prop}
    (known : ∀ {c d : Cursor} {a : α}, c.Lexed → c.assignment = b → p c = .ok a d → Q a)
    (rest : ∀ a, Q a → Trusted b (f a)) : Trusted b (p >>= f) where
  sound lexed context run := by
    obtain ⟨a, d, run, more⟩ := bind_ok run
    have given := known lexed context run
    exact (rest a given).sound (Framed.lexed lexed run) (Framed.assignment context run) more

theorem Trusted.bind {p : Parser α} {f : α → Parser β} [Framed p] (first : Trusted b p)
    (rest : ∀ a : {a : α // Sound b a}, Trusted b (f a.1)) : Trusted b (p >>= f) :=
  .bind_known first.sound fun a given => rest ⟨a, given⟩

instance {p : Parser α} {f : α → Parser β} [Framed p] [first : Trusted b p]
    [rest : ∀ a : {a : α // Sound b a}, Trusted b (f a.1)] : Trusted b (p >>= f) := .bind first rest

/-- What follows an optional part, by whether the part is there. -/
theorem Trusted.option {p : Parser (Option α)} {f : Option α → Parser β} [Framed p] [first : Trusted b p]
    (none : Trusted b (f none)) (some : ∀ a : {a : α // Sound b a}, Trusted b (f (some a.1))) :
    Trusted b (p >>= f) := by
  refine .bind first fun found => ?_
  obtain ⟨_ | a, sound⟩ := found
  · exact none
  · exact some ⟨a, Sound.some_iff.mp sound⟩

/-- Nothing is read behind a failure. -/
instance (f : Fault) (k : α → Parser β) : Trusted b ((fail f : Parser α) >>= k) :=
  ⟨fun _ _ run => by cases run⟩

instance {h : Prop} [Decidable h] {p q : Parser α} [Trusted b p] [Trusted b q] :
    Trusted b (if h then p else q) := by
  split <;> infer_instance

/-! ### Making nodes -/

/-- What is made of parts that pass the checks. -/
theorem Trusted.build {made : Shaped α} {a : α} [Shaped.Makes made a]
    (given : made.isOk = true → Sound b a) : Trusted b (Parser.build made) where
  sound _ _ run := by
    cases outcome : made with
    | error e =>
      rw [outcome] at run
      cases run
    | ok made =>
      obtain ⟨rfl, rfl⟩ := build_ok run
      exact given (by rw [outcome]; rfl)

instance {made : Shaped α} {a : α} [Shaped.Makes made a] [h : Sound b a] :
    Trusted b (build made) := .build fun _ => h

/-! ### Control -/

instance (f : Fault) (p : Parser α) [h : Trusted b p] : Trusted b (context f p) where
  sound lexed context run := h.sound lexed context (context_ok run)

/-- What is read where `=` is a comparison is sound in every context. -/
theorem Trusted.comparison {p : Parser α} (h : Trusted false p) : Trusted b (withAssignment false p) where
  sound lexed _ run := by
    obtain ⟨_, _, run⟩ := withAssignment_ok run
    exact (h.sound (lexed.setAssignment false) rfl run).mono

instance (p : Parser α) [h : Trusted false p] : Trusted b (withAssignment false p) := h.comparison

theorem Trusted.recording {p : Parser α} (h : Trusted b p) : Trusted b (Parser.recording p) where
  sound {c d a} lexed context run := by
    obtain ⟨_, _, run⟩ := recording_ok run
    exact h.sound (c := c.beginRecording) lexed.beginRecording context run

instance (p : Parser α) [h : Trusted b p] : Trusted b (recording p) := h.recording

/-- A failure is passed on as a value, and it says nothing of the text. -/
theorem Trusted.attempt {p : Parser α} {k : Except Failure α → Parser β} [Framed p]
    (first : Trusted b p) (ok : ∀ a : {a : α // Sound b a}, Trusted b (k (.ok a.1)))
    (error : ∀ e, Trusted b (k (.error e))) : Trusted b (Parser.attempt p >>= k) where
  sound {c d a} lexed context run := by
    rw [attempt_bind] at run
    split at run
    · next a e first' =>
      have given := first.sound lexed context first'
      exact (ok ⟨a, given⟩).sound (Framed.lexed lexed first') (Framed.assignment context first') run
    · next f e first' =>
      obtain ⟨_, moved⟩ := Framed.error first'
      exact (error f).sound (lexed.moved moved) (moved.assignment.trans context) run

theorem Trusted.loop {σ : Type} [Parts σ] {step : σ → Parser (Option σ)} [∀ s, Framed (step s)]
    (steps : ∀ s : {s : σ // Sound b s}, Trusted b (step s.1)) (s : σ) [start : Sound b s] :
    Trusted b (loop step s) where
  sound {c d t} lexed context run := by
    have inv := loop_invariant (fun s c => Sound b s ∧ c.Lexed ∧ c.assignment = b)
      (fun {s c next d} inv round => ?_) ⟨start, lexed, context⟩ run
    · exact inv.1
    · obtain ⟨sound, lexed, context⟩ := inv
      have given := (steps ⟨s, sound⟩).sound lexed context round
      refine ⟨?_, Framed.lexed lexed round, Framed.assignment context round⟩
      cases next with
      | none => exact sound
      | some s => exact Sound.some_iff.mp given

instance {σ : Type} [Parts σ] {step : σ → Parser (Option σ)} [∀ s, Framed (step s)]
    [steps : ∀ s : {s : σ // Sound b s}, Trusted b (step s.1)] (s : σ) [Sound b s] :
    Trusted b (loop step s) := .loop steps s

end

/-! ### Looking -/

instance : Trusted b current where
  sound lexed context run := by
    cases run
    subst context
    exact Token.sound_iff.mpr lexed.isForeign_current

instance : Trusted b lookahead where
  sound {c _ _} lexed _ run := by
    cases run
    exact Token.sound_of_not_isForeign
      (lexed.isForeign_headD fun t member => List.mem_of_mem_tail member)

instance : Trusted b rawCurrent where
  sound {c _ _} lexed _ run := by
    cases run
    exact Token.sound_of_not_isForeign (lexed.isForeign_headD fun t member => member)

instance (p : Parser Bool) : Trusted b p := ⟨fun _ _ _ => inferInstance⟩

instance (p : Parser Unit) : Trusted b p := ⟨fun _ _ _ => inferInstance⟩

/-! ### Taking tokens -/

instance : Trusted b take where
  sound lexed context run := by
    cases run
    subst context
    exact Token.sound_iff.mpr lexed.isForeign_current

instance (p : Token → Bool) : Trusted b (eat p) where
  sound {c d found} lexed context run := by
    rcases eat_ok run with ⟨rfl, _, _⟩ | ⟨rfl, _⟩
    · subst context
      exact Sound.some_iff.mpr (Token.sound_iff.mpr lexed.isForeign_current)
    · infer_instance

instance (k : Keyword) : Trusted b (eatKeyword k) := by unfold eatKeyword; infer_instance

instance (ks : List Keyword) : Trusted b (eatAnyKeyword ks) := by
  unfold eatAnyKeyword; infer_instance

instance (k : TokenKind) : Trusted b (eatKind k) := by unfold eatKind; infer_instance

instance (p : Token → Bool) (what : String) : Trusted b (require p what) where
  sound lexed context run := by
    obtain ⟨rfl, _⟩ := require_ok run
    subst context
    exact Token.sound_iff.mpr lexed.isForeign_current

instance (k : Keyword) : Trusted b (keyword k) := by unfold keyword; infer_instance

instance (k : TokenKind) (what : String) : Trusted b (kind k what) := by unfold kind; infer_instance

instance (what : String) : Trusted b (word what) := by unfold word; infer_instance

instance (what : String) : Trusted b (identifier what) := by unfold identifier; infer_instance

instance : Trusted b variableName := by unfold variableName; infer_instance

instance : Trusted b leftParen := by unfold leftParen; infer_instance

instance : Trusted b rightParen := by unfold rightParen; infer_instance

theorem trusted_getD {p : Parser (Option Token)} [Framed p] [Trusted b p] :
    Trusted b (do return (← p).getD .placeholder) :=
  .option (inferInstanceAs (Trusted b (pure Token.placeholder)))
    fun t => inferInstanceAs (Trusted b (pure t.1))

instance : Trusted b terminator := trusted_getD

instance : Trusted b optionalAs := trusted_getD

/-! ### Tokens kept raw -/

theorem sound_tokens {ts : List Token} (native : ∀ t ∈ ts, t.isForeign = false) : Sound b ts :=
  Sound.list_iff.mpr fun t member => Token.sound_of_not_isForeign (native t member)

/-- Where `=` is a comparison a run of tokens is as it was lexed. -/
instance (extent : List Token → Nat) : Trusted false (takeRun extent) where
  sound {c d ts} lexed context run := by
    cases fault : c.fault with
    | some x =>
      rw [takeRun_of_fault fault] at run
      cases run
      infer_instance
    | none =>
      rw [takeRun_of_ready fault] at run
      cases run
      refine sound_tokens fun t member => ?_
      obtain ⟨u, taken, rfl⟩ := List.mem_map.mp member
      rw [Cursor.normalize, context]
      exact lexed.ahead u (List.mem_of_mem_take taken)

instance : Trusted false readToCloseParen where
  sound {c d read} lexed context run := by
    have cleared := lexed.moved c.moved_clear
    unfold readToCloseParen at run
    simp only [modify_bind, get_bind] at run
    cases distance : closingDistance? (openParens c.clear.recorded) c.clear.ahead with
    | none =>
      rw [distance] at run
      obtain ⟨_, _, _, run⟩ := bind_ok run
      exact absurd run fail_ok
    | some n =>
      rw [distance] at run
      simp only [modify_bind, get_bind, take_bind] at run
      obtain ⟨moved, _, _⟩ := moved_skip_of_fault (c := c.clear) rfl n
      have skipped := cleared.moved moved
      cases run
      -- The contents are as they were recorded; only the `)` is read in the context.
      refine Sound.pair_iff.mpr ⟨sound_tokens skipped.recorded_eq, ?_⟩
      exact Token.sound_of_not_isForeign (skipped.isForeign_current (moved.assignment.trans context))

instance : Trusted false readToEnd where
  sound {c d read} lexed context run := by
    obtain ⟨moved, _, _⟩ := moved_skip_of_fault (c := c.clear) rfl c.ahead.length
    have all := ((lexed.moved c.moved_clear).moved moved).recorded_eq
    unfold readToEnd at run
    simp only [modify_bind, get_bind] at run
    generalize (c.clear.skip c.ahead.length).recorded = tokens at all run
    cases found : tokens.getLast? with
    | none =>
      rw [found] at run
      cases run
      exact Sound.pair_iff.mpr ⟨sound_tokens all, inferInstance⟩
    | some t =>
      rw [found] at run
      have final : t.isForeign = false := all t (List.mem_of_getLast? found)
      dsimp only at run
      split at run
      · cases run
        have known : ∀ u ∈ tokens.dropLast, u.isForeign = false := fun u member =>
          all u (List.dropLast_subset tokens member)
        exact Sound.pair_iff.mpr
          ⟨sound_tokens known, Sound.some_iff.mpr (Token.sound_of_not_isForeign final)⟩
      · cases run
        exact Sound.pair_iff.mpr ⟨sound_tokens all, inferInstance⟩

/-! ### Comma lists -/

section

variable [Parts α]

instance (item : Parser α) [Framed item] [Trusted b item] (read : List α × List Token) [Sound b read] :
    Trusted b (commaItem item read) := by
  unfold commaItem
  exact .option inferInstance fun comma => inferInstance

instance (first : α) (item : Parser α) [Framed item] [Trusted b item] [Sound b first] :
    Trusted b (commaTail first item) := by
  unfold commaTail; infer_instance

instance (item : Parser α) [Framed item] [Trusted b item] : Trusted b (commaSeparated item) := by
  unfold commaSeparated; infer_instance

end

end Parser

end TransactSql
