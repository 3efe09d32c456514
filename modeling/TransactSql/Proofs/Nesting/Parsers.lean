import TransactSql.Proofs.Nesting.Construction

/-!
# Parsers whose values are bounded

A parser is shallow if what it gives is nested at most `n` deep. Sequences pass bounded values on,
so a rule is shallow as the parsers it is made of are.
-/

namespace TransactSql.Parser

variable {n : Nat}

/-- What the parser gives is nested at most `n` deep. -/
class Shallow (n : Nat) [Slotted α] (p : Parser α) : Prop where
  within : ∀ {c d : Cursor} {a : α}, c.eof.isEof = true → p c = .ok a d → Within n a

theorem Framed.isEof {p : Parser α} [Framed p] {c d : Cursor} {a : α} (eof : c.eof.isEof = true)
    (h : p c = .ok a d) : d.eof.isEof = true := by
  obtain ⟨_, moved⟩ := Framed.ok h
  rw [moved.eof]
  exact eof

section

variable [Slotted α] [Slotted β]

theorem Shallow.mono {m : Nat} {p : Parser α} (h : Shallow n p) (le : n ≤ m) : Shallow m p :=
  ⟨fun eof run => (h.within eof run).mono le⟩

/-- Tokens and their like are not nested. -/
instance [Plain α] (p : Parser α) : Shallow n p := ⟨fun _ _ => inferInstance⟩

/-! ### Sequences and choices -/

instance (a : α) [h : Within n a] : Shallow n (pure a : Parser α) where
  within _ run := by
    cases run
    exact h

instance (e : Failure) : Shallow n (throw e : Parser α) := ⟨fun _ run => by cases run⟩

instance (f : Fault) : Shallow n (fail f : Parser α) := ⟨fun _ run => by cases run⟩

theorem Shallow.bind {p : Parser α} {f : α → Parser β} [Framed p] (first : Shallow n p)
    (rest : ∀ a : {a : α // Within n a}, Shallow n (f a.1)) : Shallow n (p >>= f) where
  within eof run := by
    obtain ⟨a, d, run, more⟩ := bind_ok run
    exact (rest ⟨a, first.within eof run⟩).within (Framed.isEof eof run) more

instance {p : Parser α} {f : α → Parser β} [Framed p] [first : Shallow n p]
    [rest : ∀ a : {a : α // Within n a}, Shallow n (f a.1)] : Shallow n (p >>= f) := .bind first rest

/-- Nothing is read behind a failure. -/
instance (f : Fault) (k : α → Parser β) : Shallow n ((fail f : Parser α) >>= k) := ⟨fun _ run => by cases run⟩

instance {b : Prop} [Decidable b] {p q : Parser α} [Shallow n p] [Shallow n q] :
    Shallow n (if b then p else q) := by
  split <;> infer_instance

instance (what : String) : Shallow n (failExpected what : Parser α) :=
  ⟨fun _ run => absurd run failExpected_ok⟩

instance : Shallow n (failAtError : Parser α) := ⟨fun _ run => absurd run failAtError_ok⟩

instance {made : Shaped α} {a : α} [Shaped.Makes made a] [h : Within n a] : Shallow n (build made) where
  within _ run := by
    obtain ⟨rfl, rfl⟩ := build_ok run
    exact h

/-! ### Control -/

instance (f : Fault) (p : Parser α) [h : Shallow n p] : Shallow n (context f p) where
  within {c d a} eof run := by
    unfold context at run
    split at run
    · cases run
    · exact h.within eof run

theorem Shallow.withAssignment {p : Parser α} (assignment : Bool) (h : Shallow n p) :
    Shallow n (Parser.withAssignment assignment p) where
  within {c d a} eof run := by
    obtain ⟨_, _, run⟩ := withAssignment_ok run
    exact h.within (c := c.setAssignment assignment) eof run

instance (assignment : Bool) (p : Parser α) [h : Shallow n p] : Shallow n (withAssignment assignment p) :=
  h.withAssignment assignment

theorem Shallow.recording {p : Parser α} (h : Shallow n p) : Shallow n (Parser.recording p) where
  within {c d a} eof run := by
    obtain ⟨_, _, run⟩ := recording_ok run
    exact h.within (c := c.beginRecording) eof run

instance (p : Parser α) [h : Shallow n p] : Shallow n (recording p) := h.recording

/-- Failures are passed on as values, which are not nested. -/
theorem Shallow.attempt {p : Parser α} {k : Except Failure α → Parser β} [Framed p]
    (first : Shallow n p) (ok : ∀ a : {a : α // Within n a}, Shallow n (k (.ok a.1)))
    (error : ∀ e, Shallow n (k (.error e))) : Shallow n (Parser.attempt p >>= k) where
  within {c d b} eof run := by
    rw [attempt_bind] at run
    split at run
    · next a e first' => exact (ok ⟨a, first.within eof first'⟩).within (Framed.isEof eof first') run
    · next f e first' =>
      obtain ⟨_, moved⟩ := Framed.error first'
      exact (error f).within (moved.eof ▸ eof) run

theorem Shallow.loop {σ : Type} [Slotted σ] {step : σ → Parser (Option σ)} [∀ s, Framed (step s)]
    (steps : ∀ s : {s : σ // Within n s}, Shallow n (step s.1)) (s : σ) [start : Within n s] :
    Shallow n (loop step s) where
  within {c d t} eof run := by
    have inv := loop_invariant (fun s c => Within n s ∧ c.eof.isEof = true) (fun {s c next d} inv round => ?_)
      ⟨start, eof⟩ run
    · exact inv.1
    · have given := (steps ⟨s, inv.1⟩).within inv.2 round
      refine ⟨?_, Framed.isEof inv.2 round⟩
      cases next with
      | none => exact inv.1
      | some s => exact Within.some_iff.mp given

instance {σ : Type} [Slotted σ] {step : σ → Parser (Option σ)} [∀ s, Framed (step s)]
    [steps : ∀ s : {s : σ // Within n s}, Shallow n (step s.1)] (s : σ) [Within n s] :
    Shallow n (loop step s) := .loop steps s

instance (item : Parser α) [Framed item] [Shallow n item] (read : List α × List Token) [Within n read] :
    Shallow n (commaItem item read) := by
  unfold commaItem
  refine .bind inferInstance fun comma => ?_
  split <;> infer_instance

instance (first : α) (item : Parser α) [Framed item] [Shallow n item] [Within n first] :
    Shallow n (commaTail first item) := by
  unfold commaTail; infer_instance

instance (item : Parser α) [Framed item] [Shallow n item] : Shallow n (commaSeparated item) := by
  unfold commaSeparated; infer_instance

end

end TransactSql.Parser
