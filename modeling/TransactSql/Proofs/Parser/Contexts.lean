import TransactSql.Proofs.Parser.Locality
import TransactSql.Proofs.Statement.Kinds

/-!
# Two runs in two contexts

Whether `=` is an assignment matters only where a rule stands at an `=`. An insensitive rule never
takes one: what it reads where `=` is a comparison it reads also where `=` is an assignment. A rule
that may take one transfers the values for which it took none.
-/

namespace TransactSql

namespace Token

/-- A test that an `=` fails in both contexts. -/
class IgnoresEq (accepts : Token → Bool) : Prop where
  comparison : ∀ {t : Token}, t.kind = .comparison .eq → accepts t = false
  assignment : ∀ {t : Token}, t.kind = .comparison .eq → accepts t.asAssignment = false

theorem ignoresEq_of_kind {accepts : Token → Bool} (test : TokenKind → Bool)
    (byKind : ∀ t, accepts t = test t.kind) (comparison : test (.comparison .eq) = false)
    (assignment : test (.assignment none) = false) : IgnoresEq accepts where
  comparison kind := by rw [byKind, kind, comparison]
  assignment kind := by
    rw [byKind, asAssignment, if_pos kind]
    exact assignment

instance (k : Keyword) : IgnoresEq (·.isKeyword k) :=
  ignoresEq_of_kind (fun kind => kind.keyword? == some k) (fun _ => rfl) rfl rfl

instance (ks : List Keyword) : IgnoresEq (·.isAnyKeyword ks) :=
  ignoresEq_of_kind (fun kind => kind.keyword?.any ks.contains) (fun _ => rfl) rfl rfl

instance : IgnoresEq isWord := ignoresEq_of_kind TokenKind.isWord (fun _ => rfl) rfl rfl

theorem ignoresEq_kind {k : TokenKind} (comparison : k ≠ .comparison .eq)
    (assignment : k ≠ .assignment none) : IgnoresEq (·.kind == k) :=
  ignoresEq_of_kind (· == k) (fun _ => rfl) (by simpa using comparison.symm)
    (by simpa using assignment.symm)

instance : IgnoresEq (·.kind == .leftParen) := ignoresEq_kind (by decide) (by decide)

instance : IgnoresEq (·.kind == .rightParen) := ignoresEq_kind (by decide) (by decide)

instance : IgnoresEq (·.kind == .dot) := ignoresEq_kind (by decide) (by decide)

instance : IgnoresEq (·.kind == .arithmetic .star) := ignoresEq_kind (by decide) (by decide)

theorem IgnoresEq.ne_eq (accepts : Token → Bool) [ignores : IgnoresEq accepts] {t : Token}
    (accepted : accepts t = true) : t.kind ≠ .comparison .eq := by
  intro kind
  rw [ignores.comparison kind] at accepted
  cases accepted

end Token

namespace Cursor

variable {c : Cursor}

theorem advance_setAssignment (c : Cursor) (assignment : Bool) :
    (c.setAssignment assignment).advance = c.advance.setAssignment assignment := by
  unfold advance advance? skip
  cases fault : c.fault <;> cases ahead : c.ahead <;> simp [setAssignment, fault, ahead]

theorem skip_setAssignment (c : Cursor) (assignment : Bool) (n : Nat) :
    (c.setAssignment assignment).skip n = (c.skip n).setAssignment assignment := by
  unfold skip
  cases fault : c.fault <;> simp [setAssignment, fault]

/-- In comparison context a token is read as it is, in the other one as an assignment. -/
theorem current_assigning (comparing : c.assignment = false) :
    (c.setAssignment true).current = c.current.asAssignment := by
  unfold current setAssignment
  cases fault : c.fault with
  | some x => simp [Token.asAssignment, Token.error]
  | none => simp [normalize, comparing, rawCurrent]

/-- Apart from `=`, the current token is the same in both contexts. -/
theorem current_assigning_of_ne (comparing : c.assignment = false)
    (other : c.current.kind ≠ .comparison .eq) : (c.setAssignment true).current = c.current := by
  rw [current_assigning comparing, Token.asAssignment, if_neg other]

theorem current_ne_eq (assigning : c.assignment = true) : c.current.kind ≠ .comparison .eq := by
  intro kind
  unfold current at kind
  cases fault : c.fault with
  | some x => simp [fault, Token.error] at kind
  | none =>
    simp only [fault, normalize, assigning, if_true, Token.asAssignment] at kind
    split at kind
    · cases kind
    · contradiction

theorem accepts_assigning (accepts : Token → Bool) [ignores : Token.IgnoresEq accepts]
    (comparing : c.assignment = false) :
    accepts (c.setAssignment true).current = accepts c.current := by
  by_cases kind : c.current.kind = .comparison .eq
  · rw [current_assigning comparing, ignores.comparison kind, ignores.assignment kind]
  · rw [current_assigning_of_ne comparing kind]

end Cursor

namespace Parser

/-! ### Rules that never take an `=` -/

/-- What is read in comparison context is read in the other context in the same way. -/
class Insensitive (p : Parser α) : Prop where
  framed : Framed p := by infer_instance
  runs : ∀ {c d : Cursor} {a : α}, c.assignment = false → p c = .ok a d →
    p (c.setAssignment true) = .ok a (d.setAssignment true)

theorem Framed.assignment_eq {p : Parser α} (framed : Framed p) {c d : Cursor} {a : α}
    (h : p c = .ok a d) : d.assignment = c.assignment := by
  obtain ⟨raw, moved⟩ := framed.ok h
  exact moved.assignment

theorem Insensitive.bind {p : Parser α} {f : α → Parser β} (first : Insensitive p)
    (rest : ∀ a, Insensitive (f a)) : Insensitive (p >>= f) where
  framed := .bind first.framed fun a => (rest a).framed
  runs comparing h := by
    obtain ⟨a, e, run, h⟩ := bind_ok h
    rw [bind_of_ok f (first.runs comparing run)]
    exact (rest a).runs ((first.framed.assignment_eq run).trans comparing) h

instance {p : Parser α} {f : α → Parser β} [first : Insensitive p] [rest : ∀ a, Insensitive (f a)] :
    Insensitive (p >>= f) := .bind first rest

instance (a : α) : Insensitive (pure a : Parser α) where
  runs _ h := by
    cases h
    rfl

instance (f : Fault) : Insensitive (fail f : Parser α) := ⟨inferInstance, fun _ h => absurd h fail_ok⟩

instance (what : String) : Insensitive (failExpected what : Parser α) :=
  ⟨inferInstance, fun _ h => absurd h failExpected_ok⟩

instance : Insensitive (failAtError : Parser α) := ⟨inferInstance, fun _ h => absurd h failAtError_ok⟩

instance (made : Shaped α) : Insensitive (build made) where
  runs _ h := by
    unfold build at h ⊢
    split at h
    · cases h
      rfl
    · cases h

instance {b : Prop} [Decidable b] {p q : Parser α} [Insensitive p] [Insensitive q] :
    Insensitive (if b then p else q) := by
  split <;> infer_instance

/-- The context is set and left again, whatever it is outside. -/
theorem Insensitive.withAssignment {p : Parser α} (assignment : Bool) (framed : Framed p) :
    Insensitive (withAssignment assignment p) where
  runs {c d a} _ h := by
    obtain ⟨e, rfl, run⟩ := withAssignment_ok h
    unfold Parser.withAssignment
    rw [show (c.setAssignment true).setAssignment assignment = c.setAssignment assignment from rfl, run]
    rfl

instance (assignment : Bool) (p : Parser α) [framed : Framed p] :
    Insensitive (withAssignment assignment p) := .withAssignment assignment framed

instance (k : TokenKind) [Token.IgnoresEq (·.kind == k)] : Insensitive (atKind k) where
  runs {c d found} comparing h := by
    cases h
    exact congrArg (EStateM.Result.ok · (c.setAssignment true))
      (Cursor.accepts_assigning (·.kind == k) comparing)

instance (accepts : Token → Bool) [Token.IgnoresEq accepts] : Insensitive (eat accepts) where
  runs {c d found} comparing h := by
    rw [eat_eq] at h ⊢
    rw [Cursor.accepts_assigning accepts comparing, Cursor.advance_setAssignment,
      show (c.setAssignment true).fault = c.fault from rfl]
    split at h
    · next accepted =>
      rw [Bool.and_eq_true] at accepted
      cases h
      rw [if_pos (by simpa using accepted),
        Cursor.current_assigning_of_ne comparing (Token.IgnoresEq.ne_eq accepts accepted.2)]
    · next refused =>
      cases h
      rw [if_neg refused]

instance (accepts : Token → Bool) [Token.IgnoresEq accepts] (what : String) :
    Insensitive (require accepts what) where
  runs {c d t} comparing h := by
    obtain ⟨rfl, accepted, rfl⟩ := require_ok h
    have fault : c.fault = none := by
      unfold require Cursor.expect at h
      cases fault : c.fault with
      | none => rfl
      | some x => simp [fault] at h
    have here : accepts (c.setAssignment true).current = true :=
      (Cursor.accepts_assigning accepts comparing).trans accepted
    unfold require Cursor.expect
    rw [here, Cursor.advance_setAssignment,
      Cursor.current_assigning_of_ne comparing (Token.IgnoresEq.ne_eq accepts accepted),
      show (c.setAssignment true).fault = none from fault]
    rfl

instance (k : Keyword) : Insensitive (eatKeyword k) := by unfold eatKeyword; infer_instance

instance (ks : List Keyword) : Insensitive (eatAnyKeyword ks) := by
  unfold eatAnyKeyword; infer_instance

instance (k : TokenKind) [Token.IgnoresEq (·.kind == k)] : Insensitive (eatKind k) := by
  unfold eatKind; infer_instance

instance (k : Keyword) : Insensitive (keyword k) := by unfold keyword; infer_instance

instance (what : String) : Insensitive (word what) := by unfold word; infer_instance

instance : Insensitive leftParen := by unfold leftParen kind; infer_instance

/-- A choice by the current token, which the first way takes. -/
theorem insensitive_take (accepts : Token → Bool) [Token.IgnoresEq accepts] {k : Token → Parser α}
    {q : Parser α} (first : ∀ t, Insensitive (k t)) (second : Insensitive q) :
    Insensitive (do if accepts (← current) then take >>= k else q) where
  framed := by
    have := fun t => (first t).framed
    have := second.framed
    infer_instance
  runs {c d a} comparing h := by
    have same := Cursor.accepts_assigning accepts comparing
    rw [current_bind] at h ⊢
    cases accepted : accepts c.current with
    | true =>
      simp only [same, accepted, if_true, take_bind] at h ⊢
      rw [Cursor.current_assigning_of_ne comparing (Token.IgnoresEq.ne_eq accepts accepted),
        Cursor.advance_setAssignment]
      exact (first _).runs ((Framed.assignment_eq (p := take) inferInstance rfl).trans comparing) h
    | false =>
      simp only [same, accepted] at h ⊢
      exact second.runs comparing h

/-- A run of tokens among which there is no `=`. -/
theorem insensitive_takeRun {accepts : Token → Bool} [Token.IgnoresEq accepts] :
    Insensitive (takeRun fun ts => (ts.takeWhile accepts).length) where
  runs {c d run} comparing h := by
    cases fault : c.fault with
    | some x =>
      rw [takeRun_of_fault fault] at h
      rw [takeRun_of_fault (c := c.setAssignment true) fault]
      cases h
      rfl
    | none =>
      rw [takeRun_of_ready fault] at h
      rw [takeRun_of_ready (c := c.setAssignment true) fault]
      cases h
      have taken : ∀ ts : List Token, ts.take (ts.takeWhile accepts).length = ts.takeWhile accepts :=
        fun ts => (List.prefix_iff_eq_take.mp (ts.takeWhile_prefix accepts)).symm
      have same : (c.ahead.takeWhile accepts).map (c.setAssignment true).normalize =
          (c.ahead.takeWhile accepts).map c.normalize := by
        refine List.map_congr_left fun t member => ?_
        have other := Token.IgnoresEq.ne_eq accepts (List.mem_takeWhile_imp member)
        rw [Cursor.normalize_eq _ other, Cursor.normalize_eq _ other]
      rw [Cursor.skip_setAssignment, show (c.setAssignment true).ahead = c.ahead from rfl, taken, same]

theorem rounds_insensitive {step : σ → Parser (Option σ)} (steps : ∀ s, Insensitive (step s))
    (limit : Nat) (s : σ) : Insensitive (rounds step limit s) := by
  induction limit generalizing s with
  | zero => exact inferInstanceAs (Insensitive (pure s))
  | succ limit ih =>
    unfold rounds
    refine .bind (steps s) fun next => ?_
    cases next with
    | none => infer_instance
    | some t => exact ih t

instance {step : σ → Parser (Option σ)} [steps : ∀ s, Insensitive (step s)] (s : σ) :
    Insensitive (loop step s) where
  framed := by
    have := fun s => (steps s).framed
    infer_instance
  runs comparing h := (rounds_insensitive steps _ s).runs comparing h

/-! ### Rules that may take an `=` -/

/-- Where the current token is as `here` says: if `=` is an assignment all values are good, and good
values that are read where `=` is a comparison are read there too. -/
structure Transfers (here : Token → Prop) (good : α → Prop) (p : Parser α) : Prop where
  framed : Framed p
  values : ∀ {c d : Cursor} {a : α}, c.assignment = true → here c.current → p c = .ok a d → good a
  runs : ∀ {c d : Cursor} {a : α}, c.assignment = false → here c.current → p c = .ok a d → good a →
    p (c.setAssignment true) = .ok a (d.setAssignment true)

/-- What transfers at every token. -/
abbrev TransfersAnywhere (good : α → Prop) (p : Parser α) : Prop := Transfers (fun _ => True) good p

namespace Transfers

variable {here : Token → Prop} {good : α → Prop} {p : Parser α}

theorem of_anywhere (h : TransfersAnywhere good p) : Transfers here good p where
  framed := h.framed
  values assigning _ run := h.values assigning trivial run
  runs comparing _ run held := h.runs comparing trivial run held

theorem of_insensitive (insensitive : Insensitive p) (returns : Returns good p) :
    Transfers here good p where
  framed := insensitive.framed
  values _ _ h := returns.holds h
  runs comparing _ h _ := insensitive.runs comparing h

/-- Good parts make a good value, and a good value has been made of good parts. -/
theorem bind {good' : β → Prop} {q : Parser β} {f : β → Parser α} (first : Transfers here good' q)
    (framed : ∀ b, Framed (f b)) (rest : ∀ b, good' b → TransfersAnywhere good (f b))
    (back : ∀ b, Returns (fun a => good a → good' b) (f b)) : Transfers here good (q >>= f) where
  framed := .bind first.framed framed
  values assigning current h := by
    obtain ⟨b, e, run, h⟩ := bind_ok h
    exact (rest b (first.values assigning current run)).values
      ((first.framed.assignment_eq run).trans assigning) trivial h
  runs comparing current h held := by
    obtain ⟨b, e, run, h⟩ := bind_ok h
    have part := (back b).holds h held
    rw [bind_of_ok f (first.runs comparing current run part)]
    exact (rest b part).runs ((first.framed.assignment_eq run).trans comparing) trivial h held

/-- What follows a part that takes no `=`. -/
theorem after {q : Parser β} {f : β → Parser α} (first : Insensitive q)
    (rest : ∀ b, TransfersAnywhere good (f b)) : Transfers here good (q >>= f) :=
  .bind (.of_insensitive first ⟨fun _ => trivial⟩) (fun b => (rest b).framed) (fun b _ => rest b)
    fun _ => ⟨fun _ _ => trivial⟩

/-- What follows a token that has been looked at and is no `=`. -/
theorem take {t : Token} {k : Token → Parser α} (other : t.kind ≠ .comparison .eq)
    (framed : ∀ t, Framed (k t)) (rest : TransfersAnywhere good (k t)) :
    Transfers (· = t) good (Parser.take >>= k) where
  framed := .bind inferInstance framed
  values {c d a} assigning current h := by
    rw [take_bind, current] at h
    exact rest.values ((Framed.assignment_eq (p := Parser.take) inferInstance rfl).trans assigning)
      trivial h
  runs {c d a} comparing current h held := by
    rw [take_bind] at h ⊢
    rw [Cursor.current_assigning_of_ne comparing (current ▸ other), Cursor.advance_setAssignment]
    rw [current] at h ⊢
    exact rest.runs ((Framed.assignment_eq (p := Parser.take) inferInstance rfl).trans comparing)
      trivial h held

theorem take_insensitive {t : Token} {k : Token → Parser α} (other : t.kind ≠ .comparison .eq)
    (insensitive : ∀ t, Insensitive (k t)) (returns : Returns good (k t)) :
    Transfers (· = t) good (Parser.take >>= k) :=
  .take other (fun t => (insensitive t).framed) (.of_insensitive (insensitive t) returns)

/-- A choice by the current token, where an `=` is a case of its own. -/
theorem current {f : Token → Parser α} (framed : Framed (Parser.current >>= f))
    (others : ∀ t, t.kind ≠ .comparison .eq → Transfers (· = t) good (f t))
    (eq : ∀ {t : Token} {c d : Cursor} {a : α}, t.kind = .comparison .eq → c.current = t →
      f t c = .ok a d → good a →
        f t.asAssignment (c.setAssignment true) = .ok a (d.setAssignment true)) :
    TransfersAnywhere good (Parser.current >>= f) where
  framed := framed
  values {c d a} assigning _ h := by
    rw [current_bind] at h
    exact (others c.current (Cursor.current_ne_eq assigning)).values assigning rfl h
  runs {c d a} comparing _ h held := by
    rw [current_bind] at h ⊢
    by_cases kind : c.current.kind = .comparison .eq
    · rw [Cursor.current_assigning comparing]
      exact eq kind rfl h held
    · rw [Cursor.current_assigning_of_ne comparing kind]
      exact (others c.current kind).runs comparing rfl h held

/-- The next token is the same in both contexts. -/
theorem lookahead {f : Token → Parser α} (rest : ∀ t, Transfers here good (f t)) :
    Transfers here good (Parser.lookahead >>= f) where
  framed := .bind inferInstance fun t => (rest t).framed
  values assigning current h := (rest _).values assigning current h
  runs comparing current h held := (rest _).runs comparing current h held

section Loops

variable {good : σ → Prop} {step : σ → Parser (Option σ)}

/-- A state that is good at the end was good at the start. -/
theorem rounds_back (back : ∀ s, Returns (fun next => ∀ t ∈ next, good t → good s) (step s))
    (limit : Nat) (s : σ) : Returns (fun a => good a → good s) (Parser.rounds step limit s) where
  holds h := by
    refine rounds_invariant (fun a _ => good a → good s) (fun {a _ next _} kept round => ?_) id h
    cases next with
    | none => exact kept
    | some t => exact fun held => kept ((back a).holds round t rfl held)

theorem loop_back (back : ∀ s, Returns (fun next => ∀ t ∈ next, good t → good s) (step s)) (s : σ) :
    Returns (fun a => good a → good s) (Parser.loop step s) :=
  ⟨fun h => (rounds_back back _ s).holds h⟩

/-- A loop whose rounds keep a good state good, and start from a good one if they end in one. -/
theorem rounds (framed : ∀ s, Framed (step s))
    (steps : ∀ s, good s → TransfersAnywhere (fun next => ∀ t ∈ next, good t) (step s))
    (back : ∀ s, Returns (fun next => ∀ t ∈ next, good t → good s) (step s)) (limit : Nat) {s : σ}
    (start : good s) : TransfersAnywhere good (Parser.rounds step limit s) := by
  induction limit generalizing s with
  | zero => exact .of_insensitive (inferInstanceAs (Insensitive (pure s))) (.pure start)
  | succ limit ih =>
    unfold Parser.rounds
    refine .bind (steps s start) (fun next => ?_) (fun next held => ?_) fun next => ?_
    · cases next <;> infer_instance
    · cases next with
      | none => exact .of_insensitive inferInstance (.pure start)
      | some t => exact ih (held t rfl)
    · cases next with
      | none => exact .pure (by simp)
      | some t =>
        refine (rounds_back back limit t).mono fun a kept held u same => ?_
        cases same
        exact kept held

theorem loop (framed : ∀ s, Framed (step s))
    (steps : ∀ s, good s → TransfersAnywhere (fun next => ∀ t ∈ next, good t) (step s))
    (back : ∀ s, Returns (fun next => ∀ t ∈ next, good t → good s) (step s)) {s : σ}
    (start : good s) : TransfersAnywhere good (Parser.loop step s) where
  framed := inferInstance
  values assigning _ h := (rounds framed steps back _ start).values assigning trivial h
  runs comparing _ h held := (rounds framed steps back _ start).runs comparing trivial h held

end Loops

end Transfers

end Parser

end TransactSql
