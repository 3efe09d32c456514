import TransactSql.Proofs.Grammar.Termination

/-!
# Parsers that agree where few tokens are left

Two parsers agree below a number of tokens if they do the same wherever fewer are ahead, whatever they
do elsewhere. What is made of agreeing parsers in the same way agrees. Behind a token that has been
taken there is one token less, so there it is enough to agree below the next smaller number.
-/

namespace TransactSql.Parser

variable {n : Nat}

/-- With fewer than `n` tokens ahead the two parsers do the same. -/
class Agrees (n : Nat) (p q : Parser α) : Prop where
  below : AgreeBelow n p q

/-- The two parsers do the same at a token that stands for text, with fewer than `n` tokens ahead. -/
class AgreesAtToken (n : Nat) (p q : Parser α) : Prop where
  below : ∀ c : Cursor, c.eof.isEof = true → c.current.isSource = true → c.ahead.length < n → p c = q c

theorem Agrees.mono {m : Nat} {p q : Parser α} (h : Agrees n p q) (fewer : m ≤ n) : Agrees m p q :=
  ⟨fun c eof few => h.below c eof (Nat.lt_of_lt_of_le few fewer)⟩

theorem agrees_zero (p q : Parser α) : Agrees 0 p q := ⟨fun _ _ few => absurd few (Nat.not_lt_zero _)⟩

/-! ### Parsers made of parsers -/

instance (p : Parser α) : Agrees n p p := ⟨.refl p⟩

theorem Agrees.bind {p q : Parser α} {f g : α → Parser β} [Framed p] (first : Agrees n p q)
    (rest : ∀ a, Agrees n (f a) (g a)) : Agrees n (p >>= f) (q >>= g) :=
  ⟨first.below.bind fun a => (rest a).below⟩

instance {p q : Parser α} {f g : α → Parser β} [Framed p] [first : Agrees n p q]
    [rest : ∀ a, Agrees n (f a) (g a)] : Agrees n (p >>= f) (q >>= g) := first.bind rest

theorem Agrees.ite {b : Prop} [Decidable b] {p p' q q' : Parser α} (first : Agrees n p q)
    (second : Agrees n p' q') : Agrees n (if b then p else p') (if b then q else q') := by
  split
  · exact first
  · exact second

instance {b : Prop} [Decidable b] {p p' q q' : Parser α} [first : Agrees n p q]
    [second : Agrees n p' q'] : Agrees n (if b then p else p') (if b then q else q') := first.ite second

/-- What stands behind a failure is not run. -/
instance (f : Fault) (k k' : α → Parser β) : Agrees n (fail f >>= k) (fail f >>= k') :=
  ⟨fun _ _ _ => rfl⟩

instance {p q : Parser α} [h : Agrees n p q] : Agrees n (attempt p) (attempt q) := by
  refine ⟨fun c eof few => ?_⟩
  rw [attempt, attempt, h.below c eof few]

instance {p q : Parser α} (f : Fault) [h : Agrees n p q] : Agrees n (context f p) (context f q) := by
  refine ⟨fun c eof few => ?_⟩
  rw [context, context, h.below c eof few]

instance {p q : Parser α} (assignment : Bool) [h : Agrees n p q] :
    Agrees n (withAssignment assignment p) (withAssignment assignment q) := by
  refine ⟨fun c eof few => ?_⟩
  rw [withAssignment, withAssignment, h.below (c.setAssignment assignment) eof few]

instance {p q : Parser α} [h : Agrees n p q] : Agrees n (recording p) (recording q) := by
  refine ⟨fun c eof few => ?_⟩
  rw [recording, recording, h.below c.beginRecording eof few]

instance {step step' : σ → Parser (Option σ)} [∀ s, Framed (step s)]
    [same : ∀ s, Agrees n (step s) (step' s)] (s : σ) : Agrees n (loop step s) (loop step' s) :=
  ⟨.loop (fun s => (same s).below) s⟩

instance {item item' : Parser α} [Framed item] [Agrees n item item'] (read : List α × List Token) :
    Agrees n (commaItem item read) (commaItem item' read) := by
  unfold commaItem
  refine .bind inferInstance fun comma => ?_
  cases comma <;> infer_instance

instance {item item' : Parser α} [Framed item] [Agrees n item item'] :
    Agrees n (commaSeparated item) (commaSeparated item') := by
  unfold commaSeparated commaTail; infer_instance

/-! ### Behind a token -/

/-- Where a parser has taken a token there is one less ahead. -/
theorem Agrees.behind {p : Parser α} {f g : α → Parser β} [Framed p] [Consumes p]
    (rest : ∀ a, Agrees n (f a) (g a)) : Agrees (n + 1) (p >>= f) (p >>= g) := by
  refine ⟨fun c eof few => ?_⟩
  simp only [Bind.bind, EStateM.bind]
  cases run : p c with
  | error e d => rfl
  | ok a d =>
    obtain ⟨raw, moved⟩ := Framed.ok run
    have taken : d.ahead.length < c.ahead.length := Consumes.shortens eof run
    exact (rest a).below d (moved.eof ▸ eof) (by omega)

/-- What follows a token that has been eaten, and what follows if there is none. -/
theorem agrees_eat {p : Token → Bool} (source : ∀ {t}, p t = true → t.isSource = true)
    {f g : Option Token → Parser α} (absent : Agrees (n + 1) (f none) (g none))
    (eaten : ∀ t, Agrees n (f (some t)) (g (some t))) :
    Agrees (n + 1) (eat p >>= f) (eat p >>= g) := by
  refine ⟨fun c eof few => ?_⟩
  simp only [Bind.bind, EStateM.bind]
  cases run : eat p c with
  | error e d => rfl
  | ok found d =>
    obtain ⟨raw, moved⟩ := Framed.ok run
    cases found with
    | none => exact absent.below d (moved.eof ▸ eof) (Nat.lt_of_le_of_lt moved.length_le few)
    | some t =>
      have taken : d.ahead.length < c.ahead.length := eat_shortens eof source run
      exact (eaten t).below d (moved.eof ▸ eof) (by omega)

/-- An item is read behind a comma. -/
theorem agrees_commaItem {item item' : Parser α} [Framed item] [Agrees n item item']
    (read : List α × List Token) :
    Agrees (n + 1) (commaItem item read) (commaItem item' read) :=
  agrees_eat (Token.isSource_of_kind rfl) inferInstance fun _ => inferInstance

instance {first : α} {item item' : Parser α} [Framed item] [Agrees n item item'] :
    Agrees (n + 1) (commaTail first item) (commaTail first item') := by
  unfold commaTail
  have items : ∀ read, Agrees (n + 1) (commaItem item read) (commaItem item' read) :=
    agrees_commaItem
  infer_instance

theorem Agrees.atToken {p q : Parser α} (h : Agrees n p q) : AgreesAtToken n p q :=
  ⟨fun c eof _ few => h.below c eof few⟩

instance {p q : Parser α} [h : Agrees n p q] : AgreesAtToken n p q := h.atToken

theorem AgreesAtToken.take {k k' : Token → Parser α} (rest : ∀ t, Agrees n (k t) (k' t)) :
    AgreesAtToken (n + 1) (Parser.take >>= k) (Parser.take >>= k') := by
  refine ⟨fun c eof source few => ?_⟩
  have taken : c.advance.ahead.length < c.ahead.length :=
    Cursor.shortens_advance (Cursor.ready_of_isSource eof source) source
  obtain ⟨raw, moved⟩ := c.moved_advance
  rw [take_bind, take_bind]
  exact (rest _).below _ (moved.eof ▸ eof) (by omega)

instance {k k' : Token → Parser α} [rest : ∀ t, Agrees n (k t) (k' t)] :
    AgreesAtToken (n + 1) (take >>= k) (take >>= k') := .take rest

instance {p q : Parser α} {f g : α → Parser β} [Framed p] [first : AgreesAtToken n p q]
    [rest : ∀ a, Agrees n (f a) (g a)] : AgreesAtToken n (p >>= f) (q >>= g) := by
  refine ⟨fun c eof source few => ?_⟩
  simp only [Bind.bind, EStateM.bind, ← first.below c eof source few]
  cases run : p c with
  | error e d => rfl
  | ok a d =>
    obtain ⟨raw, moved⟩ := Framed.ok run
    exact (rest a).below d (moved.eof ▸ eof) (Nat.lt_of_le_of_lt moved.length_le few)

theorem AgreesAtToken.current {k k' : Token → Parser α} (rest : ∀ t, AgreesAtToken n (k t) (k' t)) :
    AgreesAtToken n (Parser.current >>= k) (Parser.current >>= k') :=
  ⟨fun c eof source few => (rest _).below c eof source few⟩

theorem AgreesAtToken.lookahead {k k' : Token → Parser α} (rest : ∀ t, AgreesAtToken n (k t) (k' t)) :
    AgreesAtToken n (Parser.lookahead >>= k) (Parser.lookahead >>= k') :=
  ⟨fun c eof source few => (rest _).below c eof source few⟩

/-- A token stands for text in either context. -/
theorem AgreesAtToken.withAssignment {p q : Parser α} (assignment : Bool) (h : AgreesAtToken n p q) :
    AgreesAtToken n (Parser.withAssignment assignment p) (Parser.withAssignment assignment q) := by
  refine ⟨fun c eof source few => ?_⟩
  have source' : (c.setAssignment assignment).current.isSource = true := by
    rw [Cursor.isSource_current_setAssignment (Cursor.ready_of_isSource eof source), source]
  rw [Parser.withAssignment, Parser.withAssignment, h.below (c.setAssignment assignment) eof source' few]

end TransactSql.Parser
