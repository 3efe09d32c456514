import TransactSql.Proofs.Parser.Locality
import TransactSql.Proofs.Statement.Kinds

/-!
# Text behind a last `;`

Tokens that end with a `;` are read once as they are and once with more tokens behind them. Up to
the `;` the two runs do the same, as at every fence. The `;` itself is taken last: where it ends
what has been read, the second run takes it too and stands before the tokens that have been added.
What has been read without the `;` at its end may go on in another way, and nothing is said of it.
-/

namespace TransactSql

/-- A `;` and the tokens that are put behind it. -/
structure Seam where
  semicolon : Token
  isSemicolon : semicolon.kind = .semicolon
  more : List Token
  noElse : more.head?.any (·.isKeyword .ELSE) = false

namespace Seam

variable (k : Seam) {c : Cursor}

/-- The `;` at the end, and the `;` with tokens behind it. -/
def fork : Fork where
  word := k.semicolon
  isFence := by simp [Token.isFence, k.isSemicolon]
  rest := []
  other := k.more

/-- A cursor that has read all tokens, when more are behind them. -/
def beyond (d : Cursor) : Cursor := { d with ahead := k.more }

@[simp]
theorem fork_word : k.fork.word = k.semicolon := rfl

theorem here_ahead_ne_nil : (k.fork.here c).ahead ≠ [] := by simp [Fork.here]

/-- A word is not the `;`. -/
theorem lookahead_eq (isWord : (k.fork.here c).current.isWord = true) :
    (k.fork.here c).lookahead = (k.fork.there c).lookahead := by
  refine k.fork.lookahead_eq_of_ne (Token.isSource_of_isWord isWord) fun same => ?_
  rw [same, fork_word, Token.isWord, k.isSemicolon] at isWord
  cases isWord

/-- Taking the `;`. -/
theorem advance_of_nil (fault : c.fault = none) (nothing : c.ahead = []) :
    (k.fork.here c).advance.ahead = [] ∧
      (k.fork.there c).advance = k.beyond (k.fork.here c).advance := by
  simp [Fork.here, Fork.there, fork, beyond, Cursor.advance, Cursor.advance?, Cursor.skip, fault,
    nothing]

/-- What comes behind the `;` does not start with an `ELSE`. -/
theorem not_isElse_beyond (eof : c.eof.isEof = true) :
    (k.beyond c).current.isKeyword .ELSE = false := by
  unfold Cursor.current
  split
  · rfl
  · rw [Cursor.isKeyword_normalize]
    have first := k.noElse
    unfold beyond Cursor.rawCurrent
    generalize k.more = more at first ⊢
    cases more with
    | nil =>
      have kind : c.eof.kind = .eof := eq_of_beq eof
      simp [Token.isKeyword, Token.keyword?, TokenKind.keyword?, kind]
    | cons t rest => simpa using first

end Seam

/-- Behind the last token nothing stands that could be taken. -/
theorem Cursor.not_isSource_of_nil {c : Cursor} (eof : c.eof.isEof = true) (nothing : c.ahead = []) :
    c.current.isSource = false := by
  cases source : c.current.isSource with
  | false => rfl
  | true =>
    obtain ⟨t, rest, ahead, _⟩ :=
      exists_cons_of_isSource (ready_of_isSource eof source) source
    rw [nothing] at ahead
    cases ahead

/-- The last token between the cursors is a `;`. -/
def Cursor.Closes (c d : Cursor) : Prop :=
  ∃ before t, t.kind = .semicolon ∧ c.ahead = before ++ t :: d.ahead

namespace Cursor.Closes

variable {c d e : Cursor} {raw : List Token}

theorem ahead_ne_nil (h : c.Closes d) : c.ahead ≠ [] := by
  obtain ⟨before, t, _, ahead⟩ := h
  simp [ahead]

theorem after (h : d.Closes e) (moved : c.Moved raw d) : c.Closes e := by
  obtain ⟨before, t, semicolon, ahead⟩ := h
  exact ⟨raw ++ before, t, semicolon, by rw [moved.ahead, ahead, List.append_assoc]⟩

theorem of_advance (eof : c.eof.isEof = true) (semicolon : c.current.kind = .semicolon) :
    c.Closes c.advance := by
  have source := Token.isSource_of_kind_eq rfl semicolon
  have ready := ready_of_isSource eof source
  obtain ⟨t, rest, ahead, current⟩ := exists_cons_of_isSource ready source
  have kind : t.kind = .semicolon := by
    by_cases plain : t.kind = .comparison .eq
    · rw [current, normalize, Token.asAssignment, if_pos plain] at semicolon
      split at semicolon
      · cases semicolon
      · exact semicolon
    · rwa [current, c.normalize_eq plain] at semicolon
  exact ⟨[], t, kind, by rw [advance_eq ready ahead, ahead]; rfl⟩

end Cursor.Closes

namespace Parser

/-- The run up to the `;` and the run with more tokens. Of values that are not `good` nothing is
said, and the `;` is the end of those that are `ended`. -/
inductive Joined (k : Seam) (good ended : α → Prop) :
    EStateM.Result Failure Cursor α → EStateM.Result Failure Cursor α → Prop
  | failed (e : Failure) (d : Cursor) (reply : EStateM.Result Failure Cursor α) :
    Joined k good ended (.error e d) reply
  | other {a : α} (bad : ¬ good a) (d : Cursor) (reply : EStateM.Result Failure Cursor α) :
    Joined k good ended (.ok a d) reply
  | before (a : α) {c : Cursor} (eof : c.eof.isEof = true) :
    Joined k good ended (.ok a (k.fork.here c)) (.ok a (k.fork.there c))
  | behind (a : α) {d : Cursor} {reply : EStateM.Result Failure Cursor α} (nothing : d.ahead = [])
    (again : ended a → reply = .ok a (k.beyond d)) : Joined k good ended (.ok a d) reply

/-- Of a run that gives no good value nothing is said. -/
theorem Joined.of_other {k : Seam} {good ended : α → Prop}
    {reply reply' : EStateM.Result Failure Cursor α}
    (bad : ∀ {a d}, reply = .ok a d → ¬ good a) : Joined k good ended reply reply' := by
  cases reply with
  | error e d => exact .failed e d _
  | ok a d => exact .other (bad rfl) d _

/-- The runs of the parser are joined at every seam, and what it gives as `ended` ends with a `;`. -/
structure Joins (good ended : α → Prop) (p : Parser α) : Prop where
  framed : Framed p := by infer_instance
  closes : ∀ {c d : Cursor} {a : α}, c.eof.isEof = true → p c = .ok a d → good a → ended a →
    c.Closes d
  joined : ∀ (k : Seam) {c : Cursor}, c.eof.isEof = true →
    Joined k good ended (p (k.fork.here c)) (p (k.fork.there c))

/-- Nothing is left behind a run that started with nothing. -/
theorem Framed.nil {p : Parser α} (framed : Framed p) {c d : Cursor} {a : α} (nothing : c.ahead = [])
    (h : p c = .ok a d) : d.ahead = [] := by
  have left := framed.past (c := c) (n := 0) (by simp [nothing])
  rw [h] at left
  exact List.length_eq_zero_iff.mp (Nat.le_zero.mp left)

/-- The parser makes a value of what has been read and leaves the cursor alone. -/
class Still (p : Parser α) : Prop where
  stays : ∀ {c d : Cursor} {a : α}, p c = .ok a d → d = c ∧ ∀ e, p e = .ok a e

instance (a : α) : Still (pure a : Parser α) where
  stays h := by
    cases h
    exact ⟨rfl, fun _ => rfl⟩

instance (made : Shaped α) : Still (build made) where
  stays h := by
    cases made with
    | ok a =>
      cases h
      exact ⟨rfl, fun _ => rfl⟩
    | error e => cases h

instance {p : Parser α} {f : α → Parser β} [first : Still p] [rest : ∀ a, Still (f a)] :
    Still (p >>= f) where
  stays h := by
    obtain ⟨a, e, run, made⟩ := bind_ok h
    obtain ⟨rfl, again⟩ := first.stays run
    obtain ⟨rfl, again'⟩ := (rest a).stays made
    exact ⟨rfl, fun e => (bind_of_ok f (again e)).trans (again' e)⟩

namespace Joins

variable {good ended : β → Prop} {good' ended' : α → Prop} {p : Parser α}
  {f : α → Parser β}

/-- A local parser does not take the `;` as the end of anything. -/
theorem of_local (inner : Local p) (never : Returns (fun a => ¬ ended' a) p) :
    Joins good' ended' p where
  framed := inner.framed
  closes _ run _ is := absurd is (never.holds run)
  joined k {c} eof := by
    have steps := inner.inStep k.fork eof
    cases run : p (k.fork.here c) with
    | error e d => exact .failed e d _
    | ok a d =>
      rw [run] at steps
      generalize p (k.fork.there c) = reply at steps ⊢
      cases steps with
      | ok a eof => exact .before a eof
      | strayed past =>
        have nothing := List.length_eq_zero_iff.mp (Nat.le_zero.mp past)
        exact .behind a nothing fun is => absurd is (never.holds run)

/-- A parser whose values are never good. -/
theorem of_other (framed : Framed p) (never : Returns (fun a => ¬ good' a) p) :
    Joins good' ended' p where
  framed := framed
  closes _ run is := absurd is (never.holds run)
  joined _ _ _ := .of_other never.holds

/-- The `;` can only be the end of what is read last. -/
theorem bind (first : Joins good' (fun _ => False) p)
    (back : ∀ a, Returns (fun b => good b → good' a) (f a)) (rest : ∀ a, Joins good ended (f a)) :
    Joins good ended (p >>= f) where
  framed := .bind first.framed fun a => (rest a).framed
  closes {c d b} eof h is ends := by
    obtain ⟨a, e, run, h⟩ := bind_ok h
    obtain ⟨raw, moved⟩ := first.framed.ok run
    exact ((rest a).closes (moved.eof ▸ eof) h is ends).after moved
  joined k {c} eof := by
    have both := first.joined k eof
    have framed := first.framed
    simp only [Bind.bind, EStateM.bind]
    cases run : p (k.fork.here c) with
    | error e d => exact .failed e d _
    | ok a d =>
      rw [run] at both
      obtain ⟨raw, moved⟩ := framed.ok run
      have eof' : d.eof.isEof = true := moved.eof ▸ eof
      generalize p (k.fork.there c) = reply at both ⊢
      dsimp only
      cases both with
      | before a eof => exact (rest a).joined k eof
      | other bad => exact .of_other fun run' is => bad ((back a).holds run' is)
      | behind a nothing =>
        cases run' : f a d with
        | error e d' => exact .failed e d' _
        | ok b d' =>
          by_cases is : good b
          · refine .behind b ((rest a).framed.nil nothing run') fun ends => ?_
            exact absurd nothing ((rest a).closes eof' run' is ends).ahead_ne_nil
          · exact .other is d' _

theorem seq (first : Local p) (rest : ∀ a, Joins good ended (f a)) :
    Joins good ended (p >>= f) := by
  have start : Joins (fun _ => True) (fun _ => False) p := of_local first ⟨fun _ => not_false⟩
  exact start.bind (fun a => ⟨fun _ _ => trivial⟩) rest

/-- A value that is made of one that has been read. -/
theorem make (first : Joins good' ended' p) [still : ∀ a, Still (f a)] [∀ a, Framed (f a)]
    (back : ∀ a, Returns (fun b => (good b → good' a) ∧ (ended b → ended' a)) (f a)) :
    Joins good ended (p >>= f) where
  framed :=
    have := first.framed
    inferInstance
  closes eof h is ends := by
    obtain ⟨a, e, run, h⟩ := bind_ok h
    obtain ⟨was, did⟩ := (back a).holds h
    obtain ⟨rfl, _⟩ := (still a).stays h
    exact first.closes eof run (was is) (did ends)
  joined k {c} eof := by
    have both := first.joined k eof
    simp only [Bind.bind, EStateM.bind]
    generalize p (k.fork.here c) = reply at both ⊢
    generalize p (k.fork.there c) = reply' at both ⊢
    cases both with
    | failed e d => exact .failed e d _
    | @other a bad d => exact .of_other fun run is => bad (((back a).holds run).1 is)
    | @before a c eof =>
      dsimp only
      cases run : f a (k.fork.here c) with
      | error e d' => exact .failed e d' _
      | ok b d' =>
        obtain ⟨rfl, again⟩ := (still a).stays run
        rw [again]
        exact .before b eof
    | @behind a d reply' nothing again =>
      dsimp only
      cases run : f a d with
      | error e d' => exact .failed e d' _
      | ok b d' =>
        obtain ⟨rfl, again'⟩ := (still a).stays run
        refine .behind b nothing fun ends => ?_
        rw [again (((back a).holds run).2 ends)]
        exact again' _

end Joins

/-! ### The token after a word -/

/-- The parser joins its runs where a word comes first. -/
structure JoinsAtWord (good ended : α → Prop) (p : Parser α) : Prop where
  framed : Framed p := by infer_instance
  closes : ∀ {c d : Cursor} {a : α}, c.eof.isEof = true → p c = .ok a d → good a → ended a →
    c.Closes d
  joined : ∀ (k : Seam) {c : Cursor}, c.eof.isEof = true → (k.fork.here c).current.isWord = true →
    Joined k good ended (p (k.fork.here c)) (p (k.fork.there c))

section

variable {good ended : α → Prop} {f : Token → Parser α}

theorem Joins.atWord {p : Parser α} (h : Joins good ended p) : JoinsAtWord good ended p :=
  ⟨h.framed, h.closes, fun k _ eof _ => h.joined k eof⟩

/-- A word is not the `;`, so the token after it is the same in both runs. -/
theorem JoinsAtWord.lookahead (rest : ∀ t, JoinsAtWord good ended (f t)) :
    JoinsAtWord good ended (Parser.lookahead >>= f) where
  framed := .bind inferInstance fun t => (rest t).framed
  closes eof h := by
    rw [lookahead_bind] at h
    exact (rest _).closes eof h
  joined k {c} eof isWord := by
    rw [lookahead_bind, lookahead_bind, ← k.lookahead_eq isWord]
    exact (rest _).joined k eof isWord

theorem Joins.current (words : ∀ t, t.isWord = true → JoinsAtWord good ended (f t))
    (others : ∀ t, t.isWord = false → Joins good ended (f t)) :
    Joins good ended (Parser.current >>= f) where
  framed := by
    refine .bind inferInstance fun t => ?_
    cases isWord : t.isWord with
    | true => exact (words t isWord).framed
    | false => exact (others t isWord).framed
  closes {c d a} eof h := by
    rw [current_bind] at h
    cases isWord : c.current.isWord with
    | true => exact (words _ isWord).closes eof h
    | false => exact (others _ isWord).closes eof h
  joined k {c} eof := by
    rw [current_bind, current_bind, ← k.fork.current_eq]
    cases isWord : (k.fork.here c).current.isWord with
    | true => exact (words _ isWord).joined k eof isWord
    | false => exact (others _ isWord).joined k eof

end

/-! ### The `;` itself -/

theorem terminator_eq (c : Cursor) : terminator c =
    if c.fault.isNone && c.current.kind == .semicolon then .ok c.current c.advance
    else .ok .placeholder c := by
  have run := eat_eq (·.kind == .semicolon) c
  unfold terminator eatKind
  split
  · next taken =>
    rw [if_pos taken] at run
    exact bind_of_ok _ run
  · next absent =>
    rw [if_neg absent] at run
    exact bind_of_ok _ run

/-- One token is passed over, which may be the `;`. -/
theorem joined_advance (k : Seam) (good ended : α → Prop) (a : α) {c : Cursor}
    (eof : c.eof.isEof = true) (fault : c.fault = none) :
    Joined k good ended (.ok a (k.fork.here c).advance) (.ok a (k.fork.there c).advance) := by
  by_cases nothing : c.ahead = []
  · obtain ⟨rest, again⟩ := k.advance_of_nil fault nothing
    exact .behind a rest fun _ => by rw [again]
  · have stays : c.fault.isSome = true ∨ c.ahead ≠ [] := .inr nothing
    rw [k.fork.advance_here stays, show (k.fork.there c).advance = k.fork.there c.advance from
      k.fork.swap.advance_here stays]
    obtain ⟨raw, moved⟩ := c.moved_advance
    exact .before a (moved.eof ▸ eof)

/-- The `;` is taken if nothing is left before it. -/
theorem joins_terminator :
    Joins (fun _ => True) (fun t => t ≠ .placeholder) terminator where
  closes {c d t} eof h _ present := by
    rw [terminator_eq] at h
    split at h
    · next taken =>
      cases h
      rw [Bool.and_eq_true] at taken
      exact .of_advance eof (eq_of_beq taken.2)
    · cases h
      exact absurd rfl present
  joined k {c} eof := by
    rw [terminator_eq, terminator_eq, ← k.fork.current_eq,
      show (k.fork.there c).fault = (k.fork.here c).fault from rfl]
    by_cases taken : ((k.fork.here c).fault.isNone &&
      (k.fork.here c).current.kind == .semicolon) = true
    · rw [if_pos taken, if_pos taken]
      rw [Bool.and_eq_true, Option.isNone_iff_eq_none] at taken
      exact joined_advance k _ _ _ eof taken.1
    · rw [if_neg taken, if_neg taken]
      exact .before _ eof

namespace Joins

variable {good ended : β → Prop}

/-- The optional `;` at the end of a statement. -/
theorem terminator {f : Token → Parser β} [∀ t, Still (f t)] [∀ t, Framed (f t)]
    (back : ∀ t, Returns (fun b => ended b → t ≠ .placeholder) (f t)) :
    Joins good ended (Parser.terminator >>= f) :=
  joins_terminator.make fun t => (back t).mono fun _ held => ⟨fun _ => trivial, held⟩

/-! ### Loops -/

variable {good : σ → Prop} {step : σ → Parser (Option σ)}

/-- Values are good only if they were before. -/
theorem good_of_rounds (back : ∀ s, Returns (fun next => good (next.getD s) → good s) (step s))
    {limit : Nat} {s t : σ} {c d : Cursor} (h : rounds step limit s c = .ok t d) :
    good t → good s :=
  rounds_invariant (fun now _ => good now → good s)
    (fun was round is => was ((back _).holds round is)) id h

theorem joined_rounds (k : Seam) [advances : Advances step]
    (back : ∀ s, Returns (fun next => good (next.getD s) → good s) (step s))
    (steps : ∀ s, Joins (fun next => good (next.getD s)) (fun _ => False) (step s))
    {limit limit' : Nat} {s : σ} {c : Cursor} (eof : c.eof.isEof = true)
    (enough : c.ahead.length < limit) (enough' : c.ahead.length < limit') :
    Joined k good (fun _ => False) (rounds step limit s (k.fork.here c))
      (rounds step limit' s (k.fork.there c)) := by
  induction limit generalizing limit' s c with
  | zero => exact absurd enough (Nat.not_lt_zero _)
  | succ limit ih =>
    obtain ⟨limit', rfl⟩ := Nat.exists_eq_add_one_of_ne_zero (Nat.ne_zero_of_lt enough')
    have framed := fun s => (steps s).framed
    have round := (steps s).joined k eof
    have shortens : ∀ {t d}, step s (k.fork.here c) = .ok (some t) d → (k.fork.here c).Shortens d :=
      advances.shortens eof
    unfold rounds
    simp only [Bind.bind, EStateM.bind]
    generalize step s (k.fork.here c) = reply at round shortens ⊢
    generalize step s (k.fork.there c) = reply' at round ⊢
    cases round with
    | failed e d => exact .failed e d _
    | @before next d eof =>
      cases next with
      | none => exact .before s eof
      | some t =>
        have taken : (k.fork.here d).ahead.length < (k.fork.here c).ahead.length := shortens rfl
        simp only [Fork.here, List.length_append] at taken
        exact ih eof (by omega) (by omega)
    | @other next bad d =>
      cases next with
      | none => exact .other bad d _
      | some t => exact .of_other fun run is => bad (good_of_rounds back run is)
    | @behind next d _ nothing =>
      cases next with
      | none => exact .behind s nothing False.elim
      | some t =>
        dsimp only
        have framed : Framed (rounds step limit t) := inferInstance
        cases run : rounds step limit t d with
        | error e d' => exact .failed e d' _
        | ok u d' => exact .behind u (framed.nil nothing run) False.elim

theorem loop [Advances step]
    (back : ∀ s, Returns (fun next => good (next.getD s) → good s) (step s))
    (steps : ∀ s, Joins (fun next => good (next.getD s)) (fun _ => False) (step s)) (s : σ) :
    Joins good (fun _ => False) (Parser.loop step s) where
  framed :=
    have := fun s => (steps s).framed
    inferInstance
  closes _ _ _ := False.elim
  joined k {c} eof := by
    have run : ∀ d : Cursor, Parser.loop step s d = rounds step (d.ahead.length + 1) s d :=
      fun _ => rfl
    rw [run, run]
    refine joined_rounds k back steps eof ?_ ?_
    · simp only [Fork.here, List.length_append]
      omega
    · simp only [Fork.there, List.length_append]
      omega

end Joins

end Parser

end TransactSql
