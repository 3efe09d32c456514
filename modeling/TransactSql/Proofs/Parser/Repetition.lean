import TransactSql.Proofs.Grammar.Progress

/-!
# Loops without a bound

`loop` allows one more round than there are tokens ahead. `Repeats` describes a loop that allows
any number: where every round that goes on takes a token, the two are the same. `Consumes` says
that a parser takes a token, `TakesRuns` that a run of tokens is what has been passed over,
`TakesByRounds` that it is taken token by token, and `AgreeBelow` compares parsers on the last
tokens of the input only.
-/

namespace TransactSql

open TransactSql.Parser

namespace Cursor

variable {c : Cursor}

theorem isEof_ofTokens (ts : List Token) : (ofTokens ts).eof.isEof = true := by
  unfold ofTokens
  cases found : ts.find? Token.isEof with
  | none => rfl
  | some t => exact List.find?_some found

/-- A fault would stand in the way of a token of the text. -/
theorem ready_of_isSource (eof : c.eof.isEof = true) (source : c.current.isSource = true) : c.Ready := by
  refine ⟨?_, eof⟩
  cases fault : c.fault with
  | none => rfl
  | some x =>
    rw [current, fault] at source
    cases source

end Cursor

/-! ### Loops without a bound -/

namespace Parser

/-- A loop with no bound on the number of its rounds: it goes on with a round that has taken a
token, and ends with a round that stops it or fails. -/
inductive Repeats (step : σ → Parser (Option σ)) : σ → Cursor → EStateM.Result Failure Cursor σ → Prop
  | stop {s : σ} {c d : Cursor} (round : step s c = .ok none d) : Repeats step s c (.ok s d)
  | fail {s : σ} {c d : Cursor} {e : Failure} (round : step s c = .error e d) :
    Repeats step s c (.error e d)
  | next {s t : σ} {c d : Cursor} {reply : EStateM.Result Failure Cursor σ}
    (round : step s c = .ok (some t) d) (taken : c.Shortens d) (more : Repeats step t d reply) :
    Repeats step s c reply

/-- Every round that goes on takes a token. -/
class Advances (step : σ → Parser (Option σ)) : Prop where
  shortens : ∀ {s t : σ} {c d : Cursor}, c.eof.isEof = true → step s c = .ok (some t) d → c.Shortens d

/-- More rounds than tokens are enough. -/
theorem rounds_repeats {step : σ → Parser (Option σ)} [∀ s, Framed (step s)] [advances : Advances step]
    {limit : Nat} {s : σ} {c : Cursor} (eof : c.eof.isEof = true) (enough : c.ahead.length < limit) :
    Repeats step s c (rounds step limit s c) := by
  induction limit generalizing s c with
  | zero => exact absurd enough (Nat.not_lt_zero _)
  | succ limit ih =>
    unfold rounds
    cases round : step s c with
    | error e d =>
      simp only [Bind.bind, EStateM.bind, round]
      exact .fail round
    | ok next d =>
      simp only [Bind.bind, EStateM.bind, round]
      cases next with
      | none => exact .stop round
      | some t =>
        have taken := advances.shortens eof round
        have fewer : d.ahead.length < c.ahead.length := taken
        obtain ⟨raw, moved⟩ := Framed.ok round
        exact .next round taken (ih (moved.eof ▸ eof) (by omega))

theorem loop_repeats (step : σ → Parser (Option σ)) [∀ s, Framed (step s)] [Advances step] (s : σ)
    {c : Cursor} (eof : c.eof.isEof = true) : Repeats step s c (loop step s c) :=
  rounds_repeats eof (Nat.lt_succ_self _)

/-! ### Parsers that take a token -/

/-- Every successful run takes a token. -/
class Consumes (p : Parser α) : Prop where
  shortens : ∀ {c d : Cursor} {a : α}, c.eof.isEof = true → p c = .ok a d → c.Shortens d

instance {p : Parser α} {f : α → Parser β} [first : Consumes p] [∀ a, Framed (f a)] :
    Consumes (p >>= f) where
  shortens eof h := by
    obtain ⟨a, e, run, h⟩ := bind_ok h
    exact (first.shortens eof run).then h

theorem consumes_require {p : Token → Bool} {what : String}
    (source : ∀ {t}, p t = true → t.isSource = true) : Consumes (require p what) where
  shortens eof h := by
    obtain ⟨_, accepted, rfl⟩ := require_ok h
    have here := source accepted
    exact Cursor.shortens_advance (Cursor.ready_of_isSource eof here) here

instance (k : Keyword) : Consumes (keyword k) := consumes_require Token.isSource_of_isKeyword

instance (what : String) : Consumes (word what) := consumes_require Token.isSource_of_isWord

instance (assignment : Bool) (p : Parser α) [inner : Consumes p] :
    Consumes (withAssignment assignment p) where
  shortens eof h := by
    obtain ⟨e, rfl, run⟩ := withAssignment_ok h
    have inside : (Cursor.setAssignment _ assignment).Shortens e := inner.shortens eof run
    exact inside

theorem eat_shortens {p : Token → Bool} {c d : Cursor} {t : Token} (eof : c.eof.isEof = true)
    (source : ∀ {t}, p t = true → t.isSource = true) (h : eat p c = .ok (some t) d) :
    c.Shortens d := by
  rcases eat_ok h with ⟨_, accepted, rfl⟩ | ⟨none, _⟩
  · have here := source accepted
    exact Cursor.shortens_advance (Cursor.ready_of_isSource eof here) here
  · cases none

/-- A rule that starts with the current token takes it if it stands for text. -/
theorem shortens_of_take {k : Token → Parser β} [∀ t, Framed (k t)] {c d : Cursor} {b : β}
    (eof : c.eof.isEof = true) (source : c.current.isSource = true) (h : (take >>= k) c = .ok b d) :
    c.Shortens d :=
  take_shortens (Cursor.ready_of_isSource eof source) source h

/-! ### Tokens taken in runs -/

/-- The tokens of a run are the tokens passed over, one for one. -/
def TakesRuns (p : Parser (List Token)) : Prop :=
  ∀ {c d : Cursor} {run : List Token}, p c = .ok run d → c.ahead.length = run.length + d.ahead.length

/-- A run that is no longer than the tokens ahead. -/
theorem takesRuns_takeRun {extent : List Token → Nat} (bounded : ∀ ts, extent ts ≤ ts.length) :
    TakesRuns (takeRun extent) := by
  intro c d run h
  cases fault : c.fault with
  | some x =>
    rw [takeRun_of_fault fault] at h
    cases h
    simp
  | none =>
    rw [takeRun_of_ready fault] at h
    cases h
    have enough := bounded c.ahead
    rw [(moved_skip_of_fault fault _).2.1]
    simp
    omega

/-- How many tokens a scan passes over that starts in a state and ends where no state is next. -/
def scanLength (next : σ → Token → Option σ) : σ → List Token → Nat
  | _, [] => 0
  | s, t :: ts =>
    match next s t with
    | none => 0
    | some s => scanLength next s ts + 1

theorem scanLength_le (next : σ → Token → Option σ) (s : σ) (ts : List Token) :
    scanLength next s ts ≤ ts.length := by
  induction ts generalizing s with
  | nil => exact Nat.le_refl 0
  | cons t ts ih =>
    unfold scanLength
    cases next s t with
    | none => exact Nat.zero_le _
    | some s' => exact Nat.succ_le_succ (ih s')

/-- A round of a scan: takes the current token and adds it to those taken before. There is nothing
to take where the cursor cannot advance. -/
def scanRound (next : σ → Token → Option σ) (read : σ × List Token) :
    Parser (Option (σ × List Token)) := do
  if (← get).advance?.isNone then return none
  match next read.1 (← rawCurrent) with
  | none => return none
  | some s => return some (s, read.2 ++ [← take])

/-- The run is what the rounds of a scan take, one token after the other. -/
def TakesByRounds (next : σ → Token → Option σ) (s : σ) (p : Parser (List Token)) (c : Cursor) :
    Prop :=
  ∃ last run d, p c = .ok run d ∧ Repeats (scanRound next) (s, []) c (.ok (last, run) d)

section

variable (next : σ → Token → Option σ) (s : σ) (taken : List Token) {c : Cursor}

theorem scanRound_stuck (stuck : c.advance? = none) : scanRound next (s, taken) c = .ok none c := by
  unfold scanRound
  rw [get_bind, stuck]
  rfl

theorem scanRound_cons {t : Token} {ts : List Token} (fault : c.fault = none)
    (ahead : c.ahead = t :: ts) :
    scanRound next (s, taken) c = match next s t with
      | none => .ok none c
      | some s => .ok (some (s, taken ++ [c.normalize t])) c.advance := by
  have raw : c.rawCurrent = t := by simp [Cursor.rawCurrent, ahead]
  have current : c.current = c.normalize t := by simp [Cursor.current, fault, raw]
  have moves : c.advance?.isNone = false := by simp [Cursor.advance?, fault, ahead]
  unfold scanRound
  simp only [get_bind, moves, Bool.false_eq_true, if_false, rawCurrent_bind, raw]
  cases next s t with
  | none => rfl
  | some s =>
    simp only [take_bind, current]
    rfl

/-- All that a scan passes over at once is taken by its rounds. -/
theorem scan_repeats (fault : c.fault = none) :
    ∃ last, Repeats (scanRound next) (s, taken) c
      (.ok (last, taken ++ (c.ahead.take (scanLength next s c.ahead)).map c.normalize)
        (c.skip (scanLength next s c.ahead))) := by
  generalize ahead : c.ahead = ts
  induction ts generalizing s taken c with
  | nil =>
    have stuck : c.advance? = none := by simp [Cursor.advance?, fault, ahead]
    refine ⟨s, ?_⟩
    simpa [scanLength, c.skip_zero] using Repeats.stop (scanRound_stuck next s _ stuck)
  | cons t ts ih =>
    have round := scanRound_cons next s taken fault ahead
    cases goesOn : next s t with
    | none =>
      rw [goesOn] at round
      refine ⟨s, ?_⟩
      simpa [scanLength, goesOn, c.skip_zero] using Repeats.stop round
    | some s' =>
      rw [goesOn] at round
      have moved : c.advance = c.skip 1 := by simp [Cursor.advance, Cursor.advance?, fault, ahead]
      obtain ⟨frame, rest, fault'⟩ := moved_skip_of_fault fault 1
      rw [← moved] at frame rest fault'
      rw [ahead, List.drop_one, List.tail_cons] at rest
      have shortens : c.Shortens c.advance := by simp [Cursor.Shortens, rest, ahead]
      have same : c.advance.normalize = c.normalize := by
        funext u
        rw [Cursor.normalize, Cursor.normalize, frame.assignment]
      obtain ⟨last, more⟩ := ih s' (taken ++ [c.normalize t]) fault' rest
      rw [same, c.skip_advance, List.append_assoc, List.singleton_append] at more
      refine ⟨last, .next round shortens ?_⟩
      simpa [scanLength, goesOn] using more

end

/-- To take a run at once is to take it in rounds, whatever the state of the cursor. -/
theorem takeRun_takesByRounds {next : σ → Token → Option σ} {s : σ} {c : Cursor}
    {extent : List Token → Nat} (scans : extent = scanLength next s) :
    TakesByRounds next s (takeRun extent) c := by
  subst scans
  cases fault : c.fault with
  | some x =>
    have stuck : c.advance? = none := by simp [Cursor.advance?, fault]
    exact ⟨s, [], c, takeRun_of_fault fault, .stop (scanRound_stuck next s _ stuck)⟩
  | none =>
    obtain ⟨last, rounds⟩ := scan_repeats next s [] fault
    exact ⟨last, _, _, takeRun_of_ready fault, rounds⟩

/-- Goes on over the tokens that satisfy `p`. -/
def passing (p : Token → Bool) (_ : Unit) (t : Token) : Option Unit := if p t then some () else none

theorem length_takeWhile_eq_scanLength (p : Token → Bool) (ts : List Token) :
    (ts.takeWhile p).length = scanLength (passing p) () ts := by
  induction ts with
  | nil => rfl
  | cons t ts ih => by_cases passes : p t <;> simp [scanLength, passing, passes, ih]

theorem length_takeWhile_le (p : Token → Bool) (ts : List Token) :
    (ts.takeWhile p).length ≤ ts.length :=
  (List.takeWhile_sublist p).length_le

/-- All tokens are read, and without fail. -/
theorem readToEnd_ahead (c : Cursor) : ∃ read d, readToEnd c = .ok read d ∧ d.ahead = [] := by
  have rest : (c.clear.skip c.ahead.length).ahead = [] := by
    rw [(moved_skip_of_fault (c := c.clear) rfl _).2.1]
    exact List.drop_length
  unfold readToEnd
  simp only [modify_bind, get_bind]
  cases (c.clear.skip c.ahead.length).recorded.getLast? with
  | none => exact ⟨_, _, rfl, rest⟩
  | some t =>
    by_cases semicolon : t.kind = .semicolon
    · simp only [if_pos semicolon]
      exact ⟨_, _, rfl, rest⟩
    · simp only [if_neg semicolon]
      exact ⟨_, _, rfl, rest⟩

/-- The closing parenthesis is taken, or all tokens are. -/
theorem readToCloseParen_ahead {c : Cursor} (eof : c.eof.isEof = true) :
    (∃ read d, readToCloseParen c = .ok read d ∧ c.Shortens d) ∨
      ∃ e d, readToCloseParen c = .error e d ∧ d.ahead = [] := by
  unfold readToCloseParen
  simp only [modify_bind, get_bind]
  cases distance : closingDistance? (openParens c.clear.recorded) c.clear.ahead with
  | none =>
    refine .inr ⟨_, _, rfl, ?_⟩
    change (c.clear.skip c.ahead.length).ahead = []
    rw [(moved_skip_of_fault (c := c.clear) rfl _).2.1]
    exact List.drop_length
  | some n =>
    obtain ⟨t, rest, closing, kind⟩ := closingDistance?_spec distance
    obtain ⟨moved, ahead, fault⟩ := moved_skip_of_fault (c := c.clear) rfl n
    have ready : (c.clear.skip n).Ready := ⟨fault, moved.eof ▸ eof⟩
    refine .inl ⟨_, _, rfl, ?_⟩
    have left : (c.clear.skip n).ahead = t :: rest := ahead.trans closing
    have before : (c.clear.skip n).ahead.length ≤ c.ahead.length := moved.length_le
    rw [Cursor.advance_eq ready left]
    rw [left] at before
    exact before

/-! ### The last tokens of the input -/

/-- Two parsers that do the same with fewer than `n` tokens ahead. -/
def AgreeBelow (n : Nat) (p q : Parser α) : Prop :=
  ∀ c : Cursor, c.eof.isEof = true → c.ahead.length < n → p c = q c

namespace AgreeBelow

variable {n : Nat}

theorem refl (p : Parser α) : AgreeBelow n p p := fun _ _ _ => rfl

/-- A parser that has run leaves no more tokens ahead than there were. -/
theorem bind {p q : Parser α} {f g : α → Parser β} [Framed p] (first : AgreeBelow n p q)
    (rest : ∀ a, AgreeBelow n (f a) (g a)) : AgreeBelow n (p >>= f) (q >>= g) := by
  intro c eof few
  simp only [Bind.bind, EStateM.bind, ← first c eof few]
  cases run : p c with
  | error e d => rfl
  | ok a d =>
    obtain ⟨raw, moved⟩ := Framed.ok run
    exact rest a d (moved.eof ▸ eof) (Nat.lt_of_le_of_lt moved.length_le few)

theorem rounds {step step' : σ → Parser (Option σ)} [∀ s, Framed (step s)]
    (same : ∀ s, AgreeBelow n (step s) (step' s)) (limit : Nat) (s : σ) :
    AgreeBelow n (Parser.rounds step limit s) (Parser.rounds step' limit s) := by
  induction limit generalizing s with
  | zero => exact refl _
  | succ limit ih =>
    unfold Parser.rounds
    refine bind (same s) fun next => ?_
    cases next with
    | none => exact refl _
    | some t => exact ih t

theorem loop {step step' : σ → Parser (Option σ)} [∀ s, Framed (step s)]
    (same : ∀ s, AgreeBelow n (step s) (step' s)) (s : σ) :
    AgreeBelow n (Parser.loop step s) (Parser.loop step' s) :=
  fun c eof few => rounds same _ s c eof few

theorem commaSeparated {item item' : Parser α} [Framed item] (same : AgreeBelow n item item') :
    AgreeBelow n (Parser.commaSeparated item) (Parser.commaSeparated item') := by
  refine bind same fun first => loop (fun read => ?_) _
  unfold commaItem
  refine bind (refl _) fun comma => ?_
  cases comma with
  | none => exact refl _
  | some comma => exact bind same fun a => refl _

end AgreeBelow

end Parser

end TransactSql
