import TransactSql.Parser.Extent

/-!
# What every parser leaves alone

However a parser ends, it has passed over tokens from the front of those ahead, every recording
that was open holds just these tokens more, and the context is the one before. The instances of
`Framed` follow the combinators, so a grammar rule is framed because its parts are.
-/

namespace TransactSql

/-- From one cursor to another over the tokens `raw`. The fault may be another one. -/
structure Cursor.Moved (c : Cursor) (raw : List Token) (d : Cursor) : Prop where
  ahead : c.ahead = raw ++ d.ahead
  recordings : d.recordings = c.recordings.map (· ++ raw)
  assignment : d.assignment = c.assignment
  eof : d.eof = c.eof

namespace Cursor

theorem moved_nil {c d : Cursor} (ahead : d.ahead = c.ahead) (recordings : d.recordings = c.recordings)
    (assignment : d.assignment = c.assignment) (eof : d.eof = c.eof) : c.Moved [] d :=
  ⟨ahead.symm, by simp [recordings], assignment, eof⟩

theorem Moved.refl (c : Cursor) : c.Moved [] c := moved_nil rfl rfl rfl rfl

theorem Moved.trans {c d e : Cursor} {raw more : List Token} (h : c.Moved raw d)
    (h' : d.Moved more e) : c.Moved (raw ++ more) e where
  ahead := by rw [h.ahead, h'.ahead, List.append_assoc]
  recordings := by
    rw [h'.recordings, h.recordings, List.map_map]
    simp [Function.comp_def]
  assignment := h'.assignment.trans h.assignment
  eof := h'.eof.trans h.eof

theorem skip_zero (c : Cursor) : c.skip 0 = c := by
  obtain ⟨ahead, eof, fault, assignment, recordings⟩ := c
  cases fault <;> simp [skip]

/-- To pass over tokens is to advance as many times. -/
theorem skip_advance (c : Cursor) (n : Nat) : c.advance.skip n = c.skip (n + 1) := by
  cases fault : c.fault with
  | some x => simp [advance, advance?, skip, fault]
  | none =>
    cases ahead : c.ahead with
    | nil => simp [advance, advance?, skip, fault, ahead]
    | cons t rest => simp [advance, advance?, skip, fault, ahead, Function.comp_def]

theorem moved_install (c : Cursor) (f : Fault) : c.Moved [] (c.install f) := moved_nil rfl rfl rfl rfl

theorem moved_clear (c : Cursor) : c.Moved [] c.clear := moved_nil rfl rfl rfl rfl

theorem moved_skip (c : Cursor) (n : Nat) : ∃ raw, c.Moved raw (c.skip n) := by
  unfold skip
  split
  · exact ⟨[], .refl c⟩
  · exact ⟨c.ahead.take n, (List.take_append_drop n c.ahead).symm, rfl, rfl, rfl⟩

theorem moved_advance (c : Cursor) : ∃ raw, c.Moved raw c.advance := by
  unfold advance advance?
  split
  · exact ⟨[], .refl c⟩
  · exact moved_skip c 1

theorem moved_expect (c : Cursor) (p : Token → Bool) (what : String) (required : Bool) :
    ∃ raw, c.Moved raw (c.expect p what required).2 := by
  unfold expect
  split
  · exact moved_advance c
  · split
    · exact ⟨[], moved_install c _⟩
    · exact ⟨[], .refl c⟩

end Cursor

namespace Parser

/-- The cursor where a run ends, with a value or a failure. -/
def final (p : Parser α) (c : Cursor) : Cursor :=
  match p c with
  | .ok _ d => d
  | .error _ d => d

theorem final_ok {p : Parser α} {c d : Cursor} {a : α} (h : p c = .ok a d) : p.final c = d := by
  simp [final, h]

theorem final_error {p : Parser α} {c d : Cursor} {e : Failure} (h : p c = .error e d) :
    p.final c = d := by
  simp [final, h]

/-- All that a run does to the cursor, apart from faults, is to pass over tokens. -/
class Framed (p : Parser α) : Prop where
  moved : ∀ c : Cursor, ∃ raw, c.Moved raw (p.final c)

theorem final_moved (p : Parser α) [Framed p] (c : Cursor) : ∃ raw, c.Moved raw (p.final c) :=
  Framed.moved c

theorem Framed.ok {p : Parser α} [framed : Framed p] {c d : Cursor} {a : α} (h : p c = .ok a d) :
    ∃ raw, c.Moved raw d := final_ok h ▸ framed.moved c

theorem Framed.error {p : Parser α} [framed : Framed p] {c d : Cursor} {e : Failure}
    (h : p c = .error e d) : ∃ raw, c.Moved raw d := final_error h ▸ framed.moved c

/-! ### Sequences and choices -/

instance (a : α) : Framed (pure a : Parser α) := ⟨fun c => ⟨[], .refl c⟩⟩

instance (e : Failure) : Framed (throw e : Parser α) := ⟨fun c => ⟨[], .refl c⟩⟩

instance : Framed (get : Parser Cursor) := ⟨fun c => ⟨[], .refl c⟩⟩

theorem Framed.bind {p : Parser α} {f : α → Parser β} (hp : Framed p) (hf : ∀ a, Framed (f a)) :
    Framed (p >>= f) := by
  refine ⟨fun c => ?_⟩
  cases run : p c with
  | error e d =>
    have stopped : (p >>= f) c = .error e d := by simp [Bind.bind, EStateM.bind, run]
    rw [final_error stopped]
    exact hp.error run
  | ok a d =>
    have goesOn : (p >>= f).final c = (f a).final d := by
      simp [final, Bind.bind, EStateM.bind, run]
    obtain ⟨raw, moved⟩ := hp.ok run
    obtain ⟨more, moved'⟩ := (hf a).moved d
    rw [goesOn]
    exact ⟨raw ++ more, moved.trans moved'⟩

instance {p : Parser α} {f : α → Parser β} [hp : Framed p] [hf : ∀ a, Framed (f a)] :
    Framed (p >>= f) := .bind hp hf

instance {b : Prop} [Decidable b] {p q : Parser α} [Framed p] [Framed q] :
    Framed (if b then p else q) := by
  split <;> infer_instance

/-! ### Parsers of tokens -/

instance : Framed current := by unfold current; infer_instance

instance : Framed rawCurrent := by unfold rawCurrent; infer_instance

instance : Framed lookahead := by unfold lookahead; infer_instance

instance (k : TokenKind) : Framed (atKind k) := by unfold atKind; infer_instance

instance (k : Keyword) : Framed (atKeyword k) := by unfold atKeyword; infer_instance

instance (k l : Keyword) : Framed (atKeywords k l) := by unfold atKeywords; infer_instance

instance : Framed atEnd := by unfold atEnd; infer_instance

instance : Framed take := ⟨fun c => c.moved_advance⟩

instance (p : Token → Bool) : Framed (eat p) := ⟨fun c => c.moved_expect p "" false⟩

instance (k : Keyword) : Framed (eatKeyword k) := by unfold eatKeyword; infer_instance

instance (ks : List Keyword) : Framed (eatAnyKeyword ks) := by unfold eatAnyKeyword; infer_instance

instance (k : TokenKind) : Framed (eatKind k) := by unfold eatKind; infer_instance

theorem takeRun_of_fault {extent : List Token → Nat} {c : Cursor} {x : Diagnostic}
    (fault : c.fault = some x) : takeRun extent c = .ok [] c := by
  have run : takeRun extent c = .ok _ _ := rfl
  rw [run, fault]
  rfl

theorem takeRun_of_ready {extent : List Token → Nat} {c : Cursor} (fault : c.fault = none) :
    takeRun extent c
      = .ok ((c.ahead.take (extent c.ahead)).map c.normalize) (c.skip (extent c.ahead)) := by
  have run : takeRun extent c = .ok _ _ := rfl
  rw [run, fault]
  rfl

instance (extent : List Token → Nat) : Framed (takeRun extent) := by
  refine ⟨fun c => ?_⟩
  cases fault : c.fault with
  | some x =>
    rw [final_ok (takeRun_of_fault fault)]
    exact ⟨[], .refl c⟩
  | none =>
    rw [final_ok (takeRun_of_ready fault)]
    exact c.moved_skip _

instance : Framed terminator := by unfold terminator; infer_instance

instance : Framed optionalAs := by unfold optionalAs; infer_instance

instance (f : Fault) : Framed (fail f : Parser α) := ⟨fun c => ⟨[], c.moved_install f⟩⟩

instance (what : String) : Framed (failExpected what : Parser α) := by
  unfold failExpected; infer_instance

instance : Framed (failAtError : Parser α) := by
  unfold failAtError
  refine .bind inferInstance fun c => ?_
  split <;> infer_instance

instance (p : Token → Bool) (what : String) : Framed (require p what) := by
  refine ⟨fun c => ?_⟩
  obtain ⟨raw, moved⟩ := c.moved_expect p what true
  refine ⟨raw, ?_⟩
  unfold final require
  generalize c.expect p what true = found at moved
  obtain ⟨_ | t, d⟩ := found
  · exact moved
  · exact moved

instance (k : Keyword) : Framed (keyword k) := by unfold keyword; infer_instance

instance (k : TokenKind) (what : String) : Framed (kind k what) := by unfold kind; infer_instance

instance (what : String) : Framed (word what) := by unfold word; infer_instance

instance (what : String) : Framed (identifier what) := by unfold identifier; infer_instance

instance : Framed variableName := by unfold variableName; infer_instance

instance : Framed leftParen := by unfold leftParen; infer_instance

instance : Framed rightParen := by unfold rightParen; infer_instance

instance (made : Shaped α) : Framed (build made) := by
  unfold build
  split <;> infer_instance

instance : Framed expectEnd := by
  unfold expectEnd
  refine .bind inferInstance fun done => ?_
  split
  · infer_instance
  · refine .bind inferInstance fun c => ?_
    split <;> infer_instance

/-! ### Control -/

instance (p : Parser α) [Framed p] : Framed (attempt p) := by
  refine ⟨fun c => ?_⟩
  obtain ⟨raw, moved⟩ := final_moved p c
  refine ⟨raw, ?_⟩
  unfold final attempt at *
  generalize p c = reply at moved
  cases reply <;> exact moved

instance (f : Fault) (p : Parser α) [Framed p] : Framed (context f p) := by
  refine ⟨fun c => ?_⟩
  obtain ⟨raw, moved⟩ := final_moved p c
  unfold final context at *
  generalize p c = reply at moved
  cases reply with
  | ok a d => exact ⟨raw, moved⟩
  | error e d =>
    cases e with
    | grammar _ => exact ⟨raw ++ [], moved.trans (d.moved_install f)⟩
    | _ => exact ⟨raw, moved⟩

/-- The context inside ends with `p`. -/
theorem moved_setAssignment {c d : Cursor} {raw : List Token} {assignment : Bool}
    (h : (c.setAssignment assignment).Moved raw d) : c.Moved raw (d.setAssignment c.assignment) :=
  ⟨h.ahead, h.recordings, rfl, h.eof⟩

theorem Framed.withAssignment {p : Parser α} (assignment : Bool) (hp : Framed p) :
    Framed (Parser.withAssignment assignment p) := by
  refine ⟨fun c => ?_⟩
  obtain ⟨raw, moved⟩ := final_moved p (c.setAssignment assignment)
  refine ⟨raw, ?_⟩
  unfold final Parser.withAssignment at *
  generalize p (c.setAssignment assignment) = reply at moved
  cases reply <;> exact moved_setAssignment moved

instance (assignment : Bool) (p : Parser α) [hp : Framed p] : Framed (withAssignment assignment p) :=
  hp.withAssignment assignment

/-- The recording inside ends with `p` and leaves the others as they would be without it. -/
theorem moved_endRecording {c d : Cursor} {raw : List Token} (h : c.beginRecording.Moved raw d) :
    c.Moved raw d.endRecording :=
  ⟨h.ahead, by simp [Cursor.endRecording, h.recordings, Cursor.beginRecording], h.assignment, h.eof⟩

theorem Framed.recording {p : Parser α} (hp : Framed p) : Framed (Parser.recording p) := by
  refine ⟨fun c => ?_⟩
  obtain ⟨raw, moved⟩ := final_moved p c.beginRecording
  refine ⟨raw, ?_⟩
  unfold final Parser.recording at *
  generalize p c.beginRecording = reply at moved
  cases reply <;> exact moved_endRecording moved

instance (p : Parser α) [hp : Framed p] : Framed (recording p) := hp.recording

instance (step : σ → Parser (Option σ)) [∀ s, Framed (step s)] (limit : Nat) (s : σ) :
    Framed (rounds step limit s) := by
  induction limit generalizing s with
  | zero => unfold rounds; infer_instance
  | succ limit ih =>
    unfold rounds
    refine .bind inferInstance fun next => ?_
    split
    · infer_instance
    · exact ih _

instance (step : σ → Parser (Option σ)) [∀ s, Framed (step s)] (s : σ) : Framed (loop step s) := by
  unfold loop; infer_instance

instance (item : Parser α) [Framed item] (read : List α × List Token) : Framed (commaItem item read) := by
  unfold commaItem
  refine .bind inferInstance fun comma => ?_
  split <;> infer_instance

instance (first : α) (item : Parser α) [Framed item] : Framed (commaTail first item) := by
  unfold commaTail; infer_instance

instance (item : Parser α) [Framed item] : Framed (commaSeparated item) := by
  unfold commaSeparated; infer_instance

/-! ### Tokens kept raw -/

theorem framed_modify {f : Cursor → Cursor} (h : ∀ c : Cursor, ∃ raw, c.Moved raw (f c)) :
    Framed (modify f : Parser PUnit) := ⟨h⟩

instance : Framed readToCloseParen := by
  unfold readToCloseParen
  refine .bind (framed_modify fun c => ⟨[], c.moved_clear⟩) fun _ => .bind inferInstance fun c => ?_
  split
  · exact .bind (framed_modify fun d => d.moved_skip _) fun _ => inferInstance
  · exact .bind (framed_modify fun d => d.moved_skip _) fun _ => inferInstance

instance : Framed readToEnd := by
  unfold readToEnd
  refine .bind (framed_modify fun c => ?_) fun _ => .bind inferInstance fun c => ?_
  · obtain ⟨raw, moved⟩ := c.clear.moved_skip c.ahead.length
    exact ⟨[] ++ raw, c.moved_clear.trans moved⟩
  · dsimp only
    split
    · split <;> infer_instance
    · infer_instance

end Parser

end TransactSql
