import TransactSql.Proofs.Parser.Following

/-!
# Cursors stand still at an error

From the first error on nothing but the scopes moves until the error is cleared: later errors are
told in front of the first one, which keeps its place, and the cursor is then found where it was.
-/

namespace TransactSql

/-! ### What operations leave behind -/

namespace Cursor.Operation

/-- What an operation says against the token `t` if it fails there. -/
def complaint? (t : Token) : Operation → Option String
  | .install message => some message
  | .expect p what true =>
    if p t then none else some ("expected " ++ what ++ ", found " ++ t.describe)
  | _ => none

/-- What an operation adds to an error that is there. -/
def addition? : Operation → Option String
  | .install message => some message
  | .expect _ what true => some ("expected " ++ what)
  | _ => none

/-- The messages of a first error and of those since, the last one first. -/
def told (root : String) (since : List Operation) : List String :=
  (since.filterMap addition?).reverse ++ [root]

/-- The context that an operation sets. -/
def context? : Operation → Option Bool
  | .setAssignment assignment => some assignment
  | _ => none

/-- The context after operations that began in the context `assignment`. -/
def contextAfter (assignment : Bool) (since : List Operation) : Bool :=
  (since.filterMap context?).getLastD assignment

/-- What an operation that passes over nothing does to the recordings. -/
def record : Operation → List (List Token) → List (List Token)
  | .beginRecording, recordings => [] :: recordings
  | .endRecording, recordings => recordings.tail
  | _, recordings => recordings

/-- How many recordings were opened and are still open, and how many of those from before were closed,
one operation further. -/
def turnover : Nat × Nat → Operation → Nat × Nat
  | (opened, closed), .beginRecording => (opened + 1, closed)
  | (0, closed), .endRecording => (0, closed + 1)
  | (opened + 1, closed), .endRecording => (opened, closed)
  | counts, _ => counts

/-- The recordings after operations that pass over nothing: those opened are empty, and those from
before that are still open are as they were. -/
def recordingsAfter (recordings : List (List Token)) (since : List Operation) : List (List Token) :=
  let (opened, closed) := since.foldl turnover (0, 0)
  List.replicate opened [] ++ recordings.drop closed

theorem intercalate_told_concat (root : String) (since : List Operation) (op : Operation) :
    ": ".intercalate (told root (since ++ [op])) =
      op.addition?.elim "" (· ++ ": ") ++ ": ".intercalate (told root since) := by
  have chained (message : String) : ": ".intercalate (message :: told root since) =
      message ++ ": " ++ ": ".intercalate (told root since) := by
    unfold told
    cases (since.filterMap addition?).reverse <;> simp [String.append_assoc]
  cases addition : op.addition? with
  | none => simp [told, addition]
  | some message =>
    rw [Option.elim_some, ← chained]
    simp [told, addition]

theorem contextAfter_concat (assignment : Bool) (since : List Operation) (op : Operation) :
    contextAfter assignment (since ++ [op]) = op.context?.getD (contextAfter assignment since) := by
  cases context : op.context? <;> simp [contextAfter, context]

theorem recordingsAfter_concat (recordings : List (List Token)) (since : List Operation)
    (op : Operation) :
    recordingsAfter recordings (since ++ [op]) = op.record (recordingsAfter recordings since) := by
  unfold recordingsAfter
  rw [List.foldl_append]
  obtain ⟨opened, closed⟩ := since.foldl turnover (0, 0)
  cases op with
  | beginRecording => rfl
  | endRecording =>
    cases opened with
    | zero => simp [turnover, record]
    | succ opened => simp [turnover, record, List.replicate_succ]
  | _ => rfl

end Cursor.Operation

/-! ### Cursors on sources -/

namespace SourceCursor

open TokenSource
open Cursor (Operation)

variable {r d : SourceCursor σ} {root : String} {since : List Operation}

/-- The cursor is at `d`, having been at `r` when the first error came, with the message `root`, and
having done the operations `since`. -/
structure Halted (r : SourceCursor σ) (root : String) (since : List Operation)
    (d : SourceCursor σ) : Prop where
  source : d.source = r.source
  rawCurrent : d.rawCurrent = r.rawCurrent
  lookahead : d.lookahead = r.lookahead
  eofHits : d.eofHits = r.eofHits
  assignment : d.assignment = Operation.contextAfter r.assignment since
  recordings : d.recordings = Operation.recordingsAfter r.recordings since
  error : d.error =
    some (.error (": ".intercalate (Operation.told root since)) r.rawCurrent.span)

/-- The error that is installed where there is none stands at the current token. -/
theorem Regular.halted_install (regular : r.Regular) (ready : r.error = none) (message : String) :
    r.Halted message [] (r.install message).2 where
  source := rfl
  rawCurrent := rfl
  lookahead := rfl
  eofHits := rfl
  assignment := rfl
  recordings := rfl
  error := by simp [install, ready, regular.span, Operation.told]

variable [TokenSource σ]

/-- What a cursor is found to be from the first error on, see `Halted`. -/
structure Stopped (r : SourceCursor σ) (root : String) (since : List Operation)
    (d : SourceCursor σ) : Prop extends r.Halted root since d where
  current : d.current = .error (": ".intercalate (Operation.told root since)) r.rawCurrent.span
  advance : d.advance = (false, d)
  expect : ∀ p what required, (d.expect p what required).1 = none
  /-- Without the error the cursor stands on the token that it stood on. -/
  clear : d.clear.current =
    if Operation.contextAfter r.assignment since then r.rawCurrent.asAssignment else r.rawCurrent

theorem error_advance (r : SourceCursor σ) : r.advance.2.error = r.error := by
  unfold advance
  split
  · rfl
  · split <;> rfl

/-- An operation that brings the first error has a complaint against the current token. -/
theorem Regular.halted_perform (regular : r.Regular) (ready : r.error = none) (op : Operation)
    (raises : (r.perform op).error ≠ none) :
    ∃ root, op.complaint? r.current = some root ∧ r.Halted root [] (r.perform op) := by
  have here : r.current = r.normalized := by simp [current, ready]
  cases op with
  | install message => exact ⟨message, rfl, regular.halted_install ready message⟩
  | expect p what required =>
    cases wanted : p r.normalized with
    | true =>
      refine absurd ?_ raises
      simp [perform, expect, ready, wanted, error_advance]
    | false =>
      cases required with
      | false => exact absurd (by simp [perform, expect, ready, wanted]) raises
      | true =>
        refine ⟨"expected " ++ what ++ ", found " ++ r.normalized.describe, ?_, ?_⟩
        · simp [Operation.complaint?, here, wanted]
        · simpa [perform, expect, ready, wanted] using regular.halted_install ready _
  | advance => exact absurd ((error_advance r).trans ready) raises
  | clear => exact absurd rfl raises
  | setAssignment assignment => exact absurd ready raises
  | beginRecording => exact absurd ready raises
  | endRecording => exact absurd ready raises

/-- At an error an operation changes nothing but the message, the context and the recordings. -/
theorem perform_of_error {e : Token} (error : d.error = some e) (op : Operation)
    (kept : op ≠ .clear) : d.perform op = { d with
      error := some (op.addition?.elim e fun message =>
        .error (message ++ ": " ++ e.errorMessage?.getD "") e.span)
      assignment := op.context?.getD d.assignment
      normalized := op.context?.elim d.normalized fun assignment =>
        if assignment then d.rawCurrent.asAssignment else d.rawCurrent
      recordings := op.record d.recordings } := by
  obtain ⟨source, rawCurrent, normalized, lookahead, _, assignment, eofHits, recordings⟩ := d
  cases error
  cases op with
  | expect p what required => cases required <;> rfl
  | clear => exact absurd rfl kept
  | _ => rfl

theorem Halted.perform (halted : r.Halted root since d) (op : Operation) (kept : op ≠ .clear) :
    r.Halted root (since ++ [op]) (d.perform op) := by
  rw [perform_of_error halted.error op kept]
  refine ⟨halted.source, halted.rawCurrent, halted.lookahead, halted.eofHits, ?_, ?_, ?_⟩
  · rw [Operation.contextAfter_concat, ← halted.assignment]
  · rw [Operation.recordingsAfter_concat, ← halted.recordings]
  · rw [Operation.intercalate_told_concat]
    cases op.addition? <;> simp [Token.error, Token.errorMessage?]

theorem Halted.run (halted : r.Halted root since d) (ops : List Operation) (kept : .clear ∉ ops) :
    r.Halted root (since ++ ops) (d.run ops) := by
  induction ops generalizing since d with
  | nil => rwa [List.append_nil]
  | cons op ops ih =>
    rw [List.mem_cons, not_or] at kept
    rw [List.append_cons]
    exact ih (halted.perform op (Ne.symm kept.1)) kept.2

theorem Halted.stopped (halted : r.Halted root since d) (regular : d.Regular) :
    r.Stopped root since d where
  toHalted := halted
  current := by rw [current, halted.error, Option.getD_some]
  advance := advance_of_error halted.error
  expect p what required := by cases required <;> simp [expect, halted.error]
  clear := by
    have here : d.clear.current = d.normalized := rfl
    rw [here, regular.normalized, normalize, halted.assignment, halted.rawCurrent]

end SourceCursor

/-! ### Cursors on lists -/

namespace Cursor

variable {c : Cursor} {op : Operation} {ops : List Operation}

/-- The cursor `d` stands where `c` stands, and neither moves nor takes a token. -/
structure StandsStill (c d : Cursor) : Prop where
  ahead : d.ahead = c.ahead
  eof : d.eof = c.eof
  advance : d.advance? = none
  expect : ∀ p what required, (d.expect p what required).1 = none

theorem fault_advance (c : Cursor) : c.advance.fault = c.fault := by
  unfold advance advance? skip
  cases fault : c.fault <;> cases c.ahead <;> simp [fault]

theorem standsStill_of_fault {d : Cursor} (ahead : d.ahead = c.ahead) (eof : d.eof = c.eof)
    (faulty : d.fault ≠ none) : c.StandsStill d := by
  obtain ⟨x, fault⟩ := Option.ne_none_iff_exists'.mp faulty
  refine ⟨ahead, eof, by simp [advance?, fault], fun p what required => ?_⟩
  cases required <;> simp [Cursor.expect, fault]

theorem perform_expect_of_fault {x : Diagnostic} (fault : c.fault = some x) (p : Token → Bool)
    (what : String) (required : Bool) : c.perform (.expect p what required) =
      if required then c.install (.expected what) else c := by
  cases required <;> simp [perform, expect, fault]

/-- An operation that leaves a fault has moved nothing. -/
theorem place_perform (faulty : (c.perform op).fault ≠ none) :
    (c.perform op).ahead = c.ahead ∧ (c.perform op).eof = c.eof := by
  have still (faulty : c.advance.fault ≠ none) : c.advance = c := by
    rw [fault_advance] at faulty
    simp [advance, advance?, Option.isSome_iff_ne_none.mpr faulty]
  cases op with
  | advance =>
    have same : c.perform .advance = c := still faulty
    rw [same]
    exact ⟨rfl, rfl⟩
  | expect p what required =>
    cases fault : c.fault with
    | some x =>
      rw [perform_expect_of_fault fault]
      cases required <;> exact ⟨rfl, rfl⟩
    | none =>
      cases wanted : p c.current with
      | true =>
        have moved : c.perform (.expect p what required) = c.advance := by
          simp [perform, expect, fault, wanted]
        rw [moved, fault_advance] at faulty
        exact absurd fault faulty
      | false => cases required <;> simp [perform, expect, fault, wanted, install]
  | clear => exact absurd rfl faulty
  | _ => exact ⟨rfl, rfl⟩

theorem fault_perform (faulty : c.fault ≠ none) (kept : op ≠ .clear) :
    (c.perform op).fault ≠ none := by
  obtain ⟨x, fault⟩ := Option.ne_none_iff_exists'.mp faulty
  cases op with
  | advance =>
    have same : (c.perform .advance).fault = c.fault := c.fault_advance
    rwa [same]
  | expect p what required =>
    rw [perform_expect_of_fault fault]
    cases required with
    | true => exact nofun
    | false => exact faulty
  | install message => exact nofun
  | clear => exact absurd rfl kept
  | _ => exact faulty

theorem place_run (faulty : c.fault ≠ none) (kept : .clear ∉ ops) :
    (c.run ops).fault ≠ none ∧ (c.run ops).ahead = c.ahead ∧ (c.run ops).eof = c.eof := by
  induction ops generalizing c with
  | nil => exact ⟨faulty, rfl, rfl⟩
  | cons op ops ih =>
    rw [List.mem_cons, not_or] at kept
    have faulty' := fault_perform faulty (Ne.symm kept.1)
    obtain ⟨stays, ahead, eof⟩ := ih faulty' kept.2
    obtain ⟨ahead', eof'⟩ := place_perform faulty'
    exact ⟨stays, ahead.trans ahead', eof.trans eof'⟩

end Cursor

/-! ### From the first error on -/

namespace SourceCursor

open TokenSource
open Cursor (Operation)

/-- Take any source, operations `before` that leave no error, an operation `op` that brings the first
one, and operations `since` that do not clear it. Then the cursor is stopped where that error came,
and a cursor on a list of enough of the tokens of the source stands still there too. Whatever is
done, the two look the same, and the source is not polled again once it has given the end of input. -/
theorem run_stops_at_error [TokenSource σ] (s : σ) (before since : List Operation) (op : Operation)
    (ready : ((start s).run before).error = none)
    (raises : (((start s).run before).perform op).error ≠ none) (kept : .clear ∉ since) :
    let r := (start s).run before
    (∃ root, op.complaint? r.current = some root ∧
      r.Stopped root since ((r.perform op).run since)) ∧
    (∀ n, before.length + since.length + 3 ≤ n →
      let c := (Cursor.ofTokens (upcoming n s)).run before
      c.StandsStill ((c.perform op).run since)) ∧
    ∀ ops,
      (∀ n, ops.length + 2 ≤ n →
        ((start s).run ops).Shows ((Cursor.ofTokens (upcoming n s)).run ops)) ∧
      let logged := (start (Logged.mk s [])).run ops
      logged.bare = (start s).run ops ∧ ∀ t ∈ logged.source.given.dropLast, t.isEof = false := by
  intro r
  have regular : r.Regular := (regular_start s).run before
  refine ⟨?_, fun n enough => ?_, fun ops => ⟨fun n enough => shows_run s ops enough, ?_,
    isEof_given s ops⟩⟩
  · obtain ⟨root, complaint, halted⟩ := regular.halted_perform ready op raises
    have goesOn := (regular.goes (r.goes_perform op)).run since
    exact ⟨root, complaint, (halted.run since kept).stopped goesOn⟩
  · intro c
    have follows : Follows (since.length + 1) r c := follows_run s before (by omega)
    have raised := follows.perform regular op
    have faulty : (c.perform op).fault ≠ none :=
      fun ready => raises (raised.fault_eq_none.mpr ready)
    obtain ⟨ahead, eof⟩ := Cursor.place_perform faulty
    obtain ⟨stays, ahead', eof'⟩ := Cursor.place_run faulty kept
    exact Cursor.standsStill_of_fault (ahead'.trans ahead) (eof'.trans eof) stays
  · rw [bare_run, bare_start]

/-- A variable is required at `=`. Of the operations behind that, two add to the error, one opens a
recording and one sets the context in which `=` is found again. -/
theorem run_stops_at_error_variable :
    let a := Token.word "a" ⟨0, 1⟩
    let sign : Token := ⟨.comparison .eq, "=", ⟨2, 3⟩, [], []⟩
    let before : List Operation := [.beginRecording, .advance]
    let op : Operation := .expect Token.isVariable "variable" true
    let since : List Operation :=
      [.install "invalid target", .beginRecording, .setAssignment true, .advance,
        .expect (fun _ => true) "';'" true]
    let r := (start [a, sign]).run before
    let d := (r.perform op).run since
    r.error = none ∧ (r.perform op).error ≠ none ∧ .clear ∉ since ∧
      d.source = [] ∧ d.rawCurrent = sign ∧ d.recordings = [[], [a]] ∧ d.advance = (false, d) ∧
      d.current =
        .error "expected ';': invalid target: expected variable, found '='" ⟨2, 3⟩ ∧
      d.clear.current = { sign with kind := .assignment none } := by
  intro a sign before op since r d
  have ready : r.error = none := rfl
  have raises : (r.perform op).error ≠ none := nofun
  have kept : .clear ∉ since := by simp [since]
  obtain ⟨⟨root, complaint, stopped⟩, -⟩ :=
    run_stops_at_error [a, sign] before since op ready raises kept
  have rooted : "expected variable, found '='" = root := Option.some.inj complaint
  subst rooted
  exact ⟨ready, raises, kept, stopped.source, stopped.rawCurrent, stopped.recordings,
    stopped.advance, stopped.current, stopped.clear⟩

end SourceCursor

end TransactSql
