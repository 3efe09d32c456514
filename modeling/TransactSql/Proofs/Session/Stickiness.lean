import TransactSql.Proofs.Grammar.StatementSettling
import TransactSql.Proofs.Parser.Repetition
import TransactSql.Proofs.Session.Scopes

/-!
# Faults stick

A step that is accepted leaves no fault, and one that fails in the grammar leaves the fault that it
tells. From then on nothing moves: every parser tells the same fault again, and the input never
counts as read to its end.
-/

namespace TransactSql

/-! ### Parsers at a fault -/

namespace Cursor

theorem current_of_fault {c : Cursor} {x : Diagnostic} (faulty : c.fault = some x) :
    c.current = .error x.message x.span := by
  simp [current, faulty]

/-- Whatever list of tokens it is on, a new cursor has no fault. -/
theorem ready_ofTokens (ts : List Token) : (ofTokens ts).Ready := ⟨rfl, isEof_ofTokens ts⟩

end Cursor

namespace Parser

variable {c : Cursor} {x : Diagnostic}

theorem failAtError_of_fault (faulty : c.fault = some x) :
    (failAtError : Parser α) c = .error (.grammar x) c := by
  unfold failAtError
  rw [get_bind, faulty]
  rfl

theorem expr_of_fault (depth : Nat) (min : Precedence) (faulty : c.fault = some x) :
    expr (depth + 1) min c = .error (.grammar x) c := by
  have first : Grammar.operand (expr depth) c = .error (.grammar x) c := by
    unfold Grammar.operand
    rw [current_bind, Cursor.current_of_fault faulty]
    exact failAtError_of_fault faulty
  unfold expr Grammar.expression
  exact bind_of_error _ first

theorem statement_of_fault (depth : Nat) (faulty : c.fault = some x) :
    statement (depth + 1) c = .error (.grammar x) c := by
  unfold statement Grammar.anyStatement
  rw [current_bind, Cursor.current_of_fault faulty]
  exact failAtError_of_fault faulty

theorem statements_of_fault (depth : Nat) (faulty : c.fault = some x) :
    statements (depth + 1) c = .error (.grammar x) c := by
  have first : Grammar.moreStatements (statement (depth + 1)) [] c = .error (.grammar x) c := by
    unfold Grammar.moreStatements
    rw [atEnd_bind, Cursor.current_of_fault faulty]
    exact bind_of_error _ (statement_of_fault depth faulty)
  unfold statements Grammar.statements loop
  rw [get_bind]
  exact bind_of_error _ first

theorem expectEnd_of_fault (faulty : c.fault = some x) :
    expectEnd c = .error (.grammar x) c := by
  unfold expectEnd
  rw [atEnd_bind, Cursor.current_of_fault faulty, if_neg nofun, get_bind, faulty]
  rfl

end Parser

/-! ### Steps -/

namespace Session

open TransactSql.Parser

variable {ts : List Token} {c : Cursor} {x : Diagnostic}

/-- What a step gives at a cursor with the fault `x`. -/
def Step.inert (x : Diagnostic) : Step → Except Failure Reply
  | .atEnd => .ok (.atEnd false)
  | _ => .error (.grammar x)

theorem parser_of_fault (depth : Nat) (step : Step) (faulty : c.fault = some x) :
    step.parser (depth + 1) c = match step.inert x with
      | .ok reply => .ok reply c
      | .error e => .error e c := by
  cases step with
  | expr min => exact bind_of_error _ (expr_of_fault depth min faulty)
  | statement => exact bind_of_error _ (statement_of_fault depth faulty)
  | statements => exact bind_of_error _ (statements_of_fault depth faulty)
  | expectEnd => exact bind_of_error _ (expectEnd_of_fault faulty)
  | atEnd =>
    show (atEnd >>= fun answer => pure (Reply.atEnd answer)) c = _
    rw [atEnd_bind, Cursor.current_of_fault faulty]
    rfl

theorem step_of_fault (depth : Nat) (step : Step) (faulty : c.fault = some x) :
    run (depth + 1) [step] c = [step.inert x] ∧ (step.parser (depth + 1)).final c = c := by
  have outcome := parser_of_fault depth step faulty
  cases inert : step.inert x <;> simp [run, final, outcome, inert]

/-- At a fault no step moves, and each tells the fault. -/
theorem run_of_fault (depth : Nat) (faulty : c.fault = some x) (steps : List Step) :
    run (depth + 1) steps c = steps.map (Step.inert x) ∧ after (depth + 1) steps c = c := by
  induction steps with
  | nil => exact ⟨rfl, rfl⟩
  | cons step steps ih =>
    obtain ⟨outcome, still⟩ := step_of_fault depth step faulty
    rw [run_cons, outcome, after, still, ih.1]
    exact ⟨rfl, ih.2⟩

instance (depth : Nat) (step : Step) : Settled ts (step.parser depth) fun _ => True where
  settles stands := by
    cases step with
    | expr min => exact .next stands fun _ d stands _ => .pure stands trivial
    | statement => exact .next stands fun _ d stands _ => .pure stands trivial
    | statements => exact .next stands fun _ d stands _ => .pure stands trivial
    | expectEnd => exact .next stands fun _ d stands _ => .pure stands trivial
    | atEnd => exact .pure stands trivial

/-- The fault that is left agrees with what the step gave. -/
structure Agrees (step : Step) (outcome : Except Failure Reply) (d : Cursor) : Prop where
  accepted : ∀ reply, outcome = .ok reply → step ≠ .atEnd → d.fault = none
  refused : ∀ y, outcome = .error (.grammar y) → d.fault = some y

theorem step_agrees (depth : Nat) (step : Step) (stands : c.clear.Stands ts) :
    ∃ outcome, run (depth + 1) [step] c = [outcome] ∧
      Agrees step outcome ((step.parser (depth + 1)).final c) ∧
      ((step.parser (depth + 1)).final c).clear.Stands ts := by
  -- A step behind a failed one starts at a fault; all others start without one.
  cases fault : c.fault with
  | some x =>
    obtain ⟨outcome, still⟩ := step_of_fault depth step fault
    rw [still]
    refine ⟨step.inert x, outcome, ⟨fun reply ok other => ?_, fun y error => ?_⟩, stands⟩
    · cases step with
      | atEnd => exact absurd rfl other
      | _ => cases ok
    · cases step with
      | atEnd => cases error
      | _ => cases error; exact fault
  | none =>
    have same : c.clear = c := by rw [Cursor.clear, ← fault]
    rw [same] at stands
    have settles := (inferInstance : Settled ts (step.parser (depth + 1)) _).settles stands
    unfold final
    cases outcome : step.parser (depth + 1) c with
    | ok reply d =>
      rw [outcome] at settles
      refine ⟨.ok reply, by simp [run, outcome], ⟨fun _ _ _ => settles.1.fault, fun y error => ?_⟩,
        settles.1.clear⟩
      cases error
    | error e d =>
      rw [outcome] at settles
      refine ⟨.error e, by simp [run, outcome], ⟨fun reply ok => ?_, fun y error => ?_⟩, settles.1⟩
      · cases ok
      · cases error
        exact settles.2

theorem after_stands (depth : Nat) (steps : List Step) (stands : c.clear.Stands ts) :
    (after (depth + 1) steps c).clear.Stands ts := by
  induction steps generalizing c with
  | nil => exact stands
  | cons step steps ih =>
    obtain ⟨_, _, _, stands⟩ := step_agrees depth step stands
    exact ih stands

theorem after_append (depth : Nat) (steps more : List Step) (c : Cursor) :
    after depth (steps ++ more) c = after depth more (after depth steps c) := by
  induction steps generalizing c with
  | nil => rfl
  | cons step steps ih => exact ih _

/-- However many steps were run from a cursor without a fault, the fault that a further step leaves
agrees with what it gives. If that is a fault, all steps behind it tell the same one, the input
never counts as read to its end, and the cursor stays where it is. -/
theorem faults_stick {depth : Nat} (nesting : 1 ≤ depth) {c : Cursor} (ready : c.Ready)
    (before : List Step) (step : Step) :
    ∃ outcome, run depth (before ++ [step]) c = run depth before c ++ [outcome] ∧
      Agrees step outcome (after depth (before ++ [step]) c) ∧
      ∀ x, outcome = .error (.grammar x) → ∀ more,
        run depth (before ++ [step] ++ more) c =
          run depth before c ++ [.error (.grammar x)] ++ more.map (Step.inert x) ∧
        after depth (before ++ [step] ++ more) c = after depth (before ++ [step]) c := by
  obtain ⟨depth, rfl⟩ := Nat.exists_eq_add_of_le' nesting
  have stands := after_stands depth before ready.stands.clear
  obtain ⟨outcome, gave, agrees, _⟩ := step_agrees depth step stands
  have whole : run (depth + 1) (before ++ [step]) c = run (depth + 1) before c ++ [outcome] := by
    rw [run_append, gave]
  have last : after (depth + 1) (before ++ [step]) c =
      (step.parser (depth + 1)).final (after (depth + 1) before c) := after_append _ _ _ _
  refine ⟨outcome, whole, last ▸ agrees, ?_⟩
  rintro x rfl more
  obtain ⟨outcomes, still⟩ := run_of_fault depth (last ▸ agrees.refused x rfl) more
  constructor
  · rw [run_append _ (before ++ [step]), whole, outcomes]
  · exact (after_append _ (before ++ [step]) more c).trans still

/-- A statement, and then a block without its `END`, of which all tokens have been read. -/
theorem faults_stick_open_block :
    let c := Cursor.ofText "BREAK BEGIN BREAK"
    let x : Diagnostic := ⟨[.missing "END", .expectedFound "END" "end of input"], ⟨17, 17⟩, ""⟩
    1 ≤ 2 ∧ c.Ready ∧
      run 2 [.statement, .statement, .atEnd, .expectEnd] c = run 2 [.statement] c ++
        [.error (.grammar x), .ok (.atEnd false), .error (.grammar x)] ∧
      (after 2 [.statement, .statement, .atEnd, .expectEnd] c).fault = some x := by
  intro c x
  have ready : c.Ready := Cursor.ready_ofTokens _
  have told : (run 2 [.statement, .statement] c).map failure? = [none, some (.grammar x)] := by
    decide +kernel
  obtain ⟨outcome, whole, agrees, sticks⟩ :=
    faults_stick (show 1 ≤ 2 by decide) ready [.statement] .statement
  have failed : outcome = .error (.grammar x) := by
    have mapped := (congrArg (List.map failure?) whole).symm.trans told
    rw [List.map_append] at mapped
    have parts : (run 2 [.statement] c).map failure? ++ [failure? outcome] =
        [none] ++ [some (.grammar x)] := mapped
    exact eq_error_of_failure? (List.singleton_inj.mp (List.append_inj' parts rfl).2)
  obtain ⟨outcomes, still⟩ := sticks x failed [.atEnd, .expectEnd]
  refine ⟨by decide, ready, ?_, (congrArg Cursor.fault still).trans (agrees.refused x failed)⟩
  exact outcomes.trans (List.append_assoc _ _ _)

end Session

end TransactSql
