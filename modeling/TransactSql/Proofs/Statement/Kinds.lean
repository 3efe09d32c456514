import TransactSql.Grammar.Statement
import TransactSql.Proofs.Parser.Yield
import TransactSql.Proofs.Statement.Checked

/-!
# What statements the rules give

Each rule of the grammar gives statements of certain kinds, so the kind of a statement tells which
rule has read it. `Returns` says what holds of the value of every successful run.
-/

namespace TransactSql

/-! ### Values of parsers -/

namespace Parser

/-- What holds of the value of every successful run. -/
structure Returns (P : α → Prop) (p : Parser α) : Prop where
  holds : ∀ {c d : Cursor} {a : α}, p c = .ok a d → P a

namespace Returns

variable {P Q : α → Prop} {p : Parser α}

theorem mono (h : Returns P p) (weaker : ∀ a, P a → Q a) : Returns Q p :=
  ⟨fun run => weaker _ (h.holds run)⟩

theorem pure {a : α} (h : P a) : Returns P (Pure.pure a : Parser α) where
  holds run := by
    cases run
    exact h

theorem fail {f : Fault} : Returns P (Parser.fail f) := ⟨fun h => absurd h fail_ok⟩

theorem fail_bind {f : Fault} {rest : β → Parser α} : Returns P (Parser.fail f >>= rest) where
  holds h := by
    obtain ⟨_, _, failed, _⟩ := bind_ok h
    exact absurd failed fail_ok

theorem failExpected {what : String} : Returns P (Parser.failExpected what) :=
  ⟨fun h => absurd h failExpected_ok⟩

theorem build {made : Shaped α} {a : α} [Shaped.Makes made a] (h : P a) :
    Returns P (Parser.build made) where
  holds run := by
    obtain ⟨rfl, _⟩ := build_ok run
    exact h

/-- What follows a part of which nothing is known. -/
theorem bind {q : Parser β} {f : β → Parser α} (rest : ∀ b, Returns P (f b)) : Returns P (q >>= f) where
  holds h := by
    obtain ⟨b, e, _, h⟩ := bind_ok h
    exact (rest b).holds h

/-- What follows a part of which something is known. -/
theorem seq {R : β → Prop} {q : Parser β} {f : β → Parser α} (first : Returns R q)
    (rest : ∀ b, R b → Returns P (f b)) : Returns P (q >>= f) where
  holds h := by
    obtain ⟨b, e, run, h⟩ := bind_ok h
    exact (rest b (first.holds run)).holds h

theorem ite {b : Prop} [Decidable b] {q : Parser α} (yes : Returns P p) (no : Returns P q) :
    Returns P (if b then p else q) := by
  split
  · exact yes
  · exact no

theorem recording (h : Returns P p) : Returns P (Parser.recording p) where
  holds run := by
    obtain ⟨_, _, run⟩ := recording_ok run
    exact h.holds run

theorem withAssignment {assignment : Bool} (h : Returns P p) :
    Returns P (Parser.withAssignment assignment p) where
  holds run := by
    obtain ⟨_, _, run⟩ := withAssignment_ok run
    exact h.holds run

/-- What follows an attempt, by how the attempt ended. -/
theorem attempt {R : β → Prop} {q : Parser β} {f : Except Failure β → Parser α} (first : Returns R q)
    (ok : ∀ b, R b → Returns P (f (.ok b))) (error : ∀ e, Returns P (f (.error e))) :
    Returns P (Parser.attempt q >>= f) where
  holds run := by
    rw [attempt_bind] at run
    split at run
    · next given => exact (ok _ (first.holds given)).holds run
    · exact (error _).holds run

theorem loop {step : α → Parser (Option α)}
    (steps : ∀ a, P a → Returns (fun next => P (next.getD a)) (step a)) {a : α} (start : P a) :
    Returns P (Parser.loop step a) where
  holds h := loop_invariant (fun a _ => P a) (fun held round => (steps _ held).holds round) start h

end Returns

end Parser

namespace Grammar

open TransactSql.Parser

variable (expr : Precedence → Parser Expr) (statement : Parser Statement)

/-! ### Kinds -/

/-- What the parser gives is of one of the kinds. -/
abbrev ReturnsKinds (kinds : List NodeKind) (p : Parser Statement) : Prop :=
  Returns (fun s => s.kind ∈ kinds) p

theorem ReturnsKinds.subset {kinds more : List NodeKind} {p : Parser Statement}
    (h : ReturnsKinds kinds p) (part : kinds ⊆ more) : ReturnsKinds more p :=
  h.mono fun _ listed => part listed

theorem ReturnsKinds.other {kinds : List NodeKind} {p : Parser Statement} (h : ReturnsKinds kinds p)
    {k : NodeKind} (absent : k ∉ kinds) : Returns (fun s => s.kind ≠ k) p :=
  h.mono fun _ listed same => absent (same ▸ listed)

theorem returns_rawStatement (tokens : List Token) (terminator : Token) :
    ReturnsKinds [.unmodeled] (rawStatement tokens terminator) := by
  unfold rawStatement
  exact .bind fun _ => .build (by simp [Statement.kind])

theorem returns_unmodeledFrom (before : List Token) :
    ReturnsKinds [.unmodeled] (unmodeledFrom before) := by
  unfold unmodeledFrom
  exact .bind fun _ => .bind fun _ => returns_rawStatement _ _

theorem returns_unmodeled : ReturnsKinds [.unmodeled] unmodeled := by
  unfold unmodeled
  exact .bind fun _ => returns_unmodeledFrom _

theorem returns_expressionStatement :
    ReturnsKinds [.expressionStmt] (expressionStatement expr) := by
  unfold expressionStatement
  exact .bind fun _ => .bind fun _ => .build (by simp [Statement.kind])

theorem returns_procedure (create : List Token) :
    ReturnsKinds [.createProcedure] (procedure expr statement create) := by
  unfold procedure
  repeat refine .bind fun _ => ?_
  exact .build (by simp [Statement.kind])

theorem returns_view (create : List Token) : ReturnsKinds [.createView] (view expr create) := by
  unfold view
  repeat refine .bind fun _ => ?_
  exact .build (by simp [Statement.kind])

theorem returns_inlineFunction (signature : FunctionSignature) :
    ReturnsKinds [.createInlineFunction] (inlineFunction expr signature) := by
  unfold inlineFunction
  repeat refine .bind fun _ => ?_
  exact .build (by simp [Statement.kind])

theorem returns_tableFunction (signature : FunctionSignature) :
    ReturnsKinds [.createTableFunction] (tableFunction statement signature) := by
  unfold tableFunction
  repeat refine .bind fun _ => ?_
  exact .build (by simp [Statement.kind])

theorem returns_scalarFunction (signature : FunctionSignature) :
    ReturnsKinds [.createScalarFunction] (scalarFunction expr statement signature) := by
  unfold scalarFunction
  repeat refine .bind fun _ => ?_
  exact .build (by simp [Statement.kind])

theorem returns_function (create : List Token) :
    ReturnsKinds [.createInlineFunction, .createTableFunction, .createScalarFunction]
      (function expr statement create) := by
  unfold function
  refine .bind fun signature => .bind fun isTable => .ite ?_ (.bind fun token => .ite ?_ ?_)
  · exact ReturnsKinds.subset (returns_inlineFunction expr signature) (by simp)
  · exact ReturnsKinds.subset (returns_tableFunction statement signature) (by simp)
  · exact ReturnsKinds.subset (returns_scalarFunction expr statement signature) (by simp)

theorem returns_create :
    ReturnsKinds [.createProcedure, .createView, .createInlineFunction, .createTableFunction,
      .createScalarFunction, .unmodeled] (create expr statement) := by
  unfold create
  refine .bind fun first => .bind fun more => .bind fun token => ?_
  split
  case h_1 | h_2 => exact ReturnsKinds.subset (returns_procedure expr statement _) (by simp)
  case h_3 => exact ReturnsKinds.subset (returns_view expr _) (by simp)
  case h_4 => exact ReturnsKinds.subset (returns_function expr statement _) (by simp)
  case h_5 => exact ReturnsKinds.subset (returns_unmodeledFrom _) (by simp)

theorem returns_beginTransaction : ReturnsKinds [.beginTransaction] beginTransaction := by
  unfold beginTransaction
  repeat refine .bind fun _ => ?_
  exact .build (by simp [Statement.kind])

theorem returns_tryCatch : ReturnsKinds [.tryCatch] (tryCatch statement) := by
  unfold tryCatch
  repeat refine .bind fun _ => ?_
  exact .build (by simp [Statement.kind])

theorem returns_begin :
    ReturnsKinds [.beginTransaction, .tryCatch, .unmodeled, .blockStmt] (beginStatement statement) := by
  unfold beginStatement
  refine .bind fun next => ?_
  split
  case h_1 | h_2 => exact ReturnsKinds.subset returns_beginTransaction (by simp)
  case h_3 => exact ReturnsKinds.subset (returns_tryCatch statement) (by simp)
  case h_4 | h_5 | h_6 => exact ReturnsKinds.subset returns_unmodeled (by simp)
  case h_7 => exact .bind fun b => .pure (by simp [Statement.kind])

theorem returns_ifElse : ReturnsKinds [.ifStmt] (ifElse expr statement) := by
  unfold ifElse
  repeat refine .bind fun _ => ?_
  exact .build (by simp [Statement.kind])

theorem returns_whileLoop : ReturnsKinds [.whileStmt] (whileLoop expr statement) := by
  unfold whileLoop
  repeat refine .bind fun _ => ?_
  exact .build (by simp [Statement.kind])

theorem returns_loopControl : ReturnsKinds [.loopControl] loopControl := by
  unfold loopControl
  exact .bind fun _ => .bind fun _ => .build (by simp [Statement.kind])

theorem returns_returnValue : ReturnsKinds [.returnStmt] (returnValue expr) := by
  unfold returnValue
  repeat refine .bind fun _ => ?_
  exact .build (by simp [Statement.kind])

theorem returns_goto : ReturnsKinds [.gotoStmt] goto := by
  unfold goto
  repeat refine .bind fun _ => ?_
  exact .build (by simp [Statement.kind])

theorem returns_label : ReturnsKinds [.labelStmt] label := by
  unfold label
  exact .bind fun _ => .bind fun _ => .build (by simp [Statement.kind])

theorem returns_set : ReturnsKinds [.setVariable, .setOption] (set expr) := by
  unfold set setVariable setOption
  refine .bind fun setToken => .bind fun token => .ite ?_ ?_
  · refine .bind fun next => ?_
    dsimp only
    split
    · exact .fail_bind
    · repeat refine .bind fun _ => ?_
      exact .build (by simp [Statement.kind])
  · repeat refine .bind fun _ => ?_
    exact .build (by simp [Statement.kind])

theorem returns_declare : ReturnsKinds [.declare, .declareCursor] (declare expr) := by
  unfold declare declareCursor
  refine .bind fun declareToken => .bind fun token => .ite ?_ ?_
  · refine .bind fun name => .bind fun isoOptions => .bind fun cursorToken => ?_
    refine .bind fun options => .bind fun forToken => .bind fun query => ?_
    dsimp only
    split
    · exact .fail_bind
    · repeat refine .bind fun _ => ?_
      exact .build (by simp [Statement.kind])
  · repeat refine .bind fun _ => ?_
    exact .build (by simp [Statement.kind])

/-! ### Words -/

/-- A statement that starts with a keyword is read as the keyword says. -/
theorem anyStatement_of_keyword {c : Cursor} {k : Keyword} (here : c.current.isKeyword k = true) :
    anyStatement expr statement c = wordStatement expr statement c.current c := by
  unfold anyStatement
  rw [current_bind, Token.isKeyword_iff.mp here]

end Grammar

end TransactSql
