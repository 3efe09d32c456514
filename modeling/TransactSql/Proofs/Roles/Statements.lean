import TransactSql.Document
import TransactSql.Proofs.Roles.Expressions
import TransactSql.Proofs.Statement.Returned

/-!
# Parsed statements are apt

The expressions of a statement are given by the parsers of expressions, and the queries in it are
asked for as such.
-/

namespace TransactSql

namespace Statement

/-- The kinds of statements that may have expressions of their own. -/
def expressionKinds : List NodeKind :=
  [.expressionStmt, .ifStmt, .whileStmt, .returnStmt, .setVariable, .declare, .declareCursor,
   .createProcedure, .createView, .createScalarFunction, .createInlineFunction, .createTableFunction]

theorem apt_of_kind {s : Statement} (simple : s.kind ∉ expressionKinds) : s.Apt := by
  have none : s.Roles ∧ s.exprs = [] := by
    cases s <;> first | exact ⟨trivial, rfl⟩ | simp [kind, expressionKinds] at simple
  exact ⟨none.1, by simp [none.2]⟩

end Statement

/-- The expressions of all parameters are apt. -/
abbrev AptParams (params : List ParamDecl) : Prop := ∀ p ∈ params, ∀ e ∈ p.exprs, Expr.AllApt e

namespace Statement

variable {s : Statement} (own : ∀ e ∈ s.ownExprs, e.AllApt)

include own

theorem apt_of_params (roles : s.Roles) (params : AptParams s.params) : s.Apt := by
  refine ⟨roles, ?_⟩
  simp only [exprs, List.forall_mem_append, List.forall_mem_flatMap]
  exact ⟨params, own⟩

theorem apt_of_own (roles : s.Roles) (none : s.params = []) : s.Apt :=
  apt_of_params own roles (by simp [AptParams, none])

end Statement

namespace Grammar

open TransactSql.Parser

variable {expr : Precedence → Parser Expr}

theorem apt_of_kinds {kinds : List NodeKind} {p : Parser Statement} (returns : ReturnsKinds kinds p)
    (simple : ∀ k ∈ kinds, k ∉ Statement.expressionKinds) : Returns Statement.Apt p :=
  returns.mono fun _ listed => Statement.apt_of_kind (simple _ listed)

section

variable (gives : GivesApt expr)

include gives

/-! ### Declarations -/

theorem value_apt (min : Precedence) : Returns Expr.AllApt (value expr min) :=
  .withAssignment (gives.apt min)

theorem varDecl_apt : Returns (fun v => ∀ e ∈ v.exprs, Expr.AllApt e) (varDecl expr) := by
  unfold varDecl
  refine .bind fun name => .bind fun asToken => .seq (dataType_apt gives) fun type apt => ?_
  refine .bind fun sign => ?_
  split
  · exact .build (by simpa [VarDecl.exprs, Tail.value?] using apt)
  · dsimp only
    split
    · exact .fail_bind
    · refine .seq (value_apt gives .comma) fun e apt' => .build ?_
      simpa [VarDecl.exprs, Tail.value?, or_imp, forall_and] using ⟨apt, apt'⟩

theorem declareCursor_apt (declareToken : Token) :
    Returns Statement.Apt (declareCursor expr declareToken) := by
  unfold declareCursor
  refine .bind fun name => .bind fun isoOptions => .bind fun cursorToken => .bind fun options => ?_
  refine .bind fun forToken => .seq (value_apt gives .none) fun query apt => ?_
  dsimp only
  split
  · exact .fail_bind
  · next accepted =>
    refine .bind fun update => .bind fun isoRaw => .bind fun raw => .bind fun terminator => ?_
    refine .build ?_
    refine Statement.apt_of_own (by simpa [Statement.ownExprs] using apt) ?_ rfl
    simpa [Statement.Roles] using accepted

theorem declare_apt : Returns Statement.Apt (declare expr) := by
  unfold declare
  refine .bind fun declareToken => .bind fun token => .ite (declareCursor_apt gives _) ?_
  refine .seq (.commaSeparated (varDecl_apt gives)) fun read each => .build_bind ?_
  refine .bind fun terminator => .build ?_
  refine Statement.apt_of_own ?_ trivial rfl
  simpa [Statement.ownExprs] using fun e v member => each v member e

theorem paramDecl_apt : Returns (fun p => ∀ e ∈ p.exprs, Expr.AllApt e) (paramDecl expr) := by
  have initial : Returns (fun tail => ∀ e ∈ tail.value?, Expr.AllApt e) (paramDefault expr) := by
    unfold paramDefault
    refine .bind fun sign => ?_
    split
    · exact .seq (value_apt gives .comma) fun e apt => .pure (by simpa [Tail.value?] using apt)
    · exact .pure (by simp [Tail.value?])
  unfold paramDecl
  refine .bind fun name => .bind fun asToken => .seq (dataType_apt gives) fun type apt => ?_
  refine .bind fun varying => .seq initial fun initial apt' => .bind fun modifiers => .build ?_
  simp only [ParamDecl.exprs, List.forall_mem_append]
  exact ⟨apt, by simpa using apt'⟩

theorem params_apt : Returns (fun list => AptParams list.items) (params expr) := by
  unfold params
  exact .seq (.commaSeparated (paramDecl_apt gives)) fun read each => .build each

theorem optionalParams_apt :
    Returns (fun list => AptParams (SeparatedList.itemsOf list)) (optionalParams expr) := by
  unfold optionalParams
  refine .bind fun absent => .ite (.pure (by simp [AptParams, SeparatedList.itemsOf])) ?_
  exact .seq (params_apt gives) fun list each => .pure each

theorem queryBody_apt (what : String) :
    Returns (fun e => e.AllApt ∧ e.isQuery = true) (queryBody expr what) := by
  unfold queryBody
  refine .seq (value_apt gives .none) fun query apt => ?_
  dsimp only
  split
  · exact .fail_bind
  · next accepted => exact .pure ⟨apt, by simpa using accepted⟩

/-! ### Routines -/

theorem procedure_apt (statement : Parser Statement) (create : List Token) :
    Returns Statement.Apt (procedure expr statement create) := by
  have read : Returns (fun read => AptParams (SeparatedList.itemsOf read.2.1)) (procedureParams expr) := by
    unfold procedureParams
    refine .bind fun lparen => ?_
    split
    · exact .seq (optionalParams_apt gives) fun list each => .bind fun rparen => .pure each
    · refine .bind fun token => .ite ?_ (.pure (by simp [AptParams, SeparatedList.itemsOf]))
      exact .seq (params_apt gives) fun list each => .pure each
  unfold procedure
  refine .bind fun procedureToken => .bind fun name => .seq read fun params each => ?_
  refine .bind fun options => .bind fun replication => .bind fun asToken => .bind fun _ => ?_
  refine .bind fun body => .build ?_
  exact Statement.apt_of_params (by simp [Statement.ownExprs]) trivial each

theorem view_apt (create : List Token) : Returns Statement.Apt (view expr create) := by
  unfold view
  refine .bind fun viewToken => .bind fun name => .bind fun columns => .bind fun options => ?_
  refine .bind fun asToken => .seq (queryBody_apt gives _) fun query ⟨apt, isQuery⟩ => ?_
  refine .bind fun checkOption => .bind fun terminator => .build ?_
  exact Statement.apt_of_own (by simpa [Statement.ownExprs] using apt) isQuery rfl

theorem function_apt (statement : Parser Statement) (create : List Token) :
    Returns Statement.Apt (function expr statement create) := by
  have signature : Returns (fun signature => AptParams (SeparatedList.itemsOf signature.params))
      (functionSignature expr create) := by
    unfold functionSignature
    refine .bind fun functionToken => .bind fun name => .bind fun lparen => ?_
    refine .seq (optionalParams_apt gives) fun list each => .bind fun rparen => ?_
    exact .bind fun returnsToken => .build each
  unfold function
  refine .seq signature fun signature each => .bind fun isTable => .ite ?_ (.bind fun token => .ite ?_ ?_)
  · unfold inlineFunction
    refine .bind fun tableToken => .bind fun options => .bind fun asToken => .bind fun returnToken => ?_
    refine .seq (queryBody_apt gives _) fun query ⟨apt, isQuery⟩ => .bind fun terminator => ?_
    refine .build ?_
    exact Statement.apt_of_params (by simpa [Statement.ownExprs] using apt) isQuery each
  · unfold tableFunction
    refine .bind fun result => .bind fun type => .bind fun options => .bind fun asToken => ?_
    refine .bind fun _ => .bind fun body => .build ?_
    exact Statement.apt_of_params (by simp [Statement.ownExprs]) trivial each
  · unfold scalarFunction
    refine .seq (dataType_apt gives) fun type apt => .bind fun options => .bind fun asToken => ?_
    refine .bind fun _ => .bind fun body => .build ?_
    exact Statement.apt_of_params apt trivial each

theorem create_apt (statement : Parser Statement) : Returns Statement.Apt (create expr statement) := by
  unfold create
  refine .bind fun first => .bind fun more => .bind fun token => ?_
  split
  case h_1 | h_2 => exact procedure_apt gives statement _
  case h_3 => exact view_apt gives _
  case h_4 => exact function_apt gives statement _
  case h_5 => exact apt_of_kinds (returns_unmodeledFrom _) (by decide)

/-! ### Simple statements -/

theorem expressionStatement_apt : Returns Statement.Apt (expressionStatement expr) := by
  unfold expressionStatement
  refine .seq (value_apt gives .none) fun e apt => .bind fun terminator => ?_
  refine .build ?_
  exact Statement.apt_of_own (by simpa [Statement.ownExprs] using apt) trivial rfl

theorem returnValue_apt : Returns Statement.Apt (returnValue expr) := by
  have read : Returns (fun value => ∀ e ∈ value, Expr.AllApt e) (optionalValue expr) := by
    unfold optionalValue
    refine .bind fun token => .ite (.seq (value_apt gives .comma) fun e apt => .pure ?_) (.pure (by simp))
    simpa using apt
  unfold returnValue
  refine .bind fun returnToken => .seq read fun value apt => .bind fun terminator => ?_
  refine .build ?_
  exact Statement.apt_of_own (by simpa [Statement.ownExprs] using apt) trivial rfl

theorem set_apt : Returns Statement.Apt (set expr) := by
  unfold set setVariable
  refine .bind fun setToken => .bind fun token => .ite (.bind fun next => ?_) ?_
  · dsimp only
    split
    · exact .fail_bind
    · have assigned : Returns (fun read : Token × Expr => read.2.AllApt)
          (withAssignment true do let operator ← take; pure (operator, ← expr .assignment)) :=
        .withAssignment (.bind fun operator => .seq (gives.apt .assignment) fun e apt => .pure apt)
      refine .bind fun variableName => .seq assigned fun read apt => .bind fun terminator => ?_
      refine .build ?_
      exact Statement.apt_of_own (by simpa [Statement.ownExprs] using apt) trivial rfl
  · unfold setOption
    refine .bind fun read => .bind fun options => .bind fun tail => .bind fun raw => ?_
    refine .bind fun terminator => .build (Statement.apt_of_kind ?_)
    simp [Statement.expressionKinds, Statement.kind]

/-! ### All statements -/

theorem anyStatement_apt (statement : Parser Statement) :
    Returns Statement.Apt (anyStatement expr statement) := by
  unfold anyStatement
  refine .bind fun token => ?_
  split
  case h_1 =>
    refine .bind fun terminator => .build (Statement.apt_of_kind ?_)
    simp [Statement.expressionKinds, Statement.kind]
  case h_2 => exact expressionStatement_apt gives
  case h_4 => exact ⟨fun h => absurd h failAtError_ok⟩
  case h_5 => exact .failExpected
  case h_3 =>
    unfold wordStatement
    refine .bind fun next => ?_
    split
    case h_1 => exact apt_of_kinds (returns_begin statement) (by decide)
    case h_2 =>
      unfold ifElse
      refine .bind fun ifToken => .seq (value_apt gives .comma) fun e apt => .bind fun thenBranch => ?_
      refine .bind fun otherwise => .build ?_
      exact Statement.apt_of_own (by simpa [Statement.ownExprs] using apt) trivial rfl
    case h_3 =>
      unfold whileLoop
      refine .bind fun whileToken => .seq (value_apt gives .comma) fun e apt => .bind fun body => ?_
      refine .build ?_
      exact Statement.apt_of_own (by simpa [Statement.ownExprs] using apt) trivial rfl
    case h_4 | h_5 => exact apt_of_kinds returns_loopControl (by decide)
    case h_6 => exact returnValue_apt gives
    case h_7 => exact apt_of_kinds returns_goto (by decide)
    case h_8 => exact set_apt gives
    case h_9 => exact declare_apt gives
    case h_10 | h_11 => exact create_apt gives statement
    case h_12 => exact expressionStatement_apt gives
    case h_13 => exact .ite (apt_of_kinds returns_unmodeled (by decide)) .fail
    case h_14 => exact .fail
    case h_15 =>
      refine .ite (apt_of_kinds returns_label (by decide)) (.ite ?_ .failExpected)
      exact apt_of_kinds returns_unmodeled (by decide)

end

end Grammar

end TransactSql
