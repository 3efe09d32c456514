import TransactSql.Proofs.Grammar.Locality
import TransactSql.Proofs.Statement.Kinds

/-!
# The two parts of a procedure

A procedure is read up to its `AS` first, and that part is local; the rest is the body. A statement
that is a procedure was read in this way, for every other rule gives a statement of another kind.
-/

namespace TransactSql

theorem Token.keyword?_of_pair {t : Token} {a b : Keyword} (h : t.isAnyKeyword [a, b] = true) :
    t.keyword? = some a ∨ t.keyword? = some b := by
  unfold isAnyKeyword at h
  cases word : t.keyword? with
  | none => simp [word] at h
  | some k => simpa [word] using h

namespace Grammar

open TransactSql.Parser

variable (expr : Precedence → Parser Expr) (statement : Parser Statement)

/-- A procedure behind `CREATE`, up to its `AS`: what is missing in the header is the `AS`. -/
def procedureFront (create : List Token) : Parser (Token → ProcedureHeader) := do
  let procedureToken ← take
  let name ← name
  let (lparen, params, rparen) ← procedureParams expr
  let options ← routineOptions
  let replication ← optionalPair .FOR .REPLICATION
  return fun asToken =>
    { create, procedureToken, name, lparen, params, rparen, options, replication, asToken }

/-- The part of a `CREATE` before the `AS`, if it is that of a procedure. -/
def procedureStart : Parser (Option (Token → ProcedureHeader)) := do
  let first ← take
  let create := first :: (← orAlter first)
  if (← current).isAnyKeyword [.PROC, .PROCEDURE] then return some (← procedureFront expr create)
  else return none

/-- The part from the `AS` on. -/
def procedureRest (header : Token → ProcedureHeader) : Parser Statement := do
  let asToken ← keyword .AS
  rejectExternal
  let body ← procedureBody statement
  build (Checked.createProcedure (header asToken) body)

theorem procedure_eq (create : List Token) :
    procedure expr statement create = procedureFront expr create >>= procedureRest statement := by
  simp only [procedure, procedureFront, procedureRest, bind_assoc, pure_bind]

/-! ### Locality -/

section

variable [∀ min, Framed (expr min)] [∀ min, Local (expr min)]

instance (create : List Token) : Local (procedureFront expr create) := by
  have pair : Local (optionalPair .FOR .REPLICATION) := local_optionalPair (by decide) _
  unfold procedureFront
  infer_instance

instance : Local (procedureStart expr) := by unfold procedureStart; infer_instance

end

/-! ### Procedures -/

variable {expr statement}

theorem create_of_start {c d : Cursor} {header : Token → ProcedureHeader}
    (h : procedureStart expr c = .ok (some header) d) :
    create expr statement c = procedureRest statement header d := by
  unfold procedureStart at h
  rw [take_bind] at h
  obtain ⟨more, e, words, h⟩ := bind_ok h
  rw [current_bind] at h
  split at h
  · next isProcedure =>
    obtain ⟨front, f, run, h⟩ := bind_ok h
    cases h
    have rest : procedure expr statement (c.current :: more) e =
        procedureRest statement header d := by
      rw [procedure_eq, bind_of_ok _ run]
    unfold create
    rw [take_bind, bind_of_ok _ words, current_bind]
    rcases Token.keyword?_of_pair isProcedure with word | word
    · rw [word]
      exact rest
    · rw [word]
      exact rest
  · cases h

theorem create_procedure {c d : Cursor} {s : Statement} (h : create expr statement c = .ok s d)
    (isProcedure : s.kind = .createProcedure) :
    ∃ header e, procedureStart expr c = .ok (some header) e ∧
      procedureRest statement header e = .ok s d := by
  unfold create at h
  rw [take_bind] at h
  obtain ⟨more, e, words, h⟩ := bind_ok h
  rw [current_bind] at h
  generalize word : e.current.keyword? = k at h
  split at h
  case h_1 | h_2 =>
    rw [procedure_eq] at h
    obtain ⟨header, f, front, h⟩ := bind_ok h
    refine ⟨header, f, ?_, h⟩
    unfold procedureStart
    rw [take_bind, bind_of_ok _ words, current_bind, if_pos (by simp [Token.isAnyKeyword, word]),
      bind_of_ok _ front]
    rfl
  case h_3 => exact absurd isProcedure ((ReturnsKinds.other (returns_view expr _) (by simp)).holds h)
  case h_4 =>
    exact absurd isProcedure ((ReturnsKinds.other (returns_function expr statement _) (by simp)).holds h)
  case h_5 => exact absurd isProcedure ((ReturnsKinds.other (returns_unmodeledFrom _) (by simp)).holds h)

theorem anyStatement_of_create {c : Cursor}
    (isCreate : c.current.isAnyKeyword [.CREATE, .ALTER] = true) :
    anyStatement expr statement c = create expr statement c := by
  rcases Token.keyword?_of_pair isCreate with word | word
  all_goals
    rw [anyStatement_of_keyword expr statement (beq_iff_eq.mpr word)]
    unfold wordStatement
    rw [lookahead_bind, word]

/-- Every other rule gives a statement of another kind. -/
theorem wordStatement_other {token : Token}
    (other : token.isAnyKeyword [.CREATE, .ALTER] = false) :
    Returns (fun s => s.kind ≠ .createProcedure) (wordStatement expr statement token) := by
  unfold wordStatement
  refine .bind fun next => ?_
  generalize word : token.keyword? = k
  split
  case h_1 => exact ReturnsKinds.other (returns_begin statement) (by simp)
  case h_2 => exact ReturnsKinds.other (returns_ifElse expr statement) (by simp)
  case h_3 => exact ReturnsKinds.other (returns_whileLoop expr statement) (by simp)
  case h_4 | h_5 => exact ReturnsKinds.other returns_loopControl (by simp)
  case h_6 => exact ReturnsKinds.other (returns_returnValue expr) (by simp)
  case h_7 => exact ReturnsKinds.other returns_goto (by simp)
  case h_8 => exact ReturnsKinds.other (returns_set expr) (by simp)
  case h_9 => exact ReturnsKinds.other (returns_declare expr) (by simp)
  case h_10 | h_11 => simp [Token.isAnyKeyword, word] at other
  case h_12 => exact ReturnsKinds.other (returns_expressionStatement expr) (by simp)
  case h_13 => exact .ite (ReturnsKinds.other returns_unmodeled (by simp)) .fail
  case h_14 => exact .fail
  case h_15 =>
    refine .ite (ReturnsKinds.other returns_label (by simp)) (.ite ?_ .failExpected)
    exact ReturnsKinds.other returns_unmodeled (by simp)

theorem anyStatement_procedure {c d : Cursor} {s : Statement}
    (h : anyStatement expr statement c = .ok s d) (isProcedure : s.kind = .createProcedure) :
    c.current.isAnyKeyword [.CREATE, .ALTER] = true ∧ create expr statement c = .ok s d := by
  cases isCreate : c.current.isAnyKeyword [.CREATE, .ALTER] with
  | true =>
    rw [anyStatement_of_create isCreate] at h
    exact ⟨rfl, h⟩
  | false =>
    unfold anyStatement at h
    rw [current_bind] at h
    generalize c.current.kind = k at h
    split at h
    case h_1 =>
      obtain ⟨rfl, _⟩ := build_ok h
      cases isProcedure
    case h_2 =>
      exact absurd isProcedure
        ((ReturnsKinds.other (returns_expressionStatement expr) (by simp)).holds h)
    case h_3 => exact absurd isProcedure ((wordStatement_other isCreate).holds h)
    case h_4 => exact absurd h failAtError_ok
    case h_5 => exact absurd h failExpected_ok

end Grammar

end TransactSql
