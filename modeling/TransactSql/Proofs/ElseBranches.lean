import Mathlib.Logic.Relation
import TransactSql.Proofs.Statement.Returned

/-!
# An `ELSE` belongs to the nearest `IF`

An `IF` that is read to its end asks for an `ELSE` at once. So behind a statement with an `IF`
without `ELSE` at its right edge no `ELSE` can follow, and the `ELSE` of an `IF` never could have
been that of an `IF` at the right edge of its first branch.
-/

namespace TransactSql

open Relation

namespace Statement

/-- One step along the right edge: from a `WHILE` to its body, and from an `IF` to the statement
behind its `ELSE`. -/
inductive Edge : Statement → Statement → Prop
  | body (whileToken : Token) (condition : Expr) (body : Statement) :
    Edge (.whileLoop whileToken condition body) body
  | otherwise (ifToken : Token) (condition : Expr) (thenBranch : Statement) (keyword : Token)
    (s : Statement) : Edge (.ifElse ifToken condition thenBranch (.present keyword s)) s

/-- An `IF` without `ELSE` stands at the right edge. -/
def IsOpen (s : Statement) : Prop :=
  ∃ ifToken condition thenBranch, ReflTransGen Edge s (.ifElse ifToken condition thenBranch .absent)

/-- If the statement has an `ELSE`, then no `IF` at the right edge of its first branch lacks one. -/
def TakesOwnElse : Statement → Prop
  | .ifElse _ _ thenBranch (.present _ _) => ¬ thenBranch.IsOpen
  | _ => True

theorem takesOwnElse_of_kind {s : Statement} (other : s.kind ≠ .ifStmt) : s.TakesOwnElse := by
  cases s <;> trivial

theorem not_isOpen_of_kind {s : Statement} (other : s.kind ∉ [.ifStmt, .whileStmt]) :
    ¬ s.IsOpen := by
  rintro ⟨ifToken, condition, thenBranch, path⟩
  rcases path.cases_head with rfl | ⟨next, step, _⟩
  · simp [kind] at other
  · cases step <;> simp [kind] at other

theorem IsOpen.body {whileToken : Token} {condition : Expr} {body : Statement}
    (h : (whileLoop whileToken condition body).IsOpen) : body.IsOpen := by
  obtain ⟨ifToken, condition', thenBranch, path⟩ := h
  rcases path.cases_head with same | ⟨next, step, rest⟩
  · cases same
  · cases step
    exact ⟨ifToken, condition', thenBranch, rest⟩

theorem IsOpen.otherwise {ifToken keyword : Token} {condition : Expr} {thenBranch s : Statement}
    (h : (ifElse ifToken condition thenBranch (.present keyword s)).IsOpen) : s.IsOpen := by
  obtain ⟨ifToken', condition', thenBranch', path⟩ := h
  rcases path.cases_head with same | ⟨next, step, rest⟩
  · cases same
  · cases step
    exact ⟨ifToken', condition', thenBranch', rest⟩

end Statement

namespace Grammar

open TransactSql.Parser

/-- A statement with an `IF` that lacks an `ELSE` at its right edge has been read only where no
`ELSE` follows. -/
def LeavesNoElse (p : Parser Statement) : Prop :=
  ∀ {c d : Cursor} {s : Statement}, p c = .ok s d → s.IsOpen → d.current.isKeyword .ELSE = false

/-- A keyword that is not eaten is not there. After a fault there is none. -/
theorem eatKeyword_none {k : Keyword} {c d : Cursor} (h : eatKeyword k c = .ok none d) :
    d = c ∧ c.current.isKeyword k = false := by
  rcases eat_ok h with ⟨found, _⟩ | ⟨_, rfl, refused⟩
  · cases found
  · refine ⟨rfl, ?_⟩
    cases fault : d.fault with
    | none => exact refused fault
    | some x =>
      rw [Cursor.current, fault]
      rfl

variable {expr : Precedence → Parser Expr} {statement : Parser Statement}

theorem elseBranch_cases {c d : Cursor} {otherwise : ElseBranch}
    (h : elseBranch statement c = .ok otherwise d) :
    (otherwise = .absent ∧ d = c ∧ c.current.isKeyword .ELSE = false) ∨
      ∃ keyword s e, otherwise = .present keyword s ∧ c.current.isKeyword .ELSE = true ∧
        statement e = .ok s d := by
  unfold elseBranch at h
  obtain ⟨found, e, eaten, h⟩ := bind_ok h
  cases found with
  | none =>
    cases h
    obtain ⟨rfl, absent⟩ := eatKeyword_none eaten
    exact .inl ⟨rfl, rfl, absent⟩
  | some keyword =>
    obtain ⟨s, f, run, h⟩ := bind_ok h
    cases h
    rcases eat_ok eaten with ⟨_, isElse, _⟩ | ⟨none, _⟩
    · exact .inr ⟨keyword, s, e, rfl, isElse, run⟩
    · cases none

/-- An `IF` is read in three parts. -/
theorem ifElse_ok {c d : Cursor} {s : Statement} (h : ifElse expr statement c = .ok s d) :
    ∃ ifToken condition thenBranch otherwise e f, statement e = .ok thenBranch f ∧
      elseBranch statement f = .ok otherwise d ∧
      s = .ifElse ifToken condition thenBranch otherwise := by
  unfold ifElse at h
  obtain ⟨ifToken, _, _, h⟩ := bind_ok h
  obtain ⟨condition, e, _, h⟩ := bind_ok h
  obtain ⟨thenBranch, f, read, h⟩ := bind_ok h
  obtain ⟨otherwise, g, branch, h⟩ := bind_ok h
  obtain ⟨rfl, rfl⟩ := build_ok h
  exact ⟨ifToken, condition, thenBranch, otherwise, e, f, read, branch, rfl⟩

/-- Only two rules give statements that go on along the right edge. -/
theorem wordStatement_branching {token : Token} {c d : Cursor} {s : Statement}
    (h : wordStatement expr statement token c = .ok s d) :
    ifElse expr statement c = .ok s d ∨ whileLoop expr statement c = .ok s d ∨
      s.kind ∉ [.ifStmt, .whileStmt] := by
  have simple : ∀ {kinds : List NodeKind} {p : Parser Statement}, ReturnsKinds kinds p →
      (∀ k ∈ kinds, k ∉ [NodeKind.ifStmt, .whileStmt]) → p c = .ok s d →
      s.kind ∉ [.ifStmt, .whileStmt] := fun returns other run => other _ (returns.holds run)
  unfold wordStatement at h
  rw [lookahead_bind] at h
  generalize token.keyword? = word at h
  split at h
  case h_1 => exact .inr (.inr (simple (returns_begin statement) (by simp) h))
  case h_2 => exact .inl h
  case h_3 => exact .inr (.inl h)
  case h_4 | h_5 => exact .inr (.inr (simple returns_loopControl (by simp) h))
  case h_6 => exact .inr (.inr (simple (returns_returnValue expr) (by simp) h))
  case h_7 => exact .inr (.inr (simple returns_goto (by simp) h))
  case h_8 => exact .inr (.inr (simple (returns_set expr) (by simp) h))
  case h_9 => exact .inr (.inr (simple (returns_declare expr) (by simp) h))
  case h_10 | h_11 => exact .inr (.inr (simple (returns_create expr statement) (by simp) h))
  case h_12 => exact .inr (.inr (simple (returns_expressionStatement expr) (by simp) h))
  case h_13 =>
    split at h
    · exact .inr (.inr (simple returns_unmodeled (by simp) h))
    · exact absurd h fail_ok
  case h_14 => exact absurd h fail_ok
  case h_15 =>
    split at h
    · exact .inr (.inr (simple returns_label (by simp) h))
    · split at h
      · exact .inr (.inr (simple returns_unmodeled (by simp) h))
      · exact absurd h failExpected_ok

theorem anyStatement_branching {c d : Cursor} {s : Statement}
    (h : anyStatement expr statement c = .ok s d) :
    ifElse expr statement c = .ok s d ∨ whileLoop expr statement c = .ok s d ∨
      s.kind ∉ [.ifStmt, .whileStmt] := by
  unfold anyStatement at h
  rw [current_bind] at h
  generalize c.current.kind = kind at h
  split at h
  case h_1 =>
    obtain ⟨rfl, _⟩ := build_ok h
    exact .inr (.inr (by simp [Statement.kind]))
  case h_2 =>
    have listed := (returns_expressionStatement expr).holds h
    exact .inr (.inr (by simp_all))
  case h_3 => exact wordStatement_branching h
  case h_4 => exact absurd h failAtError_ok
  case h_5 => exact absurd h failExpected_ok

section

variable (inner : LeavesNoElse statement)

include inner

theorem ifElse_takesOwnElse : Returns Statement.TakesOwnElse (ifElse expr statement) where
  holds h := by
    obtain ⟨ifToken, condition, thenBranch, otherwise, e, f, read, branch, rfl⟩ := ifElse_ok h
    rcases elseBranch_cases branch with ⟨rfl, _⟩ | ⟨keyword, s, g, rfl, isElse, _⟩
    · trivial
    · intro isOpen
      rw [inner read isOpen] at isElse
      cases isElse

theorem ifElse_leavesNoElse : LeavesNoElse (ifElse expr statement) := by
  intro c d s h isOpen
  obtain ⟨ifToken, condition, thenBranch, otherwise, e, f, read, branch, rfl⟩ := ifElse_ok h
  rcases elseBranch_cases branch with ⟨rfl, rfl, absent⟩ | ⟨keyword, s, g, rfl, _, run⟩
  · exact absent
  · exact inner run isOpen.otherwise

theorem whileLoop_leavesNoElse : LeavesNoElse (whileLoop expr statement) := by
  intro c d s h isOpen
  unfold whileLoop at h
  obtain ⟨whileToken, _, _, h⟩ := bind_ok h
  obtain ⟨condition, e, _, h⟩ := bind_ok h
  obtain ⟨body, f, read, h⟩ := bind_ok h
  obtain ⟨rfl, rfl⟩ := build_ok h
  exact inner read isOpen.body

theorem anyStatement_leavesNoElse : LeavesNoElse (anyStatement expr statement) := by
  intro c d s h isOpen
  rcases anyStatement_branching h with read | read | other
  · exact ifElse_leavesNoElse inner read isOpen
  · exact whileLoop_leavesNoElse inner read isOpen
  · exact absurd isOpen (Statement.not_isOpen_of_kind other)

theorem anyStatement_takesOwnElse : Returns Statement.TakesOwnElse (anyStatement expr statement) where
  holds h := by
    rcases anyStatement_branching h with read | read | other
    · exact (ifElse_takesOwnElse inner).holds read
    · have kind := (returns_whileLoop expr statement).holds read
      exact Statement.takesOwnElse_of_kind (by simp_all)
    · exact Statement.takesOwnElse_of_kind (by simp_all)

end

end Grammar

/-! ### All depths -/

namespace Parser

theorem statement_leavesNoElse (depth : Nat) : Grammar.LeavesNoElse (statement depth) := by
  induction depth with
  | zero => exact fun h => absurd h fail_ok
  | succ depth ih => exact Grammar.anyStatement_leavesNoElse ih

theorem statement_takesOwnElse (depth : Nat) : Returns Statement.TakesOwnElse (statement depth) := by
  cases depth with
  | zero => exact .fail
  | succ depth => exact Grammar.anyStatement_takesOwnElse (statement_leavesNoElse depth)

end Parser

theorem Statement.Returned.takesOwnElse {s : Statement} (returned : s.Returned) :
    s.Everywhere TakesOwnElse :=
  returned.everywhere Parser.statement_takesOwnElse (fun _ _ => trivial) fun _ => trivial

/-- Wherever an `IF` with an `ELSE` stands in a tree that is returned, an `IF` that is reached from
its first branch along the right edge has an `ELSE` too. -/
theorem else_of_nearest_if {root : Statement} (returned : root.Returned) {ifToken keyword : Token}
    {condition : Expr} {thenBranch behindElse : Statement}
    (inside : root.Contains (.ifElse ifToken condition thenBranch (.present keyword behindElse)))
    {last : Statement} (edge : ReflTransGen Statement.Edge thenBranch last) (ifToken' : Token)
    (condition' : Expr) (thenBranch' : Statement) :
    last ≠ .ifElse ifToken' condition' thenBranch' .absent := by
  rintro rfl
  have own := returned.takesOwnElse _ inside
  exact own ⟨ifToken', condition', thenBranch', edge⟩

/-- An `IF` with an `ELSE` around a `WHILE` around an `IF`. -/
def isIfAroundLoop : List Statement → Bool
  | [.ifElse _ _ (.whileLoop _ _ (.ifElse ..)) (.present ..)] => true
  | _ => false

/-- The inner `IF` takes the first `ELSE`, though a `;` stands before it, so that the second one is
left to the outer `IF`. -/
theorem else_of_nearest_if_loop :
    ∃ ifToken condition thenBranch keyword behindElse last,
      parseScript "IF 1 = 1 WHILE 2 = 2 IF 3 = 3 BREAK; ELSE CONTINUE; ELSE RETURN" =
        .ok [.ifElse ifToken condition thenBranch (.present keyword behindElse)] ∧
      ReflTransGen Statement.Edge thenBranch last ∧ last.kind = .ifStmt ∧
      ∀ t e s, last ≠ .ifElse t e s .absent := by
  have shape : (parseScript "IF 1 = 1 WHILE 2 = 2 IF 3 = 3 BREAK; ELSE CONTINUE; ELSE RETURN"
      ).toOption.any isIfAroundLoop = true := by
    decide +kernel
  obtain ⟨ss, parsed⟩ := exists_of_isOk
    (x := parseScript "IF 1 = 1 WHILE 2 = 2 IF 3 = 3 BREAK; ELSE CONTINUE; ELSE RETURN")
    (by decide +kernel)
  rw [parsed] at shape
  simp only [Except.toOption, Option.any_some, isIfAroundLoop] at shape
  split at shape
  · next ifToken condition whileToken condition' ifToken' condition'' thenBranch otherwise keyword
      behindElse =>
    have edge := ReflTransGen.single (Statement.Edge.body whileToken condition'
      (.ifElse ifToken' condition'' thenBranch otherwise))
    exact ⟨ifToken, condition, _, keyword, behindElse, _, parsed, edge, rfl,
      else_of_nearest_if (.script parsed (List.mem_singleton_self _)) (.self _) edge⟩
  · cases shape

end TransactSql
