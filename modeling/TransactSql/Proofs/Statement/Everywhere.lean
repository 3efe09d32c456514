import TransactSql.Parse
import TransactSql.Proofs.Statement.Kinds

/-!
# What holds of all statements inside a statement

The statements inside a statement are given by the parser one level below, or they are tokens that
recovery keeps. So what holds of everything the parsers of all depths give holds of the statements
at every depth of a tree: no rule has to be looked at again.
-/

namespace TransactSql

namespace Statement

/-- The statements that a statement is made of, without those inside them. -/
def children : Statement → List Statement
  | .block b => b.body
  | .tryCatch _ tryBody _ _ catchBody _ _ => tryBody ++ catchBody
  | .ifElse _ _ thenBranch otherwise => thenBranch :: otherwise.statement?.toList
  | .whileLoop _ _ body => [body]
  | .createProcedure _ body => body
  | .createScalarFunction _ _ _ _ b => b.body
  | .createTableFunction _ _ _ _ _ b => b.body
  | _ => []

/-- The second statement is the first one or stands inside it, at any depth. -/
inductive Contains : Statement → Statement → Prop
  | self (s : Statement) : Contains s s
  | inside {s t u : Statement} (child : t ∈ s.children) (found : Contains t u) : Contains s u

/-- The property holds of the statement and of all statements inside it. -/
def Everywhere (P : Statement → Prop) (s : Statement) : Prop := ∀ t, s.Contains t → P t

variable {P : Statement → Prop} {s : Statement}

theorem everywhere_iff : s.Everywhere P ↔ P s ∧ ∀ t ∈ s.children, t.Everywhere P := by
  constructor
  · intro all
    exact ⟨all s (.self s), fun t child u found => all u (.inside child found)⟩
  · rintro ⟨here, below⟩ t contains
    cases contains with
    | self => exact here
    | inside child found => exact below _ child t found

/-- The kinds of statements that are made of statements. -/
def compoundKinds : List NodeKind :=
  [.blockStmt, .tryCatch, .ifStmt, .whileStmt, .createProcedure, .createScalarFunction,
   .createTableFunction]

theorem children_eq_nil (simple : s.kind ∉ compoundKinds) : s.children = [] := by
  cases s <;> first | rfl | simp [kind, compoundKinds] at simple

end Statement

namespace Grammar

open TransactSql.Parser

/-- The property holds of the statements that the statement is made of. -/
def OfChildren (P : Statement → Prop) (s : Statement) : Prop := ∀ t ∈ s.children, P t

variable {P : Statement → Prop} (expr : Precedence → Parser Expr) {statement : Parser Statement}

theorem ofChildren_of_kinds {kinds : List NodeKind} {p : Parser Statement}
    (returns : ReturnsKinds kinds p)
    (simple : ∀ k ∈ kinds, k ∉ Statement.compoundKinds := by simp [Statement.compoundKinds]) :
    Returns (OfChildren P) p :=
  returns.mono fun s listed => by simp [OfChildren, Statement.children_eq_nil (simple _ listed)]

/-! ### Bodies -/

section

variable (inner : Returns P statement)

include inner

theorem statements_each : Returns (fun ss => ∀ s ∈ ss, P s) (statements statement) := by
  unfold statements
  refine .loop (fun ss held => ?_) (by simp)
  unfold moreStatements
  refine .bind fun ended => .ite (.pure held) (.seq inner fun s given => .pure ?_)
  exact List.forall_mem_append.mpr ⟨held, List.forall_mem_singleton.mpr given⟩

theorem blockBody_each : Returns (fun ss => ∀ s ∈ ss, P s) (blockBody statement) := by
  unfold blockBody
  refine .loop (fun ss held => ?_) (by simp)
  unfold moreBlockStatements
  refine .bind fun ended => .bind fun closed => .ite (.pure held) (.seq inner fun s given => .pure ?_)
  exact List.forall_mem_append.mpr ⟨held, List.forall_mem_singleton.mpr given⟩

theorem block_each : Returns (fun b => ∀ s ∈ b.body, P s) (block statement) := by
  unfold block
  refine .bind fun beginToken => .seq (blockBody_each inner) fun body held => ?_
  exact .bind fun endToken => .bind fun terminator => .build held

end

/-- Recovery gives what it makes of the tokens, or else what the parser gives. -/
theorem recovering_returns {Q : α → Prop} {p : Parser α}
    {recover : List Token → Option Token → Parser α} (read : Returns Q p)
    (kept : ∀ tokens terminator, Returns Q (recover tokens terminator)) :
    Returns Q (recovering p recover) := by
  unfold recovering
  refine .recording (.attempt read (fun a held => .pure held) fun e => ?_)
  cases e with
  | grammar => exact .bind fun read => kept _ _
  | _ => exact ⟨fun h => absurd h throw_ok⟩

/-- What recovery makes of tokens has the property. -/
structure HoldsOfKept (P : Statement → Prop) : Prop where
  raw : ∀ tokens terminator, P (.unmodeled tokens terminator)
  block : ∀ b : Block, (∀ s ∈ b.body, P s) → P (.block b)

section

variable (kept : HoldsOfKept P)

include kept

theorem rawStatement_holds (tokens : List Token) (terminator : Token) :
    Returns P (rawStatement tokens terminator) := by
  unfold rawStatement
  exact .bind fun raw => .build (kept.raw raw terminator)

theorem recoveredStatements_each (tokens : List Token) :
    Returns (fun ss => ∀ s ∈ ss, P s) (recoveredStatements tokens) := by
  unfold recoveredStatements
  refine .ite (.pure (by simp)) (.seq (rawStatement_holds kept _ _) fun s held => .pure ?_)
  exact List.forall_mem_singleton.mpr held

theorem recoveredBlock_each (tokens : List Token) (terminator : Option Token) :
    Returns (fun b => ∀ s ∈ b.body, P s) (recoveredBlock tokens terminator) := by
  unfold recoveredBlock
  split
  · dsimp only
    split
    · exact .fail_bind
    · exact .seq (recoveredStatements_each kept _) fun body held => .build held
  · exact .fail

theorem recoveredBody_each (tokens : List Token) (terminator : Option Token) :
    Returns (fun ss => ∀ s ∈ ss, P s) (recoveredBody tokens terminator) := by
  unfold recoveredBody
  refine .ite (.seq (recoveredBlock_each kept _ _) fun b held => .pure ?_) (.ite .fail ?_)
  · exact List.forall_mem_singleton.mpr (kept.block b held)
  · refine .seq (rawStatement_holds kept _ _) fun s held => .pure ?_
    exact List.forall_mem_singleton.mpr held

variable (inner : Returns P statement)

include inner

theorem blockRecovering_each : Returns (fun b => ∀ s ∈ b.body, P s) (blockRecovering statement) :=
  recovering_returns (block_each inner) (recoveredBlock_each kept)

theorem functionBody_each : Returns (fun b => ∀ s ∈ b.body, P s) (functionBody statement) := by
  unfold functionBody
  exact .bind fun opens => .ite (blockRecovering_each kept inner) .failExpected

theorem procedureBody_each : Returns (fun ss => ∀ s ∈ ss, P s) (procedureBody statement) := by
  unfold procedureBody
  refine .bind fun ended => ?_
  split
  · exact .fail_bind
  · exact recovering_returns (statements_each inner) (recoveredBody_each kept)

/-! ### Rules -/

theorem create_children : Returns (OfChildren P) (create expr statement) := by
  unfold create
  refine .bind fun first => .bind fun more => .bind fun token => ?_
  split
  case h_1 | h_2 =>
    unfold procedure
    refine .bind fun procedureToken => .bind fun name => .bind fun params => ?_
    refine .bind fun options => .bind fun replication => .bind fun asToken => .bind fun _ => ?_
    exact .seq (procedureBody_each kept inner) fun body held => .build (by exact held)
  case h_3 => exact ofChildren_of_kinds (returns_view expr _)
  case h_4 =>
    unfold function
    refine .bind fun signature => .bind fun isTable => .ite ?_ (.bind fun token => .ite ?_ ?_)
    · exact ofChildren_of_kinds (returns_inlineFunction expr signature)
    · unfold tableFunction
      refine .bind fun result => .bind fun type => .bind fun options => .bind fun asToken => ?_
      exact .bind fun _ => .seq (functionBody_each kept inner) fun b held => .build (by exact held)
    · unfold scalarFunction
      refine .bind fun type => .bind fun options => .bind fun asToken => .bind fun _ => ?_
      exact .seq (functionBody_each kept inner) fun b held => .build (by exact held)
  case h_5 => exact ofChildren_of_kinds (returns_unmodeledFrom _)

omit kept in
theorem beginStatement_children : Returns (OfChildren P) (beginStatement statement) := by
  unfold beginStatement
  refine .bind fun next => ?_
  split
  case h_1 | h_2 => exact ofChildren_of_kinds returns_beginTransaction
  case h_3 =>
    unfold tryCatch
    refine .bind fun first => .bind fun second => ?_
    refine .seq (blockBody_each inner) fun tryBody tried => .bind fun endTry => ?_
    refine .bind fun beginCatch => .seq (blockBody_each inner) fun catchBody caught => ?_
    refine .bind fun endCatch => .bind fun terminator => .build ?_
    exact List.forall_mem_append.mpr ⟨tried, caught⟩
  case h_4 | h_5 | h_6 => exact ofChildren_of_kinds returns_unmodeled
  case h_7 => exact .seq (block_each inner) fun b held => .pure held

omit kept in
theorem ifElse_children : Returns (OfChildren P) (ifElse expr statement) := by
  have branch : Returns (fun e => ∀ s ∈ e.statement?.toList, P s) (elseBranch statement) := by
    unfold elseBranch
    refine .bind fun keyword => ?_
    split
    · exact .seq inner fun s held => .pure (by simpa [ElseBranch.statement?] using held)
    · exact .pure (by simp [ElseBranch.statement?])
  unfold ifElse
  refine .bind fun ifToken => .bind fun condition => .seq inner fun thenBranch held => ?_
  refine .seq branch fun otherwise held' => .build ?_
  exact List.forall_mem_cons.mpr ⟨held, held'⟩

omit kept in
theorem whileLoop_children : Returns (OfChildren P) (whileLoop expr statement) := by
  unfold whileLoop
  refine .bind fun whileToken => .bind fun condition => .seq inner fun body held => .build ?_
  exact List.forall_mem_singleton.mpr held

/-- The statements directly inside a statement are given by the inner parser or kept. -/
theorem anyStatement_children : Returns (OfChildren P) (anyStatement expr statement) := by
  unfold anyStatement
  refine .bind fun token => ?_
  split
  case h_1 => exact .bind fun t => .build (by simp [OfChildren, Statement.children])
  case h_2 => exact ofChildren_of_kinds (returns_expressionStatement expr)
  case h_4 => exact ⟨fun h => absurd h failAtError_ok⟩
  case h_5 => exact .failExpected
  case h_3 =>
    unfold wordStatement
    refine .bind fun next => ?_
    split
    case h_1 => exact beginStatement_children inner
    case h_2 => exact ifElse_children expr inner
    case h_3 => exact whileLoop_children expr inner
    case h_4 | h_5 => exact ofChildren_of_kinds returns_loopControl
    case h_6 => exact ofChildren_of_kinds (returns_returnValue expr)
    case h_7 => exact ofChildren_of_kinds returns_goto
    case h_8 => exact ofChildren_of_kinds (returns_set expr)
    case h_9 => exact ofChildren_of_kinds (returns_declare expr)
    case h_10 | h_11 => exact create_children expr kept inner
    case h_12 => exact ofChildren_of_kinds (returns_expressionStatement expr)
    case h_13 => exact .ite (ofChildren_of_kinds returns_unmodeled) .fail
    case h_14 => exact .fail
    case h_15 =>
      refine .ite (ofChildren_of_kinds returns_label) (.ite ?_ .failExpected)
      exact ofChildren_of_kinds returns_unmodeled

end

end Grammar

/-! ### All depths -/

namespace Parser

variable {Q : Statement → Prop}

theorem holdsOfKept_everywhere (raw : ∀ tokens terminator, Q (.unmodeled tokens terminator))
    (block : ∀ b : Block, Q (.block b)) : Grammar.HoldsOfKept (Statement.Everywhere Q) where
  raw tokens terminator :=
    Statement.everywhere_iff.mpr ⟨raw tokens terminator, by simp [Statement.children]⟩
  block b held := Statement.everywhere_iff.mpr ⟨block b, held⟩

section

variable (each : ∀ depth, Returns Q (statement depth))
  (raw : ∀ tokens terminator, Q (.unmodeled tokens terminator)) (block : ∀ b : Block, Q (.block b))

include each raw block

/-- What holds of all that the parsers of statements give holds of the statements inside it too, if
it holds of blocks and of statements kept as tokens, which recovery makes. -/
theorem statement_everywhere (depth : Nat) : Returns (Statement.Everywhere Q) (statement depth) := by
  induction depth with
  | zero => exact .fail
  | succ depth ih =>
    have below := Grammar.anyStatement_children (Parser.expr depth)
      (holdsOfKept_everywhere raw block) ih
    exact ⟨fun run => Statement.everywhere_iff.mpr ⟨(each (depth + 1)).holds run, below.holds run⟩⟩

theorem topStatement_everywhere (depth : Nat) :
    Returns (Statement.Everywhere Q) (topStatement depth) := by
  have kept := holdsOfKept_everywhere raw block
  have inner := statement_everywhere each raw block depth
  unfold topStatement
  refine .bind fun opens => .ite ?_ inner
  exact .seq (Grammar.blockRecovering_each kept inner) fun b held => .pure (kept.block b held)

theorem statements_everywhere (depth : Nat) :
    Returns (fun ss => ∀ s ∈ ss, s.Everywhere Q) (statements depth) :=
  Grammar.statements_each (statement_everywhere each raw block depth)

end

end Parser

end TransactSql
