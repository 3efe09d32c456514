import TransactSql.Parse
import TransactSql.Proofs.Nesting.Expressions
import TransactSql.Proofs.Statement.Checked

/-!
# Statements are nested no deeper than their depth

What a body that does not follow the grammar is kept as has no parentheses, so recovery adds none.
Parentheses around table sources are left out here too, and `expr_parens_escape` shows that they are
not bounded.
-/

namespace TransactSql

open TransactSql.Tree

variable {n : Nat}

/-! ### Parts of statements -/

instance [Slotted α] : Slotted (SeparatedList α) := ⟨fun list => Slotted.slots list.items⟩

instance : Slotted VarDecl := ⟨fun v => [v.tree]⟩

instance : Slotted ParamDecl := ⟨fun p => [p.tree]⟩

instance : Slotted CursorDecl := ⟨fun c => [c.tree]⟩

instance : Slotted ProcedureHeader := ⟨ProcedureHeader.slots⟩

instance : Slotted ViewDef := ⟨fun v => [v.tree]⟩

instance : Slotted FunctionSignature := ⟨fun f => [f.tree]⟩

instance : Slotted InlineFunction := ⟨fun f => [f.tree]⟩

instance : Slotted Statement := ⟨fun s => [s.tree]⟩

instance : Slotted Block := ⟨fun b => [b.tree]⟩

instance : Slotted ElseBranch := ⟨ElseBranch.slots⟩

instance [Slotted α] [Plain α] : Plain (SeparatedList α) := ⟨fun list => Plain.none list.items⟩

instance [Slotted α] (items : List α) (separators : List Token) [h : Within n items] :
    Within n (SeparatedList.mk items separators) := ⟨h.all⟩

/-- The node of a list is nested as deep as its items. -/
theorem SeparatedList.within_tree [Slotted α] {list : SeparatedList α} [h : Within n list]
    {kind : NodeKind} {slot : α → Tree} (slots : ∀ a : α, Slotted.slots a = [slot a])
    (other : kind ≠ .paren) : Within n (list.tree kind slot) := by
  have items : Within n list.items := ⟨h.all⟩
  have trees : Within n (list.items.map slot) := by
    refine Within.list_iff.mpr fun t member => ?_
    obtain ⟨a, found, rfl⟩ := List.mem_map.mp member
    have bound := Within.list_iff.mp items a found
    exact .tree (slots a)
  exact within_node other

instance (list : SeparatedList Token) : Within n list.nameTree := by
  have items : Within n (list.items.map Tree.token) := inferInstanceAs (Within n (tokenSlots list.items))
  exact within_node (h := inferInstanceAs (Within n (interleave _ _))) nofun

instance (params : Option (SeparatedList ParamDecl)) [h : Within n params] :
    Within n (ParamDecl.listSlot params) := by
  cases params with
  | none => exact inferInstanceAs (Within n ([] : List Tree))
  | some list =>
    have items := Within.some_iff.mp h
    have tree : Within n (list.tree .separatedList ParamDecl.tree) :=
      SeparatedList.within_tree (fun _ => rfl) nofun
    exact inferInstanceAs (Within n [list.tree .separatedList ParamDecl.tree])

instance (o : Option RoutineOptions) : Within n (RoutineOptions.optionalSlot o) := by
  cases o with
  | none => exact inferInstanceAs (Within n ([] : List Tree))
  | some o => exact inferInstanceAs (Within n [o.tree])

instance (f : FunctionSignature) [Within n f] : Within n f.tree := .tree (a := f) rfl

instance (s : Statement) [Within n s] : Within n s.tree := .tree (a := s) rfl

instance (b : Block) [Within n b] : Within n b.tree := .tree (a := b) rfl

instance (e : ElseBranch) [h : Within n e] : Within n e.slots := h.slots

instance (h : ProcedureHeader) [bound : Within n h] : Within n h.slots := bound.slots

instance (ss : List Statement) [Within n ss] : Within n (Statement.slotsOf ss) := .list rfl fun _ _ => rfl

instance (ss : List Statement) [Within n ss] :
    Within n (node .statementList (Statement.slotsOf ss)) := within_node nofun

section

variable (s t u v w : Token) (e : Expr) [Within n e]

instance (type : DataType) (value : Tail) [Within n type] [Within n value] :
    Within n (VarDecl.mk t u type value) := .of_node rfl nofun

instance (isoOptions options : RawTokens) (update : Option RawTokens) :
    Within n (CursorDecl.mk s t isoOptions u options v e update w) := .of_node rfl nofun

instance (type : DataType) (varying : Option Token) (initial : Tail) (modifiers : List Token)
    [Within n type] [Within n initial] :
    Within n (ParamDecl.mk t u type varying initial modifiers) := .of_node rfl nofun

instance (create : List Token) (name : Name) (params : Option (SeparatedList ParamDecl))
    (options : Option RoutineOptions) (replication : Option (Token × Token)) [Within n params] :
    Within n (ProcedureHeader.mk create t name u params v options replication w) := by
  have pair : Within n ((replication.map tokenPair).getD []) := by
    cases replication with
    | none => exact inferInstanceAs (Within n ([] : List Tree))
    | some pair => exact inferInstanceAs (Within n (tokenPair pair))
  exact .of_slots (inferInstanceAs (Within n (tokenSlots create ++ [Tree.token t, name.tree, .token u]
    ++ ParamDecl.listSlot params ++ [.token v] ++ RoutineOptions.optionalSlot options
    ++ (replication.map tokenPair).getD [] ++ [.token w])))

instance (create : List Token) (name : Name) (columns : Option (SeparatedList Token))
    (options : Option RoutineOptions) (asToken terminator : Token)
    (checkOption : Option (Token × Token × Token)) :
    Within n (ViewDef.mk create t name u columns v options asToken e checkOption terminator) := by
  have names : Within n (columns.map SeparatedList.nameTree).toList := by
    cases columns with
    | none => exact inferInstanceAs (Within n ([] : List Tree))
    | some columns => exact inferInstanceAs (Within n [columns.nameTree])
  have check : Within n ((checkOption.map fun (a, b, c) => tokenSlots [a, b, c]).getD []) := by
    cases checkOption with
    | none => exact inferInstanceAs (Within n ([] : List Tree))
    | some words => exact inferInstanceAs (Within n (tokenSlots [words.1, words.2.1, words.2.2]))
  exact .of_node rfl nofun

instance (create : List Token) (name : Name) (params : Option (SeparatedList ParamDecl))
    [Within n params] : Within n (FunctionSignature.mk create t name u params v w) :=
  .of_node rfl nofun

instance (signature : FunctionSignature) (options : Option RoutineOptions) [Within n signature] :
    Within n (InlineFunction.mk signature t options u v e w) := .of_node rfl nofun

/-! ### Statements -/

instance (body : List Statement) [Within n body] : Within n (Block.mk t body u v) := .of_node rfl nofun

instance : Within n ElseBranch.absent := .of_none rfl

instance (branch : Statement) [Within n branch] : Within n (ElseBranch.present t branch) :=
  .of_slots (inferInstanceAs (Within n [Tree.token t, branch.tree]))

namespace Statement

instance : Within n (empty t) := .of_node rfl nofun

instance : Within n (expression e t) := .of_node rfl nofun

instance (b : Block) [h : Within n b] : Within n (block b) := ⟨h.all⟩

instance (name : Option Token) : Within n (beginTransaction t u name v) := .of_node rfl nofun

instance (beginTry endTry beginCatch endCatch : Token × Token) (tryBody catchBody : List Statement)
    [Within n tryBody] [Within n catchBody] :
    Within n (tryCatch beginTry tryBody endTry beginCatch catchBody endCatch t) := .of_node rfl nofun

instance (thenBranch : Statement) (otherwise : ElseBranch) [Within n thenBranch]
    [Within n otherwise] : Within n (ifElse t e thenBranch otherwise) := .of_node rfl nofun

instance (body : Statement) [Within n body] : Within n (whileLoop t e body) := .of_node rfl nofun

instance : Within n (loopControl t u) := .of_node rfl nofun

instance (value : Option Expr) [Within n value] : Within n (returnValue t value u) := .of_node rfl nofun

instance : Within n (goto t u v) := .of_node rfl nofun

instance : Within n (label t u) := .of_node rfl nofun

instance : Within n (setVariable t u v e w) := .of_node rfl nofun

instance (options : SeparatedList Token) (value : RawTokens) :
    Within n (setOption t options value u) := .of_node rfl nofun

instance (declarations : SeparatedList VarDecl) [Within n declarations] :
    Within n (declare t declarations u) := by
  have tree : Within n (declarations.tree .separatedList VarDecl.tree) :=
    SeparatedList.within_tree (fun _ => rfl) nofun
  exact .of_node rfl nofun

instance (cursor : CursorDecl) [h : Within n cursor] : Within n (declareCursor cursor) := ⟨h.all⟩

instance (header : ProcedureHeader) (body : List Statement) [Within n header] [Within n body] :
    Within n (createProcedure header body) := .of_node rfl nofun

instance (view : ViewDef) [h : Within n view] : Within n (createView view) := ⟨h.all⟩

instance (signature : FunctionSignature) (type : DataType) (options : Option RoutineOptions)
    (body : Block) [Within n signature] [Within n type] [Within n body] :
    Within n (createScalarFunction signature type options t body) := .of_node rfl nofun

instance (function : InlineFunction) [h : Within n function] :
    Within n (createInlineFunction function) := ⟨h.all⟩

instance (signature : FunctionSignature) (type : TableType) (options : Option RoutineOptions)
    (body : Block) [Within n signature] [Within n body] :
    Within n (createTableFunction signature t type options u body) := .of_node rfl nofun

instance (tokens : RawTokens) : Within n (unmodeled tokens t) := .of_node rfl nofun

end Statement

end

end TransactSql

namespace TransactSql.Grammar

open TransactSql.Parser

variable {n : Nat}
variable (expr : Precedence → Parser Expr) [∀ min, Framed (expr min)] [∀ min, Shallow n (expr min)]
variable (statement : Parser Statement) [Framed statement] [Shallow n statement]

/-! ### Declarations -/

instance (min : Precedence) : Shallow n (value expr min) := by unfold value; infer_instance

instance : Shallow n (varDecl expr) := by
  unfold varDecl
  refine .bind inferInstance fun name => .bind inferInstance fun asToken => ?_
  refine .bind inferInstance fun type => .bind inferInstance fun eq => ?_
  split <;> infer_instance

instance (declareToken : Token) : Shallow n (declareCursor expr declareToken) := by
  unfold declareCursor
  refine .bind inferInstance fun name => .bind inferInstance fun isoOptions => ?_
  refine .bind inferInstance fun cursorToken => .bind inferInstance fun options => ?_
  infer_instance

instance : Shallow n (declare expr) := by
  unfold declare
  refine .bind inferInstance fun declareToken => .bind inferInstance fun token => ?_
  split
  · infer_instance
  · refine .bind inferInstance fun read => ?_
    dsimp only
    infer_instance

instance : Shallow n (paramDefault expr) := by
  unfold paramDefault
  refine .bind inferInstance fun eq => ?_
  split <;> infer_instance

instance : Shallow n (paramDecl expr) := by unfold paramDecl; infer_instance

instance : Shallow n (params expr) := by unfold params; infer_instance

instance : Shallow n (optionalParams expr) := by unfold optionalParams; infer_instance

/-! ### Sequences of statements -/

instance (ss : List Statement) [Within n ss] : Shallow n (moreStatements statement ss) := by
  unfold moreStatements; infer_instance

instance : Shallow n (statements statement) := by unfold statements; infer_instance

instance (ss : List Statement) [Within n ss] : Shallow n (moreBlockStatements statement ss) := by
  unfold moreBlockStatements; infer_instance

instance : Shallow n (blockBody statement) := by unfold blockBody; infer_instance

instance : Shallow n (block statement) := by unfold block; infer_instance

instance [Slotted α] (p : Parser α) [Framed p] [Shallow n p]
    (recover : List Token → Option Token → Parser α) [∀ ts t, Shallow n (recover ts t)] :
    Shallow n (recovering p recover) := by
  unfold recovering
  refine .recording (.attempt inferInstance (fun a => ?_) fun e => ?_)
  · infer_instance
  · cases e <;> dsimp only <;> infer_instance

instance (tokens : List Token) (terminator : Token) : Shallow n (rawStatement tokens terminator) := by
  unfold rawStatement; infer_instance

instance (tokens : List Token) : Shallow n (recoveredStatements tokens) := by
  unfold recoveredStatements; infer_instance

instance (tokens : List Token) (terminator : Option Token) :
    Shallow n (recoveredBlock tokens terminator) := by
  unfold recoveredBlock
  split <;> infer_instance

instance : Shallow n (blockRecovering statement) := by unfold blockRecovering; infer_instance

instance (tokens : List Token) (terminator : Option Token) :
    Shallow n (recoveredBody tokens terminator) := by
  unfold recoveredBody; infer_instance

instance : Shallow n (procedureBody statement) := by unfold procedureBody; infer_instance

/-! ### Routines -/

instance (what : String) : Shallow n (queryBody expr what) := by unfold queryBody; infer_instance

instance : Shallow n (procedureParams expr) := by
  unfold procedureParams
  refine .bind inferInstance fun lparen => ?_
  split <;> infer_instance

instance (create : List Token) : Shallow n (procedure expr statement create) := by
  unfold procedure
  refine .bind inferInstance fun procedureToken => .bind inferInstance fun name => ?_
  refine .bind inferInstance fun ⟨⟨lparen, params, rparen⟩, bound⟩ => ?_
  have params : Within n params := (Within.pair_iff.mp (Within.pair_iff.mp bound).2).1
  dsimp only
  infer_instance

instance (create : List Token) : Shallow n (view expr create) := by unfold view; infer_instance

instance : Shallow n (functionBody statement) := by unfold functionBody; infer_instance

instance (create : List Token) : Shallow n (functionSignature expr create) := by
  unfold functionSignature; infer_instance

instance (signature : FunctionSignature) [Within n signature] :
    Shallow n (inlineFunction expr signature) := by
  unfold inlineFunction; infer_instance

instance (signature : FunctionSignature) [Within n signature] :
    Shallow n (tableFunction statement signature) := by
  unfold tableFunction; infer_instance

instance (signature : FunctionSignature) [Within n signature] :
    Shallow n (scalarFunction expr statement signature) := by
  unfold scalarFunction; infer_instance

instance (create : List Token) : Shallow n (function expr statement create) := by
  unfold function; infer_instance

instance (before : List Token) : Shallow n (unmodeledFrom before) := by
  unfold unmodeledFrom; infer_instance

instance : Shallow n (create expr statement) := by
  unfold create
  refine .bind inferInstance fun first => .bind inferInstance fun tokens => ?_
  refine .bind inferInstance fun token => ?_
  split <;> infer_instance

/-! ### Statements -/

instance : Shallow n (expressionStatement expr) := by unfold expressionStatement; infer_instance

instance : Shallow n unmodeled := by unfold unmodeled; infer_instance

instance : Shallow n beginTransaction := by unfold beginTransaction; infer_instance

instance : Shallow n (tryCatch statement) := by unfold tryCatch; infer_instance

instance : Shallow n (beginStatement statement) := by
  unfold beginStatement
  refine .bind inferInstance fun next => ?_
  split <;> infer_instance

instance : Shallow n (elseBranch statement) := by
  unfold elseBranch
  refine .bind inferInstance fun keyword => ?_
  split <;> infer_instance

instance : Shallow n (ifElse expr statement) := by unfold ifElse; infer_instance

instance : Shallow n (whileLoop expr statement) := by unfold whileLoop; infer_instance

instance : Shallow n loopControl := by unfold loopControl; infer_instance

instance : Shallow n (optionalValue expr) := by unfold optionalValue; infer_instance

instance : Shallow n (returnValue expr) := by unfold returnValue; infer_instance

instance : Shallow n goto := by unfold goto; infer_instance

instance : Shallow n label := by unfold label; infer_instance

instance (setToken : Token) : Shallow n (setVariable expr setToken) := by
  unfold setVariable
  refine .bind inferInstance fun next => ?_
  dsimp only
  infer_instance

instance (setToken : Token) : Shallow n (setOption setToken) := by unfold setOption; infer_instance

instance : Shallow n (set expr) := by unfold set; infer_instance

instance (token : Token) : Shallow n (wordStatement expr statement token) := by
  unfold wordStatement
  refine .bind inferInstance fun next => ?_
  split <;> infer_instance

instance : Shallow n (anyStatement expr statement) := by
  unfold anyStatement
  refine .bind inferInstance fun token => ?_
  split <;> infer_instance

end TransactSql.Grammar

namespace TransactSql.Parser

/-- A statement is nested no deeper than its depth, apart from parentheses around table sources. -/
instance (depth : Nat) : Shallow depth (statement depth) := by
  induction depth with
  | zero => unfold statement; infer_instance
  | succ depth ih =>
    have deeper : Shallow (depth + 1) (statement depth) := ih.mono (Nat.le_succ depth)
    have exprs : ∀ min, Shallow (depth + 1) (expr depth min) := fun min =>
      Shallow.mono (n := depth) inferInstance (Nat.le_succ depth)
    unfold statement
    infer_instance

instance (depth : Nat) : Shallow depth (statements depth) := by unfold statements; infer_instance

end TransactSql.Parser

namespace TransactSql

/-- What an expression, a statement or a sequence of statements is read as is nested no deeper than
the depth it is read with, if parentheses around table sources are left out. -/
theorem parsers_nesting (depth : Nat) (c : Cursor) (eof : c.eof.isEof = true) :
    (∀ {min e d}, Parser.expr depth min c = .ok e d → e.tree.nesting false ≤ depth) ∧
    (∀ {s d}, Parser.statement depth c = .ok s d → s.tree.nesting false ≤ depth) ∧
    (∀ {ss d}, Parser.statements depth c = .ok ss d →
      (Statement.listTree ss).nesting false ≤ depth) := by
  refine ⟨fun {min e d} h => ?_, fun {s d} h => ?_, fun {ss d} h => ?_⟩
  · have bound : Within depth e := Parser.Shallow.within eof h
    exact Tree.within_iff.mp inferInstance
  · have bound : Within depth s := Parser.Shallow.within eof h
    exact Tree.within_iff.mp inferInstance
  · have bound : Within depth ss := Parser.Shallow.within eof h
    have list : Within depth (Statement.listTree ss) := Tree.within_node nofun
    exact Tree.within_iff.mp list

/-- An expression and a script, each read at depth 3. -/
theorem parsers_nesting_three :
    (∃ e d, Parser.expr 3 .none (.ofText "((a)) + (b)") = .ok e d ∧ e.tree.nesting false ≤ 3) ∧
    (∃ ss d, Parser.statements 3 (.ofText "IF a = (1) RETURN (2); SELECT * FROM (b CROSS JOIN c)")
        = .ok ss d ∧ (Statement.listTree ss).nesting false ≤ 3) := by
  obtain ⟨e, d, expression⟩ := Parser.exists_of_matches (p := Parser.expr 3 .none)
    (c := .ofText "((a)) + (b)") (by decide +kernel)
  obtain ⟨ss, d', script⟩ := Parser.exists_of_matches (p := Parser.statements 3)
    (c := .ofText "IF a = (1) RETURN (2); SELECT * FROM (b CROSS JOIN c)") (by decide +kernel)
  have bounds := parsers_nesting 3 _ (Cursor.isEof_ofTokens (lex "((a)) + (b)"))
  have bounds' := parsers_nesting 3 _
    (Cursor.isEof_ofTokens (lex "IF a = (1) RETURN (2); SELECT * FROM (b CROSS JOIN c)"))
  exact ⟨⟨e, d, expression, bounds.1 expression⟩, ⟨ss, d', script, bounds'.2.2 script⟩⟩

/-- Parentheses around table sources are not bounded: three of them in one another are read at
depth 2. -/
theorem expr_parens_escape :
    ¬ ∀ (ts : List Token) (depth : Nat) (e : Expr) (d : Cursor),
      Parser.expr depth .none (.ofTokens ts) = .ok e d → e.tree.parens ≤ depth := by
  intro bounded
  let ts := lex "SELECT * FROM (a CROSS JOIN (b CROSS JOIN (c CROSS JOIN d)))"
  have parens : (match Parser.expr 2 .none (.ofTokens ts) with
      | .ok e _ => e.tree.parens
      | .error .. => 0) = 3 := by decide +kernel
  obtain ⟨e, d, run⟩ := Parser.exists_of_matches (p := Parser.expr 2 .none)
    (c := .ofTokens ts) (by decide +kernel)
  have bound := bounded ts 2 e d run
  rw [run] at parens
  have three : e.tree.parens = 3 := parens
  omega

end TransactSql
