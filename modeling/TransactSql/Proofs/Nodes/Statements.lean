import TransactSql.Parse
import TransactSql.Proofs.Nodes.Declarations

/-!
# Statements are proper

All statements are read where `=` is a comparison, apart from the operator and the value of a `SET`.
What is recovered of a body is made of recorded tokens, which are as they were lexed.
-/

namespace TransactSql

open TransactSql.Parser TransactSql.Tree

variable {b : Bool}

/-! ### Parts of statements -/

instance : Parts RoutineOptions := ⟨fun o => [o.tree]⟩

instance : Parts CursorDecl := ⟨fun c => [c.tree]⟩

instance : Parts ProcedureHeader := ⟨ProcedureHeader.slots⟩

instance : Parts FunctionSignature := ⟨fun f => [f.tree]⟩

instance : Parts InlineFunction := ⟨fun f => [f.tree]⟩

instance : Parts Statement := ⟨fun s => [s.tree]⟩

instance : Parts Block := ⟨fun b => [b.tree]⟩

instance : Parts ElseBranch := ⟨ElseBranch.slots⟩

instance (o : Option RoutineOptions) [Sound b o] : Sound b (RoutineOptions.optionalSlot o) :=
  .optional rfl fun _ => rfl

instance (columns : Option (SeparatedList Token)) [h : Sound false columns] :
    Sound b (columns.map SeparatedList.nameTree).toList := by
  cases columns with
  | none => exact inferInstanceAs (Sound b ([] : List Tree))
  | some list =>
    have items := Sound.some_iff.mp h
    exact inferInstanceAs (Sound b [list.nameTree])

instance (pair : Option (Token × Token)) [Sound b pair] : Sound b ((pair.map tokenPair).getD []) := by
  apply Sound.optional (a := pair)
  · rfl
  · exact fun _ => rfl

instance (words : Option (Token × Token × Token)) [Sound b words] :
    Sound b ((words.map fun (x, y, z) => tokenSlots [x, y, z]).getD []) := by
  apply Sound.optional (a := words)
  · rfl
  · exact fun _ => rfl

instance (f : FunctionSignature) [Sound b f] : Sound b f.tree := .tree (a := f) rfl

instance (s : Statement) [Sound b s] : Sound b s.tree := .tree (a := s) rfl

instance (block : Block) [Sound b block] : Sound b block.tree := .tree (a := block) rfl

instance (e : ElseBranch) [h : Sound b e] : Sound b e.slots := h.parts

instance (header : ProcedureHeader) [h : Sound b header] : Sound b header.slots := h.parts

instance (ss : List Statement) [Sound b ss] : Sound b (Statement.slotsOf ss) := .list rfl fun _ _ => rfl

instance (ss : List Statement) [Sound false ss] : Sound b (node .statementList (Statement.slotsOf ss)) :=
  sound_node rfl rfl

section

variable (s t u v w : Token) [Sound false s] [Sound false t] [Sound false u] [Sound false v]
variable [Sound false w] (e : Expr) [Sound false e]

instance (options : RawTokens) [Sound false options] : Sound b (RoutineOptions.mk t options) :=
  .of_node rfl rfl rfl

instance (isoOptions options : RawTokens) (update : Option RawTokens) [Sound false isoOptions]
    [Sound false options] [Sound false update] :
    Sound b (CursorDecl.mk s t isoOptions u options v e update w) := .of_node rfl rfl rfl

instance (create : List Token) (name : Name) (params : Option (SeparatedList ParamDecl))
    (options : Option RoutineOptions) (replication : Option (Token × Token)) [Sound false create]
    [Sound false name] [Sound false params] [Sound false options] [Sound false replication] :
    Sound false (ProcedureHeader.mk create t name u params v options replication w) :=
  .of_parts (inferInstanceAs (Sound false (tokenSlots create ++ [Tree.token t, name.tree, .token u]
    ++ ParamDecl.listSlot params ++ [.token v] ++ RoutineOptions.optionalSlot options
    ++ (replication.map tokenPair).getD [] ++ [.token w])))

instance (signature : FunctionSignature) (options : Option RoutineOptions) [Sound false signature]
    [Sound false options] : Sound b (InlineFunction.mk signature t options u v e w) :=
  .of_node rfl rfl rfl

/-! ### Statements -/

instance (body : List Statement) [Sound false body] : Sound b (Block.mk t body u v) :=
  .of_node rfl rfl rfl

omit [Sound false t] in
instance [Sound b t] (branch : Statement) [Sound b branch] : Sound b (ElseBranch.present t branch) :=
  .of_parts (inferInstanceAs (Sound b [Tree.token t, branch.tree]))

instance : Sound b ElseBranch.absent := .of_none rfl

namespace Statement

instance : Sound b (empty t) := .of_node rfl rfl rfl

instance : Sound b (expression e t) := .of_node rfl rfl rfl

instance (body : Block) [h : Sound b body] : Sound b (block body) := ⟨h.all⟩

instance (name : Option Token) [Sound false name] : Sound b (beginTransaction t u name v) :=
  .of_node rfl rfl rfl

instance (beginTry endTry beginCatch endCatch : Token × Token) (tryBody catchBody : List Statement)
    [Sound false beginTry] [Sound false endTry] [Sound false beginCatch] [Sound false endCatch]
    [Sound false tryBody] [Sound false catchBody] :
    Sound b (tryCatch beginTry tryBody endTry beginCatch catchBody endCatch t) := .of_node rfl rfl rfl

instance (thenBranch : Statement) (otherwise : ElseBranch) [Sound false thenBranch]
    [Sound false otherwise] : Sound b (ifElse t e thenBranch otherwise) := .of_node rfl rfl rfl

instance (body : Statement) [Sound false body] : Sound b (whileLoop t e body) := .of_node rfl rfl rfl

instance : Sound b (loopControl t u) := .of_node rfl rfl rfl

instance (value : Option Expr) [Sound false value] : Sound b (returnValue t value u) :=
  .of_node rfl rfl rfl

instance : Sound b (goto t u v) := .of_node rfl rfl rfl

instance : Sound b (label t u) := .of_node rfl rfl rfl

instance (options : SeparatedList Token) (value : RawTokens) [Sound false options]
    [Sound false value] : Sound b (setOption t options value u) := .of_node rfl rfl rfl

instance (declarations : SeparatedList VarDecl) [Sound false declarations] :
    Sound b (declare t declarations u) := by
  have tree : Sound false (declarations.tree .separatedList VarDecl.tree) :=
    SeparatedList.sound_tree (fun _ => rfl) rfl rfl
  exact .of_node rfl rfl rfl

instance (cursor : CursorDecl) [h : Sound b cursor] : Sound b (declareCursor cursor) := ⟨h.all⟩

instance (signature : FunctionSignature) (type : DataType) (options : Option RoutineOptions)
    (body : Block) [Sound false signature] [Sound false type] [Sound false options]
    [Sound false body] : Sound b (createScalarFunction signature type options t body) :=
  .of_node rfl rfl rfl

instance (function : InlineFunction) [h : Sound b function] :
    Sound b (createInlineFunction function) := ⟨h.all⟩

instance (signature : FunctionSignature) (type : TableType) (options : Option RoutineOptions)
    (body : Block) [Sound false signature] [Sound false type] [Sound false options]
    [Sound false body] : Sound b (createTableFunction signature t type options u body) :=
  .of_node rfl rfl rfl

instance (tokens : RawTokens) [Sound false tokens] : Sound b (unmodeled tokens t) := .of_node rfl rfl rfl

end Statement

end

namespace Checked

/-- The operator of a `SET` is the sign of the value behind it. -/
theorem sound_setVariable {t u operator v : Token} {value : Expr} [Sound false t] [Sound false u]
    [Sound false v] [Sound true value]
    (accepted : (setVariable t u operator value v).isOk = true) :
    Sound b (Statement.setVariable t u operator value v) := by
  simp only [setVariable, Shaped.isOk_bind, Check.isOk_token, Bool.and_eq_true] at accepted
  have isAssignment := accepted.2.2.1
  have front : Sound false [t, u] := inferInstance
  have back : Sound false [v] := inferInstance
  have signed : SignedAt (tokenSlots [t, u] ++ .token operator :: value.tree :: tokenSlots [v]) :=
    signedAt_value front back isAssignment
  have slots : Sound true [.token t, .token u, .token operator, value.tree, .token v] := inferInstance
  refine .of_tree rfl (sound_of_proper (by decide) slots fun fixed => ?_)
  exact {
    partners := fun parens => by cases parens
    signs := fun split => signed _ _ _ split
    placed := fun t member => mayStandIn_of_not_isLoose (fixed t member) _ }

/-! ### Routines -/

theorem isMark_of_isCreate {create : List Token} (accepted : isCreate create = true) :
    ∀ t ∈ tokenSlots create, t.isMark = false := by
  unfold isCreate at accepted
  split at accepted
  · simpa using isMark_of_isAnyKeyword accepted
  · simp only [Bool.and_eq_true] at accepted
    obtain ⟨⟨first, second⟩, third⟩ := accepted
    simp [isMark_of_isKeyword first, isMark_of_isKeyword second, isMark_of_isKeyword third]
  · cases accepted

theorem isMark_listSlot (params : Option (SeparatedList ParamDecl)) :
    ∀ t ∈ ParamDecl.listSlot params, t.isMark = false := by
  cases params <;> simp

theorem isMark_routineOptions (o : Option RoutineOptions) :
    ∀ t ∈ RoutineOptions.optionalSlot o, t.isMark = false := by
  cases o <;> simp

theorem isOk_create {node : NodeKind} {tokens : List Token} :
    (create node tokens).isOk = isCreate tokens := by
  unfold create
  split
  · next held => simp [held]
  · next refused =>
    rw [Bool.not_eq_true] at refused
    rw [refused]
    rfl

theorem sound_createProcedure {header : ProcedureHeader} {body : List Statement} [Sound false header]
    [Sound false body] (accepted : (createProcedure header body).isOk = true)
    (enclosed : Paired header.lparen (ParamDecl.listSlot header.params) header.rparen) :
    Sound b (Statement.createProcedure header body) := by
  simp only [createProcedure, Shaped.isOk_bind, isOk_create, Check.isOk_token, Check.isOk_keyword,
    Check.isOk_keyword?, Shaped.isOk_pure, Bool.and_true, Bool.and_eq_true] at accepted
  obtain ⟨create, procedure, _, first, second, asToken⟩ := accepted
  have pair : ∀ t ∈ (header.replication.map tokenPair).getD [], t.isMark = false := by
    cases found : header.replication with
    | none => exact List.forall_mem_nil _
    | some pair =>
      rw [found] at first second
      simp [isMark_of_isKeyword first, isMark_of_isKeyword second]
  refine Sound.mono (.of_enclosed
    (tokenSlots header.create ++ [.token header.procedureToken, header.name.tree])
    (RoutineOptions.optionalSlot header.options ++ (header.replication.map tokenPair).getD []
      ++ [.token header.asToken, .node .statementList (Statement.slotsOf body)])
    rfl enclosed (by simp) rfl ?_)
  simp only [List.forall_mem_append, List.forall_mem_cons]
  exact ⟨⟨isMark_of_isCreate create, isMark_of_isAnyKeyword procedure, rfl, List.forall_mem_nil _⟩,
    isMark_listSlot _, ⟨isMark_routineOptions _, pair⟩, isMark_of_isKeyword asToken, rfl,
    List.forall_mem_nil _⟩

theorem isMark_of_terminator {node : NodeKind} {t : Token} [Sound false t]
    (accepted : (Check.terminator node t).isOk = true) : (token t).isMark = false := by
  simp only [Check.isOk_terminator, Bool.or_eq_true, beq_iff_eq] at accepted
  refine isMark_eq_false.mpr ⟨Token.isForeign_eq, ?_⟩
  rcases accepted with absent | semicolon
  · simp [isParen, Token.isParen, beq_iff_eq.mp absent]
  · simp [isParen, Token.isParen, semicolon]

section

variable {create : List Token} {t u v w : Token} {name : Name} [Sound false create] [Sound false t]
variable [Sound false u] [Sound false v] [Sound false w] [Sound false name]

theorem sound_functionSignature {params : Option (SeparatedList ParamDecl)} [Sound false params]
    (accepted : (functionSignature (.mk create t name u params v w)).isOk = true)
    (enclosed : Paired u (ParamDecl.listSlot params) v) :
    Sound b (FunctionSignature.mk create t name u params v w) := by
  simp only [functionSignature, Shaped.isOk_bind, isOk_create, Check.isOk_keyword, Shaped.isOk_pure,
    Bool.and_true, Bool.and_eq_true] at accepted
  obtain ⟨start, function, _, returns⟩ := accepted
  refine Sound.mono (.of_enclosed (tokenSlots create ++ [.token t, name.tree]) [.token w] rfl
    enclosed (by simp) rfl ?_)
  simp only [List.forall_mem_append, List.forall_mem_cons]
  exact ⟨⟨isMark_of_isCreate start, isMark_of_isKeyword function, rfl, List.forall_mem_nil _⟩,
    isMark_listSlot _, isMark_of_isKeyword returns, List.forall_mem_nil _⟩

theorem sound_createView {columns : Option (SeparatedList Token)} {options : Option RoutineOptions}
    {terminator : Token} {query : Expr} {check : Option (Token × Token × Token)} [Sound false columns]
    [Sound false options] [Sound false terminator] [Sound false query] [Sound false check]
    (accepted : (createView (.mk create t name u columns v options w query check terminator)).isOk = true)
    (enclosed : Paired u (columns.map SeparatedList.nameTree).toList v) :
    Sound b (Statement.createView (.mk create t name u columns v options w query check terminator)) := by
  unfold createView at accepted
  simp only [Shaped.isOk_bind, isOk_create, Check.isOk_keyword, Bool.and_eq_true] at accepted
  obtain ⟨start, view, _, accepted⟩ := accepted
  split at accepted
  · cases accepted
  · simp only [Shaped.isOk_bind, Check.isOk_keyword, Bool.and_eq_true] at accepted
    obtain ⟨asToken, accepted⟩ := accepted
    split at accepted
    · cases accepted
    · simp only [Shaped.isOk_bind, Check.isOk_keyword?, Shaped.isOk_pure, Bool.and_true,
        Bool.and_eq_true] at accepted
      obtain ⟨first, second, third, last⟩ := accepted
      have names : ∀ x ∈ (columns.map SeparatedList.nameTree).toList, x.isMark = false := by
        cases columns <;> simp
      have words : ∀ x ∈ (check.map fun (x, y, z) => tokenSlots [x, y, z]).getD [],
          x.isMark = false := by
        cases check with
        | none => exact List.forall_mem_nil _
        | some words =>
          simp [isMark_of_isKeyword first, isMark_of_isKeyword second, isMark_of_isKeyword third]
      refine Sound.mono (.of_enclosed (tokenSlots create ++ [.token t, name.tree])
        (RoutineOptions.optionalSlot options ++ [.token w, query.tree]
          ++ (check.map fun (x, y, z) => tokenSlots [x, y, z]).getD [] ++ [.token terminator])
        rfl enclosed (by simp) rfl ?_)
      simp only [List.forall_mem_append, List.forall_mem_cons]
      exact ⟨⟨isMark_of_isCreate start, isMark_of_isKeyword view, rfl, List.forall_mem_nil _⟩, names,
        ⟨⟨isMark_routineOptions _, isMark_of_isKeyword asToken, query.isMark_tree,
          List.forall_mem_nil _⟩, words⟩,
        isMark_of_terminator last, List.forall_mem_nil _⟩

end

end Checked

namespace Grammar

variable (expr : Precedence → Parser Expr) [faithful : Faithful expr]
variable (statement : Parser Statement) [Framed statement] [trusted : Trusted false statement]

/-! ### Declarations -/

omit faithful in
instance : Trusted false updateClause := by unfold updateClause; infer_instance

instance (declareToken : Token) [Sound false declareToken] :
    Trusted false (declareCursor expr declareToken) := by
  unfold declareCursor
  refine .bind inferInstance fun name => .bind inferInstance fun isoOptions => ?_
  refine .bind inferInstance fun cursorToken => .bind inferInstance fun options => ?_
  infer_instance

instance : Trusted false (declare expr) := by
  unfold declare
  refine .bind inferInstance fun declareToken => .bind inferInstance fun token => ?_
  split
  · infer_instance
  · refine .bind inferInstance fun read => ?_
    dsimp only
    infer_instance

/-! ### Sequences of statements -/

section

omit faithful

instance (ss : List Statement) [Sound false ss] : Trusted false (moreStatements statement ss) := by
  unfold moreStatements; infer_instance

instance : Trusted false (statements statement) := by unfold statements; infer_instance

instance (ss : List Statement) [Sound false ss] : Trusted false (moreBlockStatements statement ss) := by
  unfold moreBlockStatements; infer_instance

instance : Trusted false (blockBody statement) := by unfold blockBody; infer_instance

instance : Trusted false (block statement) := by unfold block; infer_instance

omit [Framed statement] trusted in
/-- What is made of recorded tokens is sound as they are. -/
theorem trusted_recovering [Parts α] {p : Parser α} [Framed p] [Trusted false p]
    {recover : List Token → Option Token → Parser α}
    (recovers : ∀ tokens last, Sound false tokens → Sound false last →
      Trusted false (recover tokens last)) : Trusted false (recovering p recover) := by
  unfold recovering
  refine .recording (.attempt inferInstance (fun a => inferInstance) fun e => ?_)
  cases e with
  | grammar x =>
    refine .bind inferInstance fun ⟨⟨tokens, last⟩, sound⟩ => ?_
    exact recovers tokens last (Sound.pair_iff.mp sound).1 (Sound.pair_iff.mp sound).2
  | _ => dsimp only; infer_instance

instance (tokens : List Token) (terminator : Token) [Sound false tokens] [Sound false terminator] :
    Trusted false (rawStatement tokens terminator) := by
  unfold rawStatement; infer_instance

instance (tokens : List Token) [Sound false tokens] : Trusted false (recoveredStatements tokens) := by
  unfold recoveredStatements; infer_instance

instance (last : Option Token) [h : Sound false last] : Sound false (last.getD .placeholder) := by
  cases last with
  | none => exact inferInstanceAs (Sound false Token.placeholder)
  | some t => exact Sound.some_iff.mp h

theorem recoveredBlock_trusted (tokens : List Token) (last : Option Token) (sound : Sound false tokens)
    (final : Sound false last) : Trusted false (recoveredBlock tokens last) := by
  unfold recoveredBlock
  split
  · next beginToken endToken first final =>
    have opening : Sound false beginToken :=
      Sound.list_iff.mp sound beginToken (List.mem_of_head? first)
    have closing : Sound false endToken :=
      Sound.list_iff.mp sound endToken (List.mem_of_mem_tail (List.mem_of_getLast? final))
    have inside : Sound false tokens.tail.dropLast := sound.subset fun t member =>
      List.mem_of_mem_tail (List.dropLast_subset _ member)
    infer_instance
  · infer_instance

instance : Trusted false (blockRecovering statement) := by
  unfold blockRecovering
  exact trusted_recovering recoveredBlock_trusted

theorem recoveredBody_trusted (tokens : List Token) (last : Option Token) (sound : Sound false tokens)
    (final : Sound false last) : Trusted false (recoveredBody tokens last) := by
  have block := recoveredBlock_trusted tokens last sound final
  unfold recoveredBody
  infer_instance

instance : Trusted false (procedureBody statement) := by
  have recovers : Trusted false (recovering (statements statement) recoveredBody) :=
    trusted_recovering recoveredBody_trusted
  unfold procedureBody
  infer_instance

end

/-! ### Routines -/

omit faithful in
instance : Trusted false routineOptions := by
  unfold routineOptions
  exact .option inferInstance fun withToken => inferInstance

instance (what : String) : Trusted false (queryBody expr what) := by unfold queryBody; infer_instance

theorem procedureParams_sound {c d : Cursor} {read : Token × Option (SeparatedList ParamDecl) × Token}
    (lexed : c.Lexed) (context : c.assignment = false) (run : procedureParams expr c = .ok read d) :
    Sound false read ∧ Paired read.1 (ParamDecl.listSlot read.2.1) read.2.2 := by
  unfold procedureParams at run
  obtain ⟨lparen, c₁, eaten, run⟩ := bind_ok run
  rcases eat_ok eaten with ⟨rfl, isOpen, rfl⟩ | ⟨rfl, _⟩
  · obtain ⟨params, c₂, list, run⟩ := bind_ok run
    obtain ⟨rparen, c₃, close, run⟩ := bind_ok run
    obtain ⟨opening, inside, closing, enclosed⟩ :=
      sound_enclosed lexed context (eq_of_beq isOpen) list close
    cases run
    exact ⟨inferInstance, enclosed⟩
  · dsimp only at run
    rw [current_bind] at run
    split at run
    · obtain ⟨list, c₂, first, run⟩ := bind_ok run
      have inside : Sound false list :=
        Trusted.sound (Framed.lexed lexed eaten) (Framed.assignment context eaten) first
      cases run
      exact ⟨inferInstance, .inr ⟨rfl, rfl⟩⟩
    · cases run
      exact ⟨inferInstance, .inr ⟨rfl, rfl⟩⟩

instance (create : List Token) [Sound false create] : Trusted false (procedure expr statement create) := by
  unfold procedure
  refine .bind inferInstance fun procedureToken => .bind inferInstance fun name => ?_
  refine .bind_known (procedureParams_sound expr) fun ⟨lparen, params, rparen⟩ ⟨sound, enclosed⟩ => ?_
  have opening : Sound false lparen := (Sound.pair_iff.mp sound).1
  have list : Sound false params := (Sound.pair_iff.mp (Sound.pair_iff.mp sound).2).1
  have closing : Sound false rparen := (Sound.pair_iff.mp (Sound.pair_iff.mp sound).2).2
  refine .bind inferInstance fun options => .bind inferInstance fun replication => ?_
  refine .bind inferInstance fun asToken => .bind inferInstance fun external => ?_
  exact .bind inferInstance fun body => .build fun accepted =>
    Checked.sound_createProcedure accepted enclosed

/-! ### Views -/

omit faithful in
instance : Trusted false columnNames := by unfold columnNames; infer_instance

omit faithful in
theorem viewColumns_sound {c d : Cursor} {read : Token × Option (SeparatedList Token) × Token}
    (lexed : c.Lexed) (context : c.assignment = false) (run : viewColumns c = .ok read d) :
    Sound false read ∧ Paired read.1 (read.2.1.map SeparatedList.nameTree).toList read.2.2 := by
  unfold viewColumns at run
  obtain ⟨lparen, c₁, eaten, run⟩ := bind_ok run
  rcases eat_ok eaten with ⟨rfl, isOpen, rfl⟩ | ⟨rfl, _⟩
  · obtain ⟨columns, c₂, list, run⟩ := bind_ok run
    obtain ⟨rparen, c₃, close, run⟩ := bind_ok run
    obtain ⟨opening, inside, closing, enclosed⟩ :=
      sound_enclosed lexed context (eq_of_beq isOpen) list close
    cases run
    exact ⟨inferInstance, enclosed⟩
  · cases run
    exact ⟨inferInstance, .inr ⟨rfl, rfl⟩⟩

omit faithful in
instance : Trusted false checkOption := by unfold checkOption; infer_instance

instance (create : List Token) [Sound false create] : Trusted false (view expr create) := by
  unfold view
  refine .bind inferInstance fun viewToken => .bind inferInstance fun name => ?_
  refine .bind_known viewColumns_sound fun ⟨lparen, columns, rparen⟩ ⟨sound, enclosed⟩ => ?_
  have opening : Sound false lparen := (Sound.pair_iff.mp sound).1
  have list : Sound false columns := (Sound.pair_iff.mp (Sound.pair_iff.mp sound).2).1
  have closing : Sound false rparen := (Sound.pair_iff.mp (Sound.pair_iff.mp sound).2).2
  refine .bind inferInstance fun options => .bind inferInstance fun asToken => ?_
  refine .bind inferInstance fun query => .bind inferInstance fun check => ?_
  exact .bind inferInstance fun terminator => .build fun accepted =>
    Checked.sound_createView accepted enclosed

/-! ### Functions -/

omit faithful in
instance : Trusted false (functionBody statement) := by unfold functionBody; infer_instance

instance (create : List Token) [Sound false create] : Trusted false (functionSignature expr create) where
  sound {c d signature} lexed context run := by
    unfold functionSignature at run
    obtain ⟨functionToken, c₁, first, run⟩ := bind_ok run
    have word : Sound false functionToken := Trusted.sound lexed context first
    have lexed := Framed.lexed lexed first
    have context := Framed.assignment context first
    obtain ⟨name, c₂, second, run⟩ := bind_ok run
    have named : Sound false name := Trusted.sound lexed context second
    have lexed := Framed.lexed lexed second
    have context := Framed.assignment context second
    obtain ⟨lparen, c₃, third, run⟩ := bind_ok run
    obtain ⟨rfl, isOpen, rfl⟩ := require_ok third
    obtain ⟨params, c₄, list, run⟩ := bind_ok run
    obtain ⟨rparen, c₅, close, run⟩ := bind_ok run
    obtain ⟨opening, inside, closing, enclosed⟩ :=
      sound_enclosed lexed context (eq_of_beq isOpen) list close
    obtain ⟨returnsToken, c₆, last, run⟩ := bind_ok run
    have accepted := isOk_of_build run
    have returns : Sound false returnsToken := by
      simp only [Checked.functionSignature, Shaped.isOk_bind, Check.isOk_keyword, Shaped.isOk_pure,
        Bool.and_true, Bool.and_eq_true] at accepted
      exact Checked.sound_of_isKeyword accepted.2.2.2
    obtain ⟨rfl, _⟩ := build_ok run
    exact Checked.sound_functionSignature accepted enclosed

instance (signature : FunctionSignature) [Sound false signature] :
    Trusted false (inlineFunction expr signature) := by
  unfold inlineFunction; infer_instance

instance (signature : FunctionSignature) [Sound false signature] :
    Trusted false (tableFunction statement signature) := by
  unfold tableFunction; infer_instance

instance (signature : FunctionSignature) [Sound false signature] :
    Trusted false (scalarFunction expr statement signature) := by
  unfold scalarFunction; infer_instance

instance (create : List Token) [Sound false create] : Trusted false (function expr statement create) := by
  unfold function; infer_instance

omit faithful in
instance (first : Token) : Trusted false (orAlter first) := by unfold orAlter; infer_instance

omit faithful in
instance (before : List Token) [Sound false before] : Trusted false (unmodeledFrom before) := by
  unfold unmodeledFrom; infer_instance

instance : Trusted false (create expr statement) := by
  unfold create
  refine .bind inferInstance fun first => .bind inferInstance fun tokens => ?_
  refine .bind inferInstance fun token => ?_
  split <;> infer_instance

/-! ### All statements -/

instance : Trusted false (expressionStatement expr) := by unfold expressionStatement; infer_instance

section

omit faithful

instance : Trusted false unmodeled := by unfold unmodeled; infer_instance

instance : Trusted false beginTransaction := by unfold beginTransaction; infer_instance

instance (first second : Keyword) : Trusted false (keywordPair first second) := by
  unfold keywordPair; infer_instance

instance : Trusted false (tryCatch statement) := by unfold tryCatch; infer_instance

instance : Trusted false (beginStatement statement) := by
  unfold beginStatement
  refine .bind inferInstance fun next => ?_
  split <;> infer_instance

instance : Trusted false (elseBranch statement) := by
  unfold elseBranch
  exact .option inferInstance fun keyword => inferInstance

instance : Trusted false loopControl := by unfold loopControl; infer_instance

instance : Trusted false goto := by unfold goto; infer_instance

instance : Trusted false label := by unfold label; infer_instance

instance (setToken : Token) [Sound false setToken] : Trusted false (setOption setToken) := by
  unfold setOption
  refine .bind inferInstance fun read => ?_
  dsimp only
  infer_instance

end

instance : Trusted false (ifElse expr statement) := by unfold ifElse; infer_instance

instance : Trusted false (whileLoop expr statement) := by unfold whileLoop; infer_instance

instance : Trusted false (optionalValue expr) := by unfold optionalValue; infer_instance

instance : Trusted false (returnValue expr) := by unfold returnValue; infer_instance

/-- The value of a `SET` is read with the operator, but no `=` in it binds tightly enough. -/
instance (setToken : Token) [Sound false setToken] : Trusted false (setVariable expr setToken) := by
  unfold setVariable
  refine .bind inferInstance fun next => ?_
  have assigned : Trusted false (do
      let variableName ← take
      let (operator, value) ← withAssignment true do
        let operator ← take
        pure (operator, ← expr .assignment)
      build (Checked.setVariable setToken variableName operator value (← terminator))) := by
    refine .bind inferInstance fun variableName => ?_
    refine .bind_known (Q := fun read : Token × Expr => Sound true read.2) ?_
      fun ⟨operator, value⟩ sound => ?_
    · intro c d read lexed _ run
      obtain ⟨_, _, run⟩ := withAssignment_ok run
      rw [take_bind] at run
      obtain ⟨value, _, operand, run⟩ := bind_ok run
      obtain ⟨raw, moved⟩ := (c.setAssignment true).moved_advance
      cases run
      exact Trusted.sound ((lexed.setAssignment true).moved moved) moved.assignment operand
    · exact .bind inferInstance fun terminator => .build fun accepted =>
        Checked.sound_setVariable accepted
  infer_instance

instance : Trusted false (set expr) := by unfold set; infer_instance

instance (token : Token) : Trusted false (wordStatement expr statement token) := by
  unfold wordStatement
  refine .bind inferInstance fun next => ?_
  split <;> infer_instance

instance : Trusted false (anyStatement expr statement) := by
  unfold anyStatement
  refine .bind inferInstance fun token => ?_
  split <;> infer_instance

end Grammar

namespace Parser

/-- Statements of any depth are proper. -/
instance statement_trusted (depth : Nat) : Trusted false (statement depth) := by
  induction depth with
  | zero => unfold statement; infer_instance
  | succ depth ih => unfold statement; infer_instance

instance (depth : Nat) : Trusted false (statements depth) := by unfold statements; infer_instance

instance (depth : Nat) : Trusted false (topStatement depth) := by unfold topStatement; infer_instance

end Parser

end TransactSql
