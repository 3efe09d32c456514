import TransactSql.Document
import TransactSql.Proofs.Edit.ExpressionWalks
import TransactSql.Proofs.Statement.Checked

/-!
# The walk through documents

Declarations and statements are walked as expressions are. The checked ones among them are the
declaration of a variable, a view, and the functions that return a scalar or a query.
-/

namespace TransactSql

/-! ### What checks ask of the parts -/

/-- The keyword of an optional branch. -/
@[simp]
def ElseBranch.keyword? : ElseBranch → Option Token
  | .absent => none
  | .present keyword _ => some keyword

namespace Checked

theorem isOk_initializer_eq (node : NodeKind) (slot : String) (t : Tail) :
    (initializer node slot t).isOk =
      t.keyword?.all fun eq => eq.kind == .comparison .eq || eq.kind == .assignment none := by
  cases t <;> simp [initializer]

theorem isOk_varDecl (name asToken : Token) (type : DataType) (value : Tail) :
    (varDecl name asToken type value).isOk = (name.isVariable &&
      (asToken.isPlaceholder || asToken.isKeyword .AS) &&
      (initializer .varDecl "initializer" value).isOk &&
      !(value.keyword?.isSome && type.isTable)) := by
  cases value <;> cases table : type.isTable <;> simp [varDecl, Tail.value?, table, Bool.and_assoc]

theorem isOk_ifElse (ifToken : Token) (condition : Expr) (thenBranch : Statement)
    (otherwise : ElseBranch) :
    (ifElse ifToken condition thenBranch otherwise).isOk =
      (ifToken.isKeyword .IF && otherwise.keyword?.all (·.isKeyword .ELSE)) := by
  cases otherwise <;> simp [ifElse]

end Checked

/-! ### Parts of statements -/

namespace Aspect

abbrev elseBranch : Aspect ElseBranch :=
  telling ElseBranch.wellShaped ElseBranch.slots ElseBranch.keyword?

abbrev varDecl : Aspect VarDecl := plain VarDecl.wellShaped fun d => [d.tree]

abbrev paramDecl : Aspect ParamDecl := plain ParamDecl.wellShaped fun p => [p.tree]

/-- A list of declarations. -/
abbrev separated (p : α → Bool) (slot : α → Tree) : Aspect (SeparatedList α) :=
  plain (SeparatedList.wellShaped p) fun list => [list.tree .separatedList slot]

abbrev params : Aspect (Option (SeparatedList ParamDecl)) :=
  plain (Option.all (SeparatedList.wellShaped ParamDecl.wellShaped)) ParamDecl.listSlot

abbrev signature : Aspect FunctionSignature := plain FunctionSignature.wellShaped fun f => [f.tree]

abbrev document : Aspect Document := plain Document.wellShaped fun d => [d.tree]

end Aspect

attribute [local simp] VarDecl.wellShaped ParamDecl.wellShaped SeparatedList.wellShaped
  CursorDecl.wellShaped ProcedureHeader.wellShaped ViewDef.wellShaped FunctionSignature.wellShaped
  InlineFunction.wellShaped Statement.wellShaped Statement.allWellShaped Block.wellShaped
  ElseBranch.wellShaped Document.wellShaped VarDecl.tree CursorDecl.tree ParamDecl.tree
  ProcedureHeader.slots ViewDef.tree InlineFunction.tree Statement.tree Statement.slotsOf
  Statement.listTree Block.tree ElseBranch.slots Document.tree Tree.outline Tree.outlineOf
  Tree.outlineOf_append Edited.list_nil Edited.list_cons Edited.list_append Tree.ask Tree.entries
  Aspect.Lacks Tree.tokenSlots Tree.tokenPair Tree.optionalToken RawTokens.tree Name.tree
  TableType.tree RoutineOptions.optionalSlot SeparatedList.nameTree Mark.list_edit_optional
  Mark.list_edit_optionalSlots Mark.list_edit_names

/-! ### What nodes enclose

Lists of declarations and signatures are looked at as a whole where they are parts of a node.
-/

section

variable {keeps : Prop}

-- The new type may be a table, which takes no initial value.
theorem VarDecl.mk_encloses (name asToken : Token) (type : DataType) (value : Tail) :
    Encloses
      (.checked (.both (.dataType keeps) .tail) fun p => Checked.varDecl name asToken p.1 p.2)
      .varDecl (fun p => ⟨name, asToken, p.1, p.2⟩) (type, value) where
  shaped := by simp +contextual
  like := fun _ _ => trivial
  slots := by simp +contextual

theorem VarDecl.mk_accepts (name asToken : Token) (type : DataType) (value : Tail) (keep : keeps)
    (accepted : (Checked.varDecl name asToken type value).isOk = true) (x : DataType × Tail)
    (like : (Aspect.both (.dataType keeps) .tail).Like x (type, value)) :
    (Checked.varDecl name asToken x.1 x.2).isOk = true := by
  have sameType : x.1.isTable = type.isTable := like.1 keep
  have sameValue : x.2.keyword? = value.keyword? := like.2
  simpa [-Tail.keyword?, Checked.isOk_varDecl, Checked.isOk_initializer_eq, sameType, sameValue]
    using accepted

theorem ParamDecl.mk_encloses (p : ParamDecl) :
    Encloses (.both (.dataType keeps) .tail) .paramDecl
      (fun q => { p with dataType := q.1, initial := q.2 }) (p.dataType, p.initial) where
  shaped := by simp +contextual [Checked.paramDecl, Checked.isOk_initializer_eq]
  like := fun _ _ => trivial
  slots := by simp +contextual

theorem SeparatedList.mk_encloses (A : Aspect α) {slot : α → Tree}
    (single : ∀ a, A.slots a = [[slot a]]) (list : SeparatedList α) :
    Encloses A.list (.separated A.shaped slot) (SeparatedList.mk · list.separators) list.items where
  shaped := by simp +contextual [Checked.declarations, Checked.isOk_separated]
  like := fun _ _ => trivial
  slots := by
    refine ⟨by simp +contextual [single], fun f as s same asked => ?_⟩
    have asked := Tree.ask_interleave list.separators same asked single
    simp [asked]

theorem ParamDecl.some_encloses (params : SeparatedList ParamDecl) :
    Encloses (.separated ParamDecl.wellShaped ParamDecl.tree) .params some params where
  shaped := by simp +contextual
  like := fun _ _ => trivial
  slots := by simp +contextual [-SeparatedList.tree]

theorem FunctionSignature.mk_encloses (f : FunctionSignature) :
    Encloses .params .signature (fun params => { f with params }) f.params where
  shaped := by simp +contextual [Checked.functionSignature]
  like := fun _ _ => trivial
  slots := by simp +contextual [-SeparatedList.tree]

namespace Statement

theorem expression_encloses (e : Expr) (terminator : Token) :
    Encloses (.expr keeps) .statement (expression · terminator) e where
  shaped := by simp +contextual [Checked.expression]
  like := fun _ _ => trivial
  slots := by simp +contextual

theorem block_encloses (b : Block) : Encloses .block .statement block b where
  shaped := by simp +contextual
  like := fun _ _ => trivial
  slots := by simp +contextual

theorem tryCatch_encloses (beginTry : Token × Token) (tryBody : List Statement)
    (endTry beginCatch : Token × Token) (catchBody : List Statement) (endCatch : Token × Token)
    (terminator : Token) :
    Encloses (.both .statements .statements) .statement
      (fun p => tryCatch beginTry p.1 endTry beginCatch p.2 endCatch terminator)
      (tryBody, catchBody) where
  shaped := by simp +contextual [Checked.tryCatch]
  like := fun _ _ => trivial
  slots := by simp +contextual

theorem ifElse_encloses (ifToken : Token) (condition : Expr) (thenBranch : Statement)
    (otherwise : ElseBranch) :
    Encloses (.both (.both (.expr keeps) .statement) .elseBranch) .statement
      (fun p => ifElse ifToken p.1.1 p.1.2 p.2) ((condition, thenBranch), otherwise) where
  shaped := by simp +contextual [Checked.isOk_ifElse]
  like := fun _ _ => trivial
  slots := by simp +contextual

theorem whileLoop_encloses (whileToken : Token) (condition : Expr) (body : Statement) :
    Encloses (.both (.expr keeps) .statement) .statement (fun p => whileLoop whileToken p.1 p.2)
      (condition, body) where
  shaped := by simp +contextual [Checked.whileLoop]
  like := fun _ _ => trivial
  slots := by simp +contextual

theorem returnValue_encloses (returnToken : Token) (value : Option Expr) (terminator : Token) :
    Encloses .optionalExpr .statement (returnValue returnToken · terminator) value where
  shaped := by simp +contextual [Checked.returnValue]
  like := fun _ _ => trivial
  slots := by simp +contextual

theorem setVariable_encloses (setToken variableName operator : Token) (value : Expr)
    (terminator : Token) :
    Encloses (.expr keeps) .statement (setVariable setToken variableName operator · terminator)
      value where
  shaped := by simp +contextual [Checked.setVariable]
  like := fun _ _ => trivial
  slots := by simp +contextual

theorem declare_encloses (declareToken : Token) (declarations : SeparatedList VarDecl)
    (terminator : Token) :
    Encloses (.separated VarDecl.wellShaped VarDecl.tree) .statement
      (declare declareToken · terminator) declarations where
  shaped := by simp +contextual [Checked.declare]
  like := fun _ _ => trivial
  slots := by simp +contextual [-SeparatedList.tree]

theorem declareCursor_encloses (cursor : CursorDecl) :
    Encloses (.expr keeps) .statement (fun query => declareCursor { cursor with query })
      cursor.query where
  shaped := by simp +contextual [Checked.declareCursor]
  like := fun _ _ => trivial
  slots := by simp +contextual

theorem createProcedure_encloses (header : ProcedureHeader) (body : List Statement) :
    Encloses (.both .params .statements) .statement
      (fun p => createProcedure { header with params := p.1 } p.2) (header.params, body) where
  shaped := by simp +contextual [Checked.createProcedure]
  like := fun _ _ => trivial
  slots := by simp +contextual [-SeparatedList.tree]

theorem createView_encloses (view : ViewDef) :
    Encloses (.checked (.expr keeps) fun query => Checked.createView { view with query }) .statement
      (fun query => createView { view with query }) view.query where
  shaped := by simp +contextual
  like := fun _ _ => trivial
  slots := by simp +contextual

theorem createView_accepts (view : ViewDef) (keep : keeps)
    (accepted : (Checked.createView view).isOk = true) (query : Expr)
    (like : (Aspect.expr keeps).Like query view.query) :
    (Checked.createView { view with query }).isOk = true := by
  have same : query.isQuery = view.query.isQuery := (like keep).2
  simpa [Checked.createView, same] using accepted

theorem createScalarFunction_encloses (signature : FunctionSignature) (returnType : DataType)
    (options : Option RoutineOptions) (asToken : Token) (body : Block) :
    Encloses
      (.checked (.both (.both .signature (.dataType keeps)) .block) fun p =>
        Checked.createScalarFunction p.1.1 p.1.2 options asToken p.2)
      .statement (fun p => createScalarFunction p.1.1 p.1.2 options asToken p.2)
      ((signature, returnType), body) where
  shaped := by simp +contextual
  like := fun _ _ => trivial
  slots := by simp +contextual [-FunctionSignature.tree]

theorem createScalarFunction_accepts (signature : FunctionSignature) (returnType : DataType)
    (options : Option RoutineOptions) (asToken : Token) (body : Block) (keep : keeps)
    (accepted :
      (Checked.createScalarFunction signature returnType options asToken body).isOk = true)
    (x : (FunctionSignature × DataType) × Block)
    (like : (Aspect.both (.both .signature (.dataType keeps)) .block).Like x
      ((signature, returnType), body)) :
    (Checked.createScalarFunction x.1.1 x.1.2 options asToken x.2).isOk = true := by
  have same : x.1.2.isTable = returnType.isTable := like.1.2 keep
  simpa [Checked.createScalarFunction, same] using accepted

theorem createInlineFunction_encloses (f : InlineFunction) :
    Encloses
      (.checked (.both .signature (.expr keeps)) fun p =>
        Checked.createInlineFunction { f with signature := p.1, query := p.2 })
      .statement (fun p => createInlineFunction { f with signature := p.1, query := p.2 })
      (f.signature, f.query) where
  shaped := by simp +contextual
  like := fun _ _ => trivial
  slots := by simp +contextual [-FunctionSignature.tree]

theorem createInlineFunction_accepts (f : InlineFunction) (keep : keeps)
    (accepted : (Checked.createInlineFunction f).isOk = true) (x : FunctionSignature × Expr)
    (like : (Aspect.both .signature (.expr keeps)).Like x (f.signature, f.query)) :
    (Checked.createInlineFunction { f with signature := x.1, query := x.2 }).isOk = true := by
  have same : x.2.isQuery = f.query.isQuery := (like.2 keep).2
  simpa [Checked.createInlineFunction, same] using accepted

theorem createTableFunction_encloses (signature : FunctionSignature) (variableName : Token)
    (tableType : TableType) (options : Option RoutineOptions) (asToken : Token) (body : Block) :
    Encloses (.both .signature .block) .statement
      (fun p => createTableFunction p.1 variableName tableType options asToken p.2)
      (signature, body) where
  shaped := by simp +contextual [Checked.createTableFunction]
  like := fun _ _ => trivial
  slots := by simp +contextual [-FunctionSignature.tree]

theorem cons_encloses (s : Statement) (ss : List Statement) :
    Encloses (.both .statement .statements) .statements (fun p => p.1 :: p.2) (s, ss) where
  shaped := by simp +contextual
  like := fun _ _ => trivial
  slots := by simp +contextual

end Statement

theorem Block.mk_encloses (beginToken : Token) (body : List Statement)
    (endToken terminator : Token) :
    Encloses .statements .block (Block.mk beginToken · endToken terminator) body where
  shaped := by simp +contextual [Checked.block]
  like := fun _ _ => trivial
  slots := by simp +contextual

theorem ElseBranch.present_encloses (keyword : Token) (s : Statement) :
    Encloses .statement .elseBranch (ElseBranch.present keyword) s where
  shaped := by simp +contextual
  like := fun _ _ => rfl
  slots := by simp +contextual

namespace Document

theorem expression_encloses (e : Expr) : Encloses (.expr keeps) .document expression e where
  shaped := by simp +contextual
  like := fun _ _ => trivial
  slots := by simp +contextual

theorem statement_encloses (s : Statement) : Encloses .statement .document statement s where
  shaped := by simp +contextual
  like := fun _ _ => trivial
  slots := by simp +contextual

theorem script_encloses (ss : List Statement) : Encloses .statements .document script ss where
  shaped := by simp +contextual
  like := fun _ _ => trivial
  slots := by simp +contextual

end Document

/-! ### The walk -/

namespace Editor

variable {v : Editor σ}

theorem walkVarDecl_walks (d : VarDecl) : Walks v keeps .varDecl v.walkVarDecl d :=
  .checked (VarDecl.mk_encloses d.name d.asToken d.dataType d.value)
    (VarDecl.mk_accepts d.name d.asToken d.dataType d.value)
    (.both (editDataType_walks d.dataType) (walkTail_walks d.value)) (fun _ => inferInstance)
    (fun _ => rfl) rfl

theorem walkParamDecl_walks (p : ParamDecl) : Walks v keeps .paramDecl v.walkParamDecl p :=
  .map (ParamDecl.mk_encloses p) (.both (editDataType_walks p.dataType) (walkTail_walks p.initial))
    (fun _ => rfl) rfl

theorem walkSeparated_walks {A : Aspect α} {edit : α → StateM σ (Edited α)} {slot : α → Tree}
    (each : ∀ a, Walks v keeps A edit a) (single : ∀ a, A.slots a = [[slot a]])
    (list : SeparatedList α) :
    Walks v keeps (.separated A.shaped slot) (walkSeparated edit) list :=
  .map (SeparatedList.mk_encloses A single list) (.list each list.items) (fun _ => rfl) rfl

theorem walkParams_walks : ∀ params : Option (SeparatedList ParamDecl),
    Walks v keeps .params v.walkParams params
  | none => .unchanged rfl fun _ _ => rfl
  | some params =>
    .map (ParamDecl.some_encloses params)
      (walkSeparated_walks walkParamDecl_walks (fun _ => rfl) params) (fun _ => rfl) rfl

theorem walkSignature_walks (f : FunctionSignature) : Walks v keeps .signature v.walkSignature f :=
  .map (FunctionSignature.mk_encloses f) (walkParams_walks f.params) (fun _ => rfl) rfl

mutual

theorem walkStatement_walks : ∀ s : Statement,
    Walks v keeps .statement (Edited.orOld v.walkStatement) s
  | .empty _ | .beginTransaction .. | .loopControl .. | .goto .. | .label .. | .setOption ..
  | .unmodeled .. => .unchanged (by rw [Edited.orOld, walkStatement]; rfl) (by simp)
  | .expression e terminator =>
    .node (Statement.expression_encloses e terminator) (.expr (walkExpr_walks e))
      (fun _ => by rw [Edited.orOld, walkStatement]; rfl) rfl
  | .block b =>
    .node (Statement.block_encloses b) (walkBlock_walks b)
      (fun _ => by rw [Edited.orOld, walkStatement]; rfl) rfl
  | .tryCatch beginTry tryBody endTry beginCatch catchBody endCatch terminator =>
    .node (Statement.tryCatch_encloses beginTry tryBody endTry beginCatch catchBody
        endCatch terminator)
      (.both (.statements (walkStatements_walks tryBody))
        (.statements (walkStatements_walks catchBody)))
      (fun _ => by rw [Edited.orOld, walkStatement]; rfl) rfl
  | .ifElse ifToken condition thenBranch otherwise =>
    .node (Statement.ifElse_encloses ifToken condition thenBranch otherwise)
      (.both
        (.both (.expr (walkExpr_walks condition)) (.statement (walkStatement_walks thenBranch)))
        (walkElse_walks otherwise))
      (fun _ => by rw [Edited.orOld, walkStatement]; rfl) rfl
  | .whileLoop whileToken condition body =>
    .node (Statement.whileLoop_encloses whileToken condition body)
      (.both (.expr (walkExpr_walks condition)) (.statement (walkStatement_walks body)))
      (fun _ => by rw [Edited.orOld, walkStatement]; rfl) rfl
  | .returnValue returnToken value terminator =>
    .node (Statement.returnValue_encloses returnToken value terminator)
      (walkOptionalExpr_walks value) (fun _ => by rw [Edited.orOld, walkStatement]; rfl) rfl
  | .setVariable setToken variableName operator value terminator =>
    .node
      (Statement.setVariable_encloses setToken variableName operator value terminator)
      (.expr (walkExpr_walks value)) (fun _ => by rw [Edited.orOld, walkStatement]; rfl) rfl
  | .declare declareToken declarations terminator =>
    .node (Statement.declare_encloses declareToken declarations terminator)
      (walkSeparated_walks walkVarDecl_walks (fun _ => rfl) declarations)
      (fun _ => by rw [Edited.orOld, walkStatement]; rfl) rfl
  | .declareCursor cursor =>
    .node (Statement.declareCursor_encloses cursor) (.expr (walkExpr_walks cursor.query))
      (fun _ => by rw [Edited.orOld, walkStatement]; rfl) rfl
  | .createProcedure header body =>
    .node (Statement.createProcedure_encloses header body)
      (.both (walkParams_walks header.params) (.statements (walkStatements_walks body)))
      (fun _ => by rw [Edited.orOld, walkStatement]; rfl) rfl
  | .createView view =>
    .checked (Statement.createView_encloses view) (Statement.createView_accepts view)
      (.expr (walkExpr_walks view.query)) (fun _ => inferInstance)
      (fun _ => by rw [Edited.orOld, walkStatement]; rfl) rfl
  | .createScalarFunction signature returnType options asToken body =>
    .checked
      (Statement.createScalarFunction_encloses signature returnType options asToken body)
      (Statement.createScalarFunction_accepts signature returnType options asToken body)
      (.both (.both (walkSignature_walks signature) (editDataType_walks returnType))
        (.body (walkBlock_walks body)))
      (fun _ => inferInstance) (fun _ => by rw [Edited.orOld, walkStatement]; rfl) rfl
  | .createInlineFunction f =>
    .checked (Statement.createInlineFunction_encloses f)
      (Statement.createInlineFunction_accepts f)
      (.both (walkSignature_walks f.signature) (.expr (walkExpr_walks f.query)))
      (fun _ => inferInstance) (fun _ => by rw [Edited.orOld, walkStatement]; rfl) rfl
  | .createTableFunction signature variableName tableType options asToken body =>
    .node (Statement.createTableFunction_encloses signature variableName tableType
        options asToken body)
      (.both (walkSignature_walks signature) (.body (walkBlock_walks body)))
      (fun _ => by rw [Edited.orOld, walkStatement]; rfl) rfl

theorem walkStatements_walks : ∀ ss : List Statement, Walks v keeps .statements v.walkStatements ss
  | [] => .unchanged (by rw [walkStatements]) (by simp)
  | s :: ss =>
    .map (Statement.cons_encloses s ss)
      (.both (.statement (walkStatement_walks s)) (walkStatements_walks ss))
      (fun _ => by rw [walkStatements]; rfl) rfl

theorem walkBlock_walks : ∀ b : Block, Walks v keeps .block v.walkBlock b
  | ⟨beginToken, body, endToken, terminator⟩ =>
    .map (Block.mk_encloses beginToken body endToken terminator)
      (.statements (walkStatements_walks body)) (fun _ => by rw [walkBlock]; rfl) rfl

theorem walkElse_walks : ∀ b : ElseBranch, Walks v keeps .elseBranch v.walkElse b
  | .absent => .unchanged (by rw [walkElse]) (by simp)
  | .present keyword s =>
    .map (ElseBranch.present_encloses keyword s) (.statement (walkStatement_walks s))
      (fun _ => by rw [walkElse]; rfl) rfl

end

end Editor

theorem Document.edit_walks {v : Editor σ} : ∀ d : Document, Walks v keeps .document (edit v) d
  | .expression e =>
    .map (Document.expression_encloses e) (.expr (Editor.walkExpr_walks e)) (fun _ => rfl) rfl
  | .statement s =>
    .map (Document.statement_encloses s) (.statement (Editor.walkStatement_walks s))
      (fun _ => rfl) rfl
  | .script ss =>
    .map (Document.script_encloses ss) (.statements (Editor.walkStatements_walks ss))
      (fun _ => rfl) rfl

end

end TransactSql
