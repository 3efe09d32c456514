import TransactSql.Edit.Edited
import TransactSql.Statement.Checked

/-!
# Editors

An editor is asked at every expression, data type and statement, and gives a new tree in its
place or keeps it. It is handed the default walk as an action, which edits the parts of the
node, and decides whether and when to run it. A node is rebuilt only if a part of it changed, and
a rebuilt node that its checked construction refuses is kept as it was.
-/

namespace TransactSql

/-- A hook is given a node and the default walk from it. -/
abbrev Hook (σ α : Type) := α → StateM σ (Option α) → StateM σ (Option α)

/-- Runs the default walk. -/
def Hook.descend : Hook σ α := fun _ walk => walk

structure Editor (σ : Type) where
  /-- Asked at every expression. -/
  expr : Hook σ Expr := Hook.descend
  /-- Asked at every expression, inside `expr`. -/
  exprNode : Hook σ Expr := Hook.descend
  dataType : Hook σ DataType := Hook.descend
  dataTypeNode : Hook σ DataType := Hook.descend
  /-- Asked at every statement. -/
  statement : Hook σ Statement := Hook.descend
  /-- Asked at every statement, inside `statement`, and at the block of a function body. -/
  statementNode : Hook σ Statement := Hook.descend
  /-- Asked at every sequence of statements. -/
  statements : Hook σ (List Statement) := Hook.descend

namespace Editor

variable (v : Editor σ)

/-! ### Hooks around the walk -/

def visitExpr (e : Expr) (walk : StateM σ (Option Expr)) : StateM σ (Edited Expr) :=
  return .ofEdit e (← v.expr e (v.exprNode e walk))

def visitDataType (t : DataType) (walk : StateM σ (Option DataType)) :
    StateM σ (Edited DataType) :=
  return .ofEdit t (← v.dataType t (v.dataTypeNode t walk))

def visitStatement (s : Statement) (walk : StateM σ (Option Statement)) :
    StateM σ (Edited Statement) :=
  return .ofEdit s (← v.statement s (v.statementNode s walk))

def visitStatements (ss : List Statement) (walk : StateM σ (Edited (List Statement))) :
    StateM σ (Edited (List Statement)) :=
  return .ofEdit ss (← v.statements ss (Edited.toEdit <$> walk))

/-- The body of a function stays a block: a statement of another kind is refused. -/
def visitBody (b : Block) (walk : StateM σ (Edited Block)) : StateM σ (Edited Block) := do
  match ← v.statementNode (.block b) (return (.block <$> (← walk)).toEdit) with
  | some (.block new) => return ⟨new, true⟩
  | _ => return ⟨b, false⟩

/-! ### Expressions -/

mutual

def walkExpr : Expr → StateM σ (Option Expr)
  | .literal _ | .name _ | .raw _ => return none
  | .unary op e => do
    let e ← v.visitExpr e (walkExpr e)
    return (Expr.unary op <$> e).toEdit
  | .binary l op r => do
    let l ← v.visitExpr l (walkExpr l)
    let r ← v.visitExpr r (walkExpr r)
    return ((Expr.binary · op ·) <$> l <*> r).toEdit
  | .assignment target op value => do
    let target ← v.visitExpr target (walkExpr target)
    let value ← v.visitExpr value (walkExpr value)
    return ((Checked.assignment · op ·) <$> target <*> value).toCheckedEdit
  | .isNull e isToken not null => do
    let e ← v.visitExpr e (walkExpr e)
    return ((Expr.isNull · isToken not null) <$> e).toEdit
  | .like e not keyword pattern escape => do
    let e ← v.visitExpr e (walkExpr e)
    let pattern ← v.visitExpr pattern (walkExpr pattern)
    let escape ← walkTail escape
    return ((Expr.like · not keyword · ·) <$> e <*> pattern <*> escape).toEdit
  | .between e not keyword low and high => do
    let e ← v.visitExpr e (walkExpr e)
    let low ← v.visitExpr low (walkExpr low)
    let high ← v.visitExpr high (walkExpr high)
    return ((Expr.between · not keyword · and ·) <$> e <*> low <*> high).toEdit
  | .isIn e not keyword lparen values rparen => do
    let e ← v.visitExpr e (walkExpr e)
    let values ← v.visitExpr values (walkExpr values)
    return ((Expr.isIn · not keyword lparen · rparen) <$> e <*> values).toEdit
  | .paren lparen inner rparen => do
    let inner ← v.visitExpr inner (walkExpr inner)
    return ((Expr.paren lparen · rparen) <$> inner).toEdit
  | .call callee lparen args rparen => do
    let callee ← v.visitExpr callee (walkExpr callee)
    let args ← walkOptionalExpr args
    return ((Expr.call · lparen · rparen) <$> callee <*> args).toEdit
  | .window function overClause => do
    let function ← v.visitExpr function (walkExpr function)
    let overClause ← walkOver overClause
    return (Checked.window <$> function <*> overClause).toCheckedEdit
  | .cast keyword lparen e asToken dataType rparen => do
    let e ← v.visitExpr e (walkExpr e)
    let dataType ← v.visitDataType dataType (walkDataType dataType)
    return ((Expr.cast keyword lparen · asToken · rparen) <$> e <*> dataType).toEdit
  | .case keyword operand whens otherwise endToken => do
    let operand ← walkOptionalExpr operand
    let whens ← walkWhens whens
    let otherwise ← walkTail otherwise
    return ((Expr.case keyword · · · endToken) <$> operand <*> whens <*> otherwise).toEdit
  | .collate e keyword collation => do
    let e ← v.visitExpr e (walkExpr e)
    return ((Expr.collate · keyword collation) <$> e).toEdit
  | .list items separators => do
    let items ← walkItems items
    return ((Expr.list · separators) <$> items).toEdit
  | .aliased e asToken name => do
    let e ← v.visitExpr e (walkExpr e)
    return ((Expr.aliased · asToken name) <$> e).toEdit
  | .sort e direction => do
    let e ← v.visitExpr e (walkExpr e)
    return ((Expr.sort · direction) <$> e).toEdit
  | .join l op r on => do
    let l ← v.visitExpr l (walkExpr l)
    let r ← v.visitExpr r (walkExpr r)
    let on ← walkTail on
    return ((Expr.join · op · ·) <$> l <*> r <*> on).toEdit
  | .tableHint table keyword lparen hints rparen => do
    let table ← v.visitExpr table (walkExpr table)
    let hints ← v.visitExpr hints (walkExpr hints)
    return ((Expr.tableHint · keyword lparen · rparen) <$> table <*> hints).toEdit
  | .select keyword quantifier top columns clauses => do
    let top ← walkOptionalTop top
    let columns ← v.visitExpr columns (walkExpr columns)
    let clauses ← walkSelectClauses clauses
    return ((Expr.select keyword quantifier · · ·) <$> top <*> columns <*> clauses).toEdit
  | .setOperation l op all r => do
    let l ← v.visitExpr l (walkExpr l)
    let r ← v.visitExpr r (walkExpr r)
    return ((Expr.setOperation · op all ·) <$> l <*> r).toEdit
  | .orderBy query order offset => do
    let query ← v.visitExpr query (walkExpr query)
    let order ← walkClause order
    let offset ← walkOptionalOffset offset
    return (Expr.orderBy <$> query <*> order <*> offset).toEdit
  | .queryOption query keyword options => do
    let query ← v.visitExpr query (walkExpr query)
    return ((Expr.queryOption · keyword options) <$> query).toEdit

def walkOptionalExpr : Option Expr → StateM σ (Edited (Option Expr))
  | none => return ⟨none, false⟩
  | some e => return some <$> (← v.visitExpr e (walkExpr e))

def walkItems : List Expr → StateM σ (Edited (List Expr))
  | [] => return ⟨[], false⟩
  | e :: es => do
    let e ← v.visitExpr e (walkExpr e)
    let es ← walkItems es
    return (· :: ·) <$> e <*> es

def walkTail : Tail → StateM σ (Edited Tail)
  | .absent => return ⟨.absent, false⟩
  | .present keyword value => return .present keyword <$> (← v.visitExpr value (walkExpr value))

def walkDataType : DataType → StateM σ (Option DataType)
  | .table _ => return none
  | .named name lparen args rparen => do
    let args ← walkOptionalExpr args
    return ((DataType.named name lparen · rparen) <$> args).toEdit

def walkWhens : List WhenClause → StateM σ (Edited (List WhenClause))
  | [] => return ⟨[], false⟩
  | ⟨whenToken, condition, thenToken, result⟩ :: ws => do
    let condition ← v.visitExpr condition (walkExpr condition)
    let result ← v.visitExpr result (walkExpr result)
    let ws ← walkWhens ws
    return (fun c r ws => ⟨whenToken, c, thenToken, r⟩ :: ws) <$> condition <*> result <*> ws

def walkClause : Clause → StateM σ (Edited Clause)
  | ⟨keywords, body⟩ => return Clause.mk keywords <$> (← v.visitExpr body (walkExpr body))

def walkOptionalClause : Option Clause → StateM σ (Edited (Option Clause))
  | none => return ⟨none, false⟩
  | some c => return some <$> (← walkClause c)

def walkOptionalTop : Option TopClause → StateM σ (Edited (Option TopClause))
  | none => return ⟨none, false⟩
  | some ⟨topToken, lparen, count, rparen, percent, withTies⟩ => do
    let count ← v.visitExpr count (walkExpr count)
    return (fun n => some ⟨topToken, lparen, n, rparen, percent, withTies⟩) <$> count

def walkSelectClauses : SelectClauses → StateM σ (Edited SelectClauses)
  | ⟨into, source, condition, grouping, having⟩ => do
    let into ← walkOptionalClause into
    let source ← walkOptionalClause source
    let condition ← walkOptionalClause condition
    let grouping ← walkOptionalClause grouping
    let having ← walkOptionalClause having
    return SelectClauses.mk <$> into <*> source <*> condition <*> grouping <*> having

def walkOver : OverClause → StateM σ (Edited OverClause)
  | ⟨overToken, lparen, partition, order, frame, rparen⟩ => do
    let partition ← walkOptionalClause partition
    let order ← walkOptionalClause order
    return (OverClause.mk overToken lparen · · frame rparen) <$> partition <*> order

def walkOptionalFetch : Option FetchClause → StateM σ (Edited (Option FetchClause))
  | none => return ⟨none, false⟩
  | some ⟨fetchToken, direction, count, rows, only⟩ => do
    let count ← v.visitExpr count (walkExpr count)
    return (fun n => some ⟨fetchToken, direction, n, rows, only⟩) <$> count

def walkOptionalOffset : Option OffsetFetch → StateM σ (Edited (Option OffsetFetch))
  | none => return ⟨none, false⟩
  | some ⟨offsetToken, count, rows, fetch⟩ => do
    let count ← v.visitExpr count (walkExpr count)
    let fetch ← walkOptionalFetch fetch
    return (fun n f => some ⟨offsetToken, n, rows, f⟩) <$> count <*> fetch

end

/-! ### Declarations -/

def walkVarDecl (d : VarDecl) : StateM σ (Edited VarDecl) := do
  let dataType ← v.visitDataType d.dataType (v.walkDataType d.dataType)
  let value ← v.walkTail d.value
  return .ofEdit d (Checked.varDecl d.name d.asToken <$> dataType <*> value).toCheckedEdit

def walkParamDecl (p : ParamDecl) : StateM σ (Edited ParamDecl) := do
  let dataType ← v.visitDataType p.dataType (v.walkDataType p.dataType)
  let initial ← v.walkTail p.initial
  return (fun dataType initial => { p with dataType, initial }) <$> dataType <*> initial

/-- Edits the items of a list; the separators stay. -/
def walkSeparated (edit : α → StateM σ (Edited α)) (list : SeparatedList α) :
    StateM σ (Edited (SeparatedList α)) :=
  return (SeparatedList.mk · list.separators) <$> (← Edited.list edit list.items)

def walkParams (params : Option (SeparatedList ParamDecl)) :
    StateM σ (Edited (Option (SeparatedList ParamDecl))) :=
  Edited.optional (walkSeparated v.walkParamDecl) params

def walkSignature (f : FunctionSignature) : StateM σ (Edited FunctionSignature) := do
  let params ← v.walkParams f.params
  return (fun params => { f with params }) <$> params

/-! ### Statements -/

mutual

def walkStatement : Statement → StateM σ (Option Statement)
  | .empty _ | .beginTransaction .. | .loopControl .. | .goto .. | .label .. | .setOption ..
  | .unmodeled .. => return none
  | .expression e terminator => do
    let e ← v.visitExpr e (v.walkExpr e)
    return ((Statement.expression · terminator) <$> e).toEdit
  | .block b => do
    let b ← walkBlock b
    return (Statement.block <$> b).toEdit
  | .tryCatch beginTry tryBody endTry beginCatch catchBody endCatch terminator => do
    let tryBody ← v.visitStatements tryBody (walkStatements tryBody)
    let catchBody ← v.visitStatements catchBody (walkStatements catchBody)
    return ((Statement.tryCatch beginTry · endTry beginCatch · endCatch terminator)
      <$> tryBody <*> catchBody).toEdit
  | .ifElse ifToken condition thenBranch otherwise => do
    let condition ← v.visitExpr condition (v.walkExpr condition)
    let thenBranch ← v.visitStatement thenBranch (walkStatement thenBranch)
    let otherwise ← walkElse otherwise
    return (Statement.ifElse ifToken <$> condition <*> thenBranch <*> otherwise).toEdit
  | .whileLoop whileToken condition body => do
    let condition ← v.visitExpr condition (v.walkExpr condition)
    let body ← v.visitStatement body (walkStatement body)
    return (Statement.whileLoop whileToken <$> condition <*> body).toEdit
  | .returnValue returnToken value terminator => do
    let value ← v.walkOptionalExpr value
    return ((Statement.returnValue returnToken · terminator) <$> value).toEdit
  | .setVariable setToken variableName operator value terminator => do
    let value ← v.visitExpr value (v.walkExpr value)
    return ((Statement.setVariable setToken variableName operator · terminator) <$> value).toEdit
  | .declare declareToken declarations terminator => do
    let declarations ← walkSeparated v.walkVarDecl declarations
    return ((Statement.declare declareToken · terminator) <$> declarations).toEdit
  | .declareCursor cursor => do
    let query ← v.visitExpr cursor.query (v.walkExpr cursor.query)
    return ((fun query => .declareCursor { cursor with query }) <$> query).toEdit
  | .createProcedure header body => do
    let params ← v.walkParams header.params
    let body ← v.visitStatements body (walkStatements body)
    return ((fun params => .createProcedure { header with params }) <$> params <*> body).toEdit
  | .createView view => do
    let query ← v.visitExpr view.query (v.walkExpr view.query)
    return ((fun query => Checked.createView { view with query }) <$> query).toCheckedEdit
  | .createScalarFunction signature returnType options asToken body => do
    let signature ← v.walkSignature signature
    let returnType ← v.visitDataType returnType (v.walkDataType returnType)
    let body ← v.visitBody body (walkBlock body)
    return ((Checked.createScalarFunction · · options asToken ·)
      <$> signature <*> returnType <*> body).toCheckedEdit
  | .createInlineFunction f => do
    let signature ← v.walkSignature f.signature
    let query ← v.visitExpr f.query (v.walkExpr f.query)
    return ((fun signature query => Checked.createInlineFunction { f with signature, query })
      <$> signature <*> query).toCheckedEdit
  | .createTableFunction signature variableName tableType options asToken body => do
    let signature ← v.walkSignature signature
    let body ← v.visitBody body (walkBlock body)
    return ((Statement.createTableFunction · variableName tableType options asToken ·)
      <$> signature <*> body).toEdit

def walkStatements : List Statement → StateM σ (Edited (List Statement))
  | [] => return ⟨[], false⟩
  | s :: ss => do
    let s ← v.visitStatement s (walkStatement s)
    let ss ← walkStatements ss
    return (· :: ·) <$> s <*> ss

def walkBlock : Block → StateM σ (Edited Block)
  | ⟨beginToken, body, endToken, terminator⟩ => do
    let body ← v.visitStatements body (walkStatements body)
    return (Block.mk beginToken · endToken terminator) <$> body

def walkElse : ElseBranch → StateM σ (Edited ElseBranch)
  | .absent => return ⟨.absent, false⟩
  | .present keyword s => return .present keyword <$> (← v.visitStatement s (walkStatement s))

end

end Editor

end TransactSql
