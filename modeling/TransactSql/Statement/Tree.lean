import TransactSql.Expr.Tree
import TransactSql.Statement.Basic

/-!
# Statements as trees

The slots of every statement, in source order.
-/

namespace TransactSql

def Tree.tokenPair (pair : Token × Token) : List Tree := [.token pair.1, .token pair.2]

namespace SeparatedList

/-- The node of a list, given the slots of its items. -/
def tree (kind : NodeKind) (slot : α → Tree) (list : SeparatedList α) : Tree :=
  .node kind (Tree.interleave (list.items.map slot) list.separators)

def nameTree (list : SeparatedList Token) : Tree := list.tree .nameList .token

end SeparatedList

def VarDecl.tree (v : VarDecl) : Tree :=
  .node .varDecl (.token v.name :: .token v.asToken :: v.dataType.tree :: v.value.slots)

def CursorDecl.tree (c : CursorDecl) : Tree :=
  .node .declareCursor
    ([.token c.declareToken, .token c.name, c.isoOptions.tree, .token c.cursorToken,
      c.options.tree, .token c.forToken, c.query.tree]
      ++ (c.update.map RawTokens.tree).toList ++ [.token c.terminator])

def ParamDecl.tree (p : ParamDecl) : Tree :=
  .node .paramDecl
    (.token p.name :: .token p.asToken :: p.dataType.tree :: Tree.optionalToken p.varying
      ++ p.initial.slots ++ Tree.tokenSlots p.modifiers)

/-- The slot of an optional parameter list. -/
def ParamDecl.listSlot (params : Option (SeparatedList ParamDecl)) : List Tree :=
  (params.map (SeparatedList.tree .separatedList ParamDecl.tree)).toList

def RoutineOptions.tree (o : RoutineOptions) : Tree :=
  .node .routineOptions [.token o.withToken, o.options.tree]

def RoutineOptions.optionalSlot (o : Option RoutineOptions) : List Tree :=
  (o.map RoutineOptions.tree).toList

def ProcedureHeader.slots (h : ProcedureHeader) : List Tree :=
  Tree.tokenSlots h.create ++ [.token h.procedureToken, h.name.tree, .token h.lparen]
    ++ ParamDecl.listSlot h.params ++ [.token h.rparen] ++ RoutineOptions.optionalSlot h.options
    ++ (h.replication.map Tree.tokenPair).getD [] ++ [.token h.asToken]

def ViewDef.tree (v : ViewDef) : Tree :=
  .node .createView
    (Tree.tokenSlots v.create ++ [.token v.viewToken, v.name.tree, .token v.lparen]
      ++ (v.columns.map SeparatedList.nameTree).toList ++ [.token v.rparen]
      ++ RoutineOptions.optionalSlot v.options ++ [.token v.asToken, v.query.tree]
      ++ (v.checkOption.map fun (a, b, c) => Tree.tokenSlots [a, b, c]).getD []
      ++ [.token v.terminator])

def FunctionSignature.tree (f : FunctionSignature) : Tree :=
  .node .functionSignature
    (Tree.tokenSlots f.create ++ [.token f.functionToken, f.name.tree, .token f.lparen]
      ++ ParamDecl.listSlot f.params ++ [.token f.rparen, .token f.returnsToken])

def InlineFunction.tree (f : InlineFunction) : Tree :=
  .node .createInlineFunction
    ([f.signature.tree, .token f.tableToken] ++ RoutineOptions.optionalSlot f.options
      ++ [.token f.asToken, .token f.returnToken, f.query.tree, .token f.terminator])

mutual

def Statement.tree : Statement → Tree
  | .empty terminator => .node .emptyStmt [.token terminator]
  | .expression e terminator => .node .expressionStmt [e.tree, .token terminator]
  | .block b => b.tree
  | .beginTransaction beginToken transaction name terminator =>
    .node .beginTransaction
      (.token beginToken :: .token transaction :: Tree.optionalToken name ++ [.token terminator])
  | .tryCatch beginTry tryBody endTry beginCatch catchBody endCatch terminator =>
    .node .tryCatch
      (Tree.tokenPair beginTry ++ .node .statementList (Statement.slotsOf tryBody)
        :: Tree.tokenPair endTry ++ Tree.tokenPair beginCatch
        ++ .node .statementList (Statement.slotsOf catchBody)
        :: Tree.tokenPair endCatch ++ [.token terminator])
  | .ifElse ifToken condition thenBranch otherwise =>
    .node .ifStmt (.token ifToken :: condition.tree :: thenBranch.tree :: otherwise.slots)
  | .whileLoop whileToken condition body =>
    .node .whileStmt [.token whileToken, condition.tree, body.tree]
  | .loopControl keyword terminator => .node .loopControl [.token keyword, .token terminator]
  | .returnValue returnToken value terminator =>
    .node .returnStmt (.token returnToken :: Expr.optionalSlot value ++ [.token terminator])
  | .goto gotoToken label terminator =>
    .node .gotoStmt [.token gotoToken, .token label, .token terminator]
  | .label label colon => .node .labelStmt [.token label, .token colon]
  | .setVariable setToken variableName operator value terminator =>
    .node .setVariable
      [.token setToken, .token variableName, .token operator, value.tree, .token terminator]
  | .setOption setToken options value terminator =>
    .node .setOption [.token setToken, options.nameTree, value.tree, .token terminator]
  | .declare declareToken declarations terminator =>
    .node .declare
      [.token declareToken, declarations.tree .separatedList VarDecl.tree, .token terminator]
  | .declareCursor c => c.tree
  | .createProcedure header body =>
    .node .createProcedure (header.slots ++ [.node .statementList (Statement.slotsOf body)])
  | .createView v => v.tree
  | .createScalarFunction signature returnType options asToken body =>
    .node .createScalarFunction
      (signature.tree :: returnType.tree :: RoutineOptions.optionalSlot options
        ++ [.token asToken, body.tree])
  | .createInlineFunction f => f.tree
  | .createTableFunction signature variableName tableType options asToken body =>
    .node .createTableFunction
      (signature.tree :: .token variableName :: tableType.tree
        :: RoutineOptions.optionalSlot options ++ [.token asToken, body.tree])
  | .unmodeled tokens terminator => .node .unmodeled [tokens.tree, .token terminator]

def Statement.slotsOf : List Statement → List Tree
  | [] => []
  | s :: ss => s.tree :: Statement.slotsOf ss

def Block.tree : Block → Tree
  | ⟨beginToken, body, endToken, terminator⟩ =>
    .node .blockStmt
      [.token beginToken, .node .statementList (Statement.slotsOf body), .token endToken,
       .token terminator]

def ElseBranch.slots : ElseBranch → List Tree
  | .absent => []
  | .present keyword s => [.token keyword, s.tree]

end

/-- The node of a sequence of statements. -/
def Statement.listTree (ss : List Statement) : Tree :=
  .node .statementList (Statement.slotsOf ss)

end TransactSql
