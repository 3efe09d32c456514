import TransactSql.Expr.Checked
import TransactSql.Statement.Basic

/-!
# Checked construction of statements

Each function makes one kind of node and refuses parts that do not fit its slots.
-/

namespace TransactSql

namespace Checked

def names (items separators : List Token) : Shaped (SeparatedList Token) := do
  let (items, separators) ← separated .nameList items separators
  return ⟨items, separators⟩

/-- A list of declarations. -/
def declarations (items : List α) (separators : List Token) : Shaped (SeparatedList α) := do
  let (items, separators) ← separated .separatedList items separators
  return ⟨items, separators⟩

/-! ### Simple statements -/

def empty (terminator : Token) : Shaped Statement := do
  Check.kind .emptyStmt "terminator" terminator .semicolon "';'"
  return .empty terminator

def expression (expr : Expr) (terminator : Token) : Shaped Statement := do
  Check.terminator .expressionStmt terminator
  return .expression expr terminator

def loopControl (keyword terminator : Token) : Shaped Statement := do
  Check.token .loopControl "keyword" keyword "BREAK or CONTINUE"
    (keyword.isAnyKeyword [.BREAK, .CONTINUE])
  Check.terminator .loopControl terminator
  return .loopControl keyword terminator

def returnValue (returnToken : Token) (value : Option Expr) (terminator : Token) :
    Shaped Statement := do
  Check.keyword .returnStmt "return" returnToken .RETURN
  Check.terminator .returnStmt terminator
  return .returnValue returnToken value terminator

def goto (gotoToken label terminator : Token) : Shaped Statement := do
  Check.keyword .gotoStmt "goto" gotoToken .GOTO
  Check.identifier .gotoStmt "label" label
  Check.terminator .gotoStmt terminator
  return .goto gotoToken label terminator

def label (label colon : Token) : Shaped Statement := do
  Check.identifier .labelStmt "label" label
  Check.kind .labelStmt "colon" colon .colon "':'"
  return .label label colon

def setVariable (setToken variableName operator : Token) (value : Expr) (terminator : Token) :
    Shaped Statement := do
  Check.keyword .setVariable "set" setToken .SET
  Check.variableName .setVariable "variable" variableName
  Check.token .setVariable "operator" operator "assignment operator" operator.kind.isAssignment
  Check.terminator .setVariable terminator
  return .setVariable setToken variableName operator value terminator

def setOption (setToken : Token) (options : SeparatedList Token) (value : RawTokens)
    (terminator : Token) : Shaped Statement := do
  Check.keyword .setOption "set" setToken .SET
  options.items.forM fun option => Check.identifier .setOption "option" option
  Check.terminator .setOption terminator
  return .setOption setToken options value terminator

def unmodeled (tokens : RawTokens) (terminator : Token) : Shaped Statement := do
  if tokens.tokens.isEmpty then .error (.emptyList .unmodeled "tokens")
  else
    Check.terminator .unmodeled terminator
    return .unmodeled tokens terminator

/-! ### Blocks and control flow -/

def block (beginToken : Token) (body : List Statement) (endToken terminator : Token) :
    Shaped Block := do
  Check.keyword .blockStmt "begin" beginToken .BEGIN
  Check.keyword .blockStmt "end" endToken .END
  Check.terminator .blockStmt terminator
  return { beginToken, body, endToken, terminator }

def beginTransaction (beginToken transaction : Token) (name : Option Token)
    (terminator : Token) : Shaped Statement := do
  Check.keyword .beginTransaction "begin" beginToken .BEGIN
  Check.token .beginTransaction "transaction" transaction "TRAN or TRANSACTION"
    (transaction.isAnyKeyword [.TRAN, .TRANSACTION])
  if let some name := name then Check.identifier .beginTransaction "name" name
  Check.terminator .beginTransaction terminator
  return .beginTransaction beginToken transaction name terminator

def keywordPair (node : NodeKind) (pair : Token × Token) (first second : Keyword) :
    Shaped Unit := do
  Check.keyword node "keyword" pair.1 first
  Check.keyword node "keyword" pair.2 second

def tryCatch (beginTry : Token × Token) (tryBody : List Statement) (endTry : Token × Token)
    (beginCatch : Token × Token) (catchBody : List Statement) (endCatch : Token × Token)
    (terminator : Token) : Shaped Statement := do
  keywordPair .tryCatch beginTry .BEGIN .TRY
  keywordPair .tryCatch endTry .END .TRY
  keywordPair .tryCatch beginCatch .BEGIN .CATCH
  keywordPair .tryCatch endCatch .END .CATCH
  Check.terminator .tryCatch terminator
  return .tryCatch beginTry tryBody endTry beginCatch catchBody endCatch terminator

def ifElse (ifToken : Token) (condition : Expr) (thenBranch : Statement)
    (otherwise : ElseBranch) : Shaped Statement := do
  Check.keyword .ifStmt "if" ifToken .IF
  if let .present keyword _ := otherwise then Check.keyword .ifStmt "else" keyword .ELSE
  return .ifElse ifToken condition thenBranch otherwise

def whileLoop (whileToken : Token) (condition : Expr) (body : Statement) : Shaped Statement := do
  Check.keyword .whileStmt "while" whileToken .WHILE
  return .whileLoop whileToken condition body

/-! ### Declarations -/

/-- Checks the `=` before an initial value. -/
def initializer (node : NodeKind) (slot : String) : Tail → Shaped Unit
  | .absent => .ok ()
  | .present eq _ =>
    Check.token node slot eq "'='" (eq.kind == .comparison .eq || eq.kind == .assignment none)

/-- A table variable has no initial value. -/
def varDecl (name asToken : Token) (dataType : DataType) (value : Tail) : Shaped VarDecl := do
  Check.variableName .varDecl "name" name
  Check.optionalAs .varDecl asToken
  initializer .varDecl "initializer" value
  if value.value?.isSome && dataType.isTable then
    .error (.invalid .varDecl "table variables take no initial value")
  else return { name, asToken, dataType, value }

def declare (declareToken : Token) (declarations : SeparatedList VarDecl) (terminator : Token) :
    Shaped Statement := do
  Check.keyword .declare "declare" declareToken .DECLARE
  Check.terminator .declare terminator
  return .declare declareToken declarations terminator

/-- The part after the query starts with `FOR UPDATE`. -/
def isUpdateClause : List Token → Bool
  | first :: second :: _ => first.isKeyword .FOR && second.isKeyword .UPDATE
  | _ => false

def declareCursor (cursor : CursorDecl) : Shaped Statement := do
  Check.keyword .declareCursor "declare" cursor.declareToken .DECLARE
  Check.token .declareCursor "name" cursor.name "cursor name"
    (cursor.name.isWord && !cursor.name.isVariable)
  Check.keyword .declareCursor "cursor" cursor.cursorToken .CURSOR
  Check.keyword .declareCursor "for" cursor.forToken .FOR
  if cursor.update.all (isUpdateClause ·.tokens) then
    Check.terminator .declareCursor cursor.terminator
    return .declareCursor cursor
  else .error (.invalid .declareCursor "update clause must start with FOR UPDATE")

/-! ### Routines -/

def paramDecl (name asToken : Token) (dataType : DataType) (varying : Option Token)
    (initial : Tail) (modifiers : List Token) : Shaped ParamDecl := do
  Check.variableName .paramDecl "name" name
  Check.optionalAs .paramDecl asToken
  Check.keyword? .paramDecl "varying" varying .VARYING
  initializer .paramDecl "default" initial
  modifiers.forM fun m =>
    Check.token .paramDecl "modifier" m "OUT, OUTPUT or READONLY"
      (m.isAnyKeyword [.OUT, .OUTPUT, .READONLY])
  return { name, asToken, dataType, varying, initial, modifiers }

def routineOptions (withToken : Token) (options : RawTokens) : Shaped RoutineOptions := do
  Check.keyword .routineOptions "with" withToken .WITH
  if options.tokens.isEmpty then .error (.emptyList .routineOptions "options")
  else return { withToken, options }

/-- `CREATE`, `ALTER` or `CREATE OR ALTER`. -/
def isCreate : List Token → Bool
  | [t] => t.isAnyKeyword [.CREATE, .ALTER]
  | [a, b, c] => a.isKeyword .CREATE && b.isKeyword .OR && c.isKeyword .ALTER
  | _ => false

def create (node : NodeKind) (tokens : List Token) : Shaped Unit :=
  if isCreate tokens then .ok ()
  else .error (.invalid node "expected CREATE, ALTER or CREATE OR ALTER")

def createProcedure (header : ProcedureHeader) (body : List Statement) : Shaped Statement := do
  create .createProcedure header.create
  Check.token .createProcedure "procedure" header.procedureToken "PROC or PROCEDURE"
    (header.procedureToken.isAnyKeyword [.PROC, .PROCEDURE])
  Check.parenPair .createProcedure header.lparen header.rparen
  Check.keyword? .createProcedure "for" (header.replication.map (·.1)) .FOR
  Check.keyword? .createProcedure "replication" (header.replication.map (·.2)) .REPLICATION
  Check.keyword .createProcedure "as" header.asToken .AS
  return .createProcedure header body

def createView (view : ViewDef) : Shaped Statement := do
  create .createView view.create
  Check.keyword .createView "view" view.viewToken .VIEW
  Check.parenPair .createView view.lparen view.rparen
  if view.lparen.isPlaceholder != view.columns.isNone then
    .error (.invalid .createView "column list needs parentheses")
  else
    Check.keyword .createView "as" view.asToken .AS
    if !view.query.isQuery then .error (.invalid .createView "view body must be a query")
    else
      Check.keyword? .createView "with" (view.checkOption.map (·.1)) .WITH
      Check.keyword? .createView "check" (view.checkOption.map (·.2.1)) .CHECK
      Check.keyword? .createView "option" (view.checkOption.map (·.2.2)) .OPTION
      Check.terminator .createView view.terminator
      return .createView view

def functionSignature (signature : FunctionSignature) : Shaped FunctionSignature := do
  create .functionSignature signature.create
  Check.keyword .functionSignature "function" signature.functionToken .FUNCTION
  Check.parens .functionSignature signature.lparen signature.rparen
  Check.keyword .functionSignature "returns" signature.returnsToken .RETURNS
  return signature

def createScalarFunction (signature : FunctionSignature) (returnType : DataType)
    (options : Option RoutineOptions) (asToken : Token) (body : Block) : Shaped Statement := do
  if returnType.isTable then
    .error (.invalid .createScalarFunction "scalar functions return a scalar type")
  else
    Check.optionalAs .createScalarFunction asToken
    return .createScalarFunction signature returnType options asToken body

def createInlineFunction (function : InlineFunction) : Shaped Statement := do
  Check.keyword .createInlineFunction "table" function.tableToken .TABLE
  Check.optionalAs .createInlineFunction function.asToken
  Check.keyword .createInlineFunction "return" function.returnToken .RETURN
  if !function.query.isQuery then
    .error (.invalid .createInlineFunction "inline function body must be a query")
  else
    Check.terminator .createInlineFunction function.terminator
    return .createInlineFunction function

def createTableFunction (signature : FunctionSignature) (variableName : Token)
    (tableType : TableType) (options : Option RoutineOptions) (asToken : Token) (body : Block) :
    Shaped Statement := do
  Check.variableName .createTableFunction "variable" variableName
  Check.optionalAs .createTableFunction asToken
  return .createTableFunction signature variableName tableType options asToken body

end Checked

end TransactSql
