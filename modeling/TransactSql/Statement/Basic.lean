import TransactSql.Expr.Basic

/-!
# Statements

The abstract form of statements. Statements the grammar goes into no detail about are kept as
their tokens.
-/

namespace TransactSql

/-- Items with commas between them. -/
structure SeparatedList (α : Type) where
  items : List α
  separators : List Token
deriving Repr, Inhabited

/-- `@name [AS] type [= value]` in a `DECLARE`. -/
structure VarDecl where
  name : Token
  asToken : Token
  dataType : DataType
  value : Tail

/-- `DECLARE name [options] CURSOR [options] FOR query [FOR UPDATE [OF columns]]`. -/
structure CursorDecl where
  declareToken : Token
  name : Token
  /-- The options between the name and `CURSOR`. -/
  isoOptions : RawTokens
  cursorToken : Token
  /-- The options between `CURSOR` and `FOR`. -/
  options : RawTokens
  forToken : Token
  query : Expr
  update : Option RawTokens
  terminator : Token

/-- `@name [AS] type [VARYING] [= default] [OUT|OUTPUT] [READONLY]`. -/
structure ParamDecl where
  name : Token
  asToken : Token
  dataType : DataType
  varying : Option Token
  initial : Tail
  modifiers : List Token

/-- `WITH option, ...`. -/
structure RoutineOptions where
  withToken : Token
  options : RawTokens
deriving Repr, Inhabited

/-- A `CREATE PROCEDURE` or `ALTER PROCEDURE` up to `AS`. The parentheses are optional. -/
structure ProcedureHeader where
  /-- `CREATE`, `ALTER` or `CREATE OR ALTER`. -/
  create : List Token
  procedureToken : Token
  name : Name
  lparen : Token
  params : Option (SeparatedList ParamDecl)
  rparen : Token
  options : Option RoutineOptions
  /-- `FOR REPLICATION`. -/
  replication : Option (Token × Token)
  asToken : Token

/-- `CREATE|ALTER VIEW name [(columns)] [WITH options] AS query [WITH CHECK OPTION]`. -/
structure ViewDef where
  create : List Token
  viewToken : Token
  name : Name
  lparen : Token
  columns : Option (SeparatedList Token)
  rparen : Token
  options : Option RoutineOptions
  asToken : Token
  query : Expr
  checkOption : Option (Token × Token × Token)
  terminator : Token

/-- `CREATE|ALTER FUNCTION name (params) RETURNS`. -/
structure FunctionSignature where
  create : List Token
  functionToken : Token
  name : Name
  lparen : Token
  params : Option (SeparatedList ParamDecl)
  rparen : Token
  returnsToken : Token

/-- `RETURNS TABLE [WITH options] [AS] RETURN query`, with the signature before it. -/
structure InlineFunction where
  signature : FunctionSignature
  tableToken : Token
  options : Option RoutineOptions
  asToken : Token
  returnToken : Token
  query : Expr
  terminator : Token

mutual

inductive Statement where
  /-- A lone `;`. -/
  | empty (terminator : Token)
  | expression (expr : Expr) (terminator : Token)
  | block (block : Block)
  | beginTransaction (beginToken transaction : Token) (name : Option Token) (terminator : Token)
  /-- `BEGIN TRY ... END TRY BEGIN CATCH ... END CATCH`, each keyword pair together. -/
  | tryCatch (beginTry : Token × Token) (tryBody : List Statement) (endTry : Token × Token)
    (beginCatch : Token × Token) (catchBody : List Statement) (endCatch : Token × Token)
    (terminator : Token)
  | ifElse (ifToken : Token) (condition : Expr) (thenBranch : Statement) (otherwise : ElseBranch)
  | whileLoop (whileToken : Token) (condition : Expr) (body : Statement)
  /-- `BREAK` or `CONTINUE`. -/
  | loopControl (keyword terminator : Token)
  | returnValue (returnToken : Token) (value : Option Expr) (terminator : Token)
  | goto (gotoToken label terminator : Token)
  | label (label colon : Token)
  | setVariable (setToken variableName operator : Token) (value : Expr) (terminator : Token)
  | setOption (setToken : Token) (options : SeparatedList Token) (value : RawTokens)
    (terminator : Token)
  | declare (declareToken : Token) (declarations : SeparatedList VarDecl) (terminator : Token)
  | declareCursor (cursor : CursorDecl)
  | createProcedure (header : ProcedureHeader) (body : List Statement)
  | createView (view : ViewDef)
  | createScalarFunction (signature : FunctionSignature) (returnType : DataType)
    (options : Option RoutineOptions) (asToken : Token) (body : Block)
  | createInlineFunction (function : InlineFunction)
  | createTableFunction (signature : FunctionSignature) (variableName : Token)
    (tableType : TableType) (options : Option RoutineOptions) (asToken : Token) (body : Block)
  /-- A statement kept as its tokens. -/
  | unmodeled (tokens : RawTokens) (terminator : Token)

/-- `BEGIN statements END`. -/
structure Block where
  beginToken : Token
  body : List Statement
  endToken : Token
  terminator : Token

/-- The optional `ELSE` of an `IF`. -/
inductive ElseBranch where
  | absent
  | present (keyword : Token) (statement : Statement)

end

instance : Inhabited Statement := ⟨.empty default⟩

/-! ### Properties of routines -/

/-- A plain `ALTER`, not `CREATE OR ALTER`. -/
def isAlter (create : List Token) : Bool :=
  match create with
  | [t] => t.isKeyword .ALTER
  | _ => false

def isCreateOrAlter (create : List Token) : Bool := create.length == 3

namespace ParamDecl

def isOutput (p : ParamDecl) : Bool := p.modifiers.any (·.isAnyKeyword [.OUT, .OUTPUT])

def isReadonly (p : ParamDecl) : Bool := p.modifiers.any (·.isKeyword .READONLY)

end ParamDecl

/-- The items of a list that may be absent. -/
def SeparatedList.itemsOf (list : Option (SeparatedList α)) : List α :=
  (list.map SeparatedList.items).getD []

def ElseBranch.statement? : ElseBranch → Option Statement
  | .absent => none
  | .present _ s => some s

namespace Statement

/-- The name of the object a statement creates or alters. -/
def objectName? : Statement → Option String
  | .createProcedure header _ => some header.name.dotted
  | .createView view => some view.name.dotted
  | .createScalarFunction signature .. => some signature.name.dotted
  | .createInlineFunction f => some f.signature.name.dotted
  | .createTableFunction signature .. => some signature.name.dotted
  | _ => none

/-- The first word of a statement kept as tokens, in upper case. -/
def leadingWord (r : RawTokens) : String :=
  (r.tokens.head?.map fun t => t.text.map Char.toUpper).getD ""

/-- The parameters of a routine. -/
def params : Statement → List ParamDecl
  | .createProcedure header _ => SeparatedList.itemsOf header.params
  | .createScalarFunction signature .. => SeparatedList.itemsOf signature.params
  | .createInlineFunction f => SeparatedList.itemsOf f.signature.params
  | .createTableFunction signature .. => SeparatedList.itemsOf signature.params
  | _ => []

def kind : Statement → NodeKind
  | .empty .. => .emptyStmt
  | .expression .. => .expressionStmt
  | .block .. => .blockStmt
  | .beginTransaction .. => .beginTransaction
  | .tryCatch .. => .tryCatch
  | .ifElse .. => .ifStmt
  | .whileLoop .. => .whileStmt
  | .loopControl .. => .loopControl
  | .returnValue .. => .returnStmt
  | .goto .. => .gotoStmt
  | .label .. => .labelStmt
  | .setVariable .. => .setVariable
  | .setOption .. => .setOption
  | .declare .. => .declare
  | .declareCursor .. => .declareCursor
  | .createProcedure .. => .createProcedure
  | .createView .. => .createView
  | .createScalarFunction .. => .createScalarFunction
  | .createInlineFunction .. => .createInlineFunction
  | .createTableFunction .. => .createTableFunction
  | .unmodeled .. => .unmodeled

end Statement

end TransactSql
