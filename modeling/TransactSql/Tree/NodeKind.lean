/-!
# Kinds of nodes
-/

namespace TransactSql

inductive NodeKind where
  -- expressions
  | literal | name | unary | binary | assignment | isNull | like | between | isIn | paren | call
  | window | cast | case | collate | exprList | aliased | sort | join | tableHint
  -- queries
  | select | setOperation | orderBy | queryOption
  -- parts of expressions and queries
  | whenClause | clause | topClause | fetchClause | offsetFetch | overClause | typeName | tableType
  | rawTokens
  -- statements
  | emptyStmt | expressionStmt | blockStmt | beginTransaction | tryCatch | ifStmt | whileStmt
  | loopControl | returnStmt | gotoStmt | labelStmt | setVariable | setOption | declare
  | declareCursor | createProcedure | createView | createScalarFunction | createInlineFunction
  | createTableFunction | unmodeled
  -- parts of statements
  | statementList | nameList | separatedList | varDecl | paramDecl | routineOptions
  | functionSignature
deriving Repr, DecidableEq, Inhabited

namespace NodeKind

/-- The name of the kind in listings and messages. -/
def label : NodeKind → String
  | .literal => "LiteralExpr"
  | .name => "NameExpr"
  | .unary => "UnaryExpr"
  | .binary => "BinaryExpr"
  | .assignment => "AssignmentExpr"
  | .isNull => "IsNullExpr"
  | .like => "LikeExpr"
  | .between => "BetweenExpr"
  | .isIn => "InExpr"
  | .paren => "ParenExpr"
  | .call => "CallExpr"
  | .window => "WindowExpr"
  | .cast => "CastExpr"
  | .case => "CaseExpr"
  | .collate => "CollateExpr"
  | .exprList => "ExprList"
  | .aliased => "AliasExpr"
  | .sort => "SortExpr"
  | .join => "JoinExpr"
  | .tableHint => "TableHintExpr"
  | .select => "SelectExpr"
  | .setOperation => "SetOperationExpr"
  | .orderBy => "OrderByExpr"
  | .queryOption => "QueryOptionExpr"
  | .whenClause => "WhenClause"
  | .clause => "Clause"
  | .topClause => "TopClause"
  | .fetchClause => "FetchClause"
  | .offsetFetch => "OffsetFetch"
  | .overClause => "OverClause"
  | .typeName => "TypeName"
  | .tableType => "TableType"
  | .rawTokens => "RawTokens"
  | .emptyStmt => "EmptyStmt"
  | .expressionStmt => "ExpressionStmt"
  | .blockStmt => "BlockStmt"
  | .beginTransaction => "BeginTransactionStmt"
  | .tryCatch => "TryCatchStmt"
  | .ifStmt => "IfStmt"
  | .whileStmt => "WhileStmt"
  | .loopControl => "MonoKeywordStmt"
  | .returnStmt => "ReturnStmt"
  | .gotoStmt => "GotoStmt"
  | .labelStmt => "LabelStmt"
  | .setVariable => "SetVariableStmt"
  | .setOption => "SetOptionStmt"
  | .declare => "DeclareStmt"
  | .declareCursor => "DeclareCursorStmt"
  | .createProcedure => "CreateProcedureStmt"
  | .createView => "CreateViewStmt"
  | .createScalarFunction => "CreateScalarFunctionStmt"
  | .createInlineFunction => "CreateInlineFunctionStmt"
  | .createTableFunction => "CreateTableFunctionStmt"
  | .unmodeled => "UnmodeledStmt"
  | .statementList => "StatementList"
  | .nameList => "NameList"
  | .separatedList => "SeparatedList"
  | .varDecl => "VarDecl"
  | .paramDecl => "ParamDecl"
  | .routineOptions => "RoutineOptions"
  | .functionSignature => "FunctionSignature"

/-- The kinds of statements. -/
def statements : List NodeKind :=
  [.emptyStmt, .expressionStmt, .blockStmt, .beginTransaction, .tryCatch, .ifStmt, .whileStmt,
   .loopControl, .returnStmt, .gotoStmt, .labelStmt, .setVariable, .setOption, .declare,
   .declareCursor, .createProcedure, .createView, .createScalarFunction, .createInlineFunction,
   .createTableFunction, .unmodeled]

end NodeKind

end TransactSql
