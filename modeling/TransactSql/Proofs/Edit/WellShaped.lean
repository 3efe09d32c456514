import TransactSql.Document

/-!
# Well-shaped documents

A document is well shaped if every node in it would be accepted by the checked construction of its
kind. Most checks look at the tokens of a node only: they pass for new parts as they did for old
ones. The exceptions are the target of an assignment, the function of an `OVER`, the type of a
variable with an initial value, the query of a view or of an inline function, and the type that a
scalar function returns.
-/

namespace TransactSql

/-! ### Expressions -/

def Name.wellShaped (n : Name) : Bool := (Checked.name n.parts).isOk

def RawTokens.wellShaped (r : RawTokens) : Bool := (Checked.rawTokens r.tokens).isOk

def TableType.wellShaped (t : TableType) : Bool :=
  (Checked.tableType t.tableToken t.lparen t.definition t.rparen).isOk && t.definition.wellShaped

mutual

def Expr.wellShaped : Expr → Bool
  | .literal t => (Checked.literal t).isOk
  | .name n => n.wellShaped
  | .unary op e => (Checked.unary op e).isOk && e.wellShaped
  | .binary l op r => (Checked.binary l op r).isOk && l.wellShaped && r.wellShaped
  | .assignment target op value =>
    (Checked.assignment target op value).isOk && target.wellShaped && value.wellShaped
  | .isNull e isToken not null => (Checked.isNull e isToken not null).isOk && e.wellShaped
  | .like e not keyword pattern escape =>
    (Checked.like e not keyword pattern escape).isOk && e.wellShaped && pattern.wellShaped
      && escape.wellShaped
  | .between e not keyword low and high =>
    (Checked.between e not keyword low and high).isOk && e.wellShaped && low.wellShaped
      && high.wellShaped
  | .isIn e not keyword lparen values rparen =>
    (Checked.isIn e not keyword lparen values rparen).isOk && e.wellShaped && values.wellShaped
  | .paren lparen e rparen => (Checked.paren lparen e rparen).isOk && e.wellShaped
  | .call callee lparen args rparen =>
    (Checked.call callee lparen args rparen).isOk && callee.wellShaped && Expr.optionalWellShaped args
  | .window f overClause =>
    (Checked.window f overClause).isOk && f.wellShaped && overClause.wellShaped
  | .cast keyword lparen e asToken type rparen =>
    (Checked.cast keyword lparen e asToken type rparen).isOk && e.wellShaped && type.wellShaped
  | .case keyword operand whens otherwise endToken =>
    (Checked.case keyword operand whens otherwise endToken).isOk && Expr.optionalWellShaped operand
      && WhenClause.allWellShaped whens && otherwise.wellShaped
  | .collate e keyword collation => (Checked.collate e keyword collation).isOk && e.wellShaped
  | .list items separators => (Checked.list items separators).isOk && Expr.allWellShaped items
  | .aliased e asToken name => (Checked.aliased e asToken name).isOk && e.wellShaped
  | .sort e direction => (Checked.sort e direction).isOk && e.wellShaped
  | .join l op r on =>
    (Checked.join l op r on).isOk && l.wellShaped && r.wellShaped && on.wellShaped
  | .tableHint table keyword lparen hints rparen =>
    (Checked.tableHint table keyword lparen hints rparen).isOk && table.wellShaped && hints.wellShaped
  | .select keyword quantifier top columns clauses =>
    (Checked.select keyword quantifier top columns clauses).isOk && TopClause.optionalWellShaped top
      && columns.wellShaped && clauses.wellShaped
  | .setOperation l op all r =>
    (Checked.setOperation l op all r).isOk && l.wellShaped && r.wellShaped
  | .orderBy query order offset =>
    (Checked.orderBy query order offset).isOk && query.wellShaped && order.wellShaped
      && OffsetFetch.optionalWellShaped offset
  | .queryOption query keyword options =>
    (Checked.queryOption query keyword options).isOk && query.wellShaped && options.wellShaped
  | .raw r => r.wellShaped

def Expr.optionalWellShaped : Option Expr → Bool
  | none => true
  | some e => e.wellShaped

def Expr.allWellShaped : List Expr → Bool
  | [] => true
  | e :: es => e.wellShaped && Expr.allWellShaped es

def Tail.wellShaped : Tail → Bool
  | .absent => true
  | .present _ value => value.wellShaped

def DataType.wellShaped : DataType → Bool
  | .named name lparen args rparen =>
    (Checked.typeName name lparen args rparen).isOk && name.wellShaped && Expr.optionalWellShaped args
  | .table type => type.wellShaped

def WhenClause.wellShaped : WhenClause → Bool
  | ⟨whenToken, condition, thenToken, result⟩ =>
    (Checked.whenClause whenToken condition thenToken result).isOk && condition.wellShaped
      && result.wellShaped

def WhenClause.allWellShaped : List WhenClause → Bool
  | [] => true
  | w :: ws => w.wellShaped && WhenClause.allWellShaped ws

/-- A clause stands behind the keywords that its words are. -/
def Clause.wellShaped : Clause → Bool
  | ⟨keywords, body⟩ =>
    (Checked.clause keywords (keywords.filterMap Token.keyword?) body).isOk && body.wellShaped

def Clause.optionalWellShaped : Option Clause → Bool
  | none => true
  | some c => c.wellShaped

def TopClause.optionalWellShaped : Option TopClause → Bool
  | none => true
  | some ⟨topToken, lparen, count, rparen, percent, withTies⟩ =>
    (Checked.top topToken lparen count rparen percent withTies).isOk && count.wellShaped

def SelectClauses.wellShaped : SelectClauses → Bool
  | ⟨into, source, condition, grouping, having⟩ =>
    Clause.optionalWellShaped into && Clause.optionalWellShaped source
      && Clause.optionalWellShaped condition && Clause.optionalWellShaped grouping
      && Clause.optionalWellShaped having

def OverClause.wellShaped : OverClause → Bool
  | ⟨overToken, lparen, partition, order, frame, rparen⟩ =>
    (Checked.overClause overToken lparen partition order frame rparen).isOk
      && Clause.optionalWellShaped partition && Clause.optionalWellShaped order
      && frame.all RawTokens.wellShaped

def FetchClause.optionalWellShaped : Option FetchClause → Bool
  | none => true
  | some ⟨fetchToken, direction, count, rows, only⟩ =>
    (Checked.fetch fetchToken direction count rows only).isOk && count.wellShaped

def OffsetFetch.optionalWellShaped : Option OffsetFetch → Bool
  | none => true
  | some ⟨offsetToken, count, rows, fetch⟩ =>
    (Checked.offset offsetToken count rows fetch).isOk && count.wellShaped
      && FetchClause.optionalWellShaped fetch

end

/-! ### Statements -/

def VarDecl.wellShaped (d : VarDecl) : Bool :=
  (Checked.varDecl d.name d.asToken d.dataType d.value).isOk && d.dataType.wellShaped
    && d.value.wellShaped

def ParamDecl.wellShaped (p : ParamDecl) : Bool :=
  (Checked.paramDecl p.name p.asToken p.dataType p.varying p.initial p.modifiers).isOk
    && p.dataType.wellShaped && p.initial.wellShaped

def RoutineOptions.wellShaped (o : RoutineOptions) : Bool :=
  (Checked.routineOptions o.withToken o.options).isOk && o.options.wellShaped

def SeparatedList.namesWellShaped (names : SeparatedList Token) : Bool :=
  (Checked.names names.items names.separators).isOk

/-- A list of declarations, each of which satisfies `p`. -/
def SeparatedList.wellShaped (p : α → Bool) (list : SeparatedList α) : Bool :=
  (Checked.declarations list.items list.separators).isOk && list.items.all p

def CursorDecl.wellShaped (c : CursorDecl) : Bool :=
  (Checked.declareCursor c).isOk && c.isoOptions.wellShaped && c.options.wellShaped
    && c.query.wellShaped && c.update.all RawTokens.wellShaped

/-- The parts of a procedure up to `AS`. -/
def ProcedureHeader.wellShaped (h : ProcedureHeader) : Bool :=
  h.name.wellShaped && h.params.all (SeparatedList.wellShaped ParamDecl.wellShaped)
    && h.options.all RoutineOptions.wellShaped

def ViewDef.wellShaped (v : ViewDef) : Bool :=
  (Checked.createView v).isOk && v.name.wellShaped && v.columns.all SeparatedList.namesWellShaped
    && v.options.all RoutineOptions.wellShaped && v.query.wellShaped

def FunctionSignature.wellShaped (f : FunctionSignature) : Bool :=
  (Checked.functionSignature f).isOk && f.name.wellShaped
    && f.params.all (SeparatedList.wellShaped ParamDecl.wellShaped)

def InlineFunction.wellShaped (f : InlineFunction) : Bool :=
  (Checked.createInlineFunction f).isOk && f.signature.wellShaped
    && f.options.all RoutineOptions.wellShaped && f.query.wellShaped

mutual

def Statement.wellShaped : Statement → Bool
  | .empty terminator => (Checked.empty terminator).isOk
  | .expression e terminator => (Checked.expression e terminator).isOk && e.wellShaped
  | .block b => b.wellShaped
  | .beginTransaction beginToken transaction name terminator =>
    (Checked.beginTransaction beginToken transaction name terminator).isOk
  | .tryCatch beginTry tryBody endTry beginCatch catchBody endCatch terminator =>
    (Checked.tryCatch beginTry tryBody endTry beginCatch catchBody endCatch terminator).isOk
      && Statement.allWellShaped tryBody && Statement.allWellShaped catchBody
  | .ifElse ifToken condition thenBranch otherwise =>
    (Checked.ifElse ifToken condition thenBranch otherwise).isOk && condition.wellShaped
      && thenBranch.wellShaped && otherwise.wellShaped
  | .whileLoop whileToken condition body =>
    (Checked.whileLoop whileToken condition body).isOk && condition.wellShaped && body.wellShaped
  | .loopControl keyword terminator => (Checked.loopControl keyword terminator).isOk
  | .returnValue returnToken value terminator =>
    (Checked.returnValue returnToken value terminator).isOk && Expr.optionalWellShaped value
  | .goto gotoToken label terminator => (Checked.goto gotoToken label terminator).isOk
  | .label label colon => (Checked.label label colon).isOk
  | .setVariable setToken variableName operator value terminator =>
    (Checked.setVariable setToken variableName operator value terminator).isOk && value.wellShaped
  | .setOption setToken options value terminator =>
    (Checked.setOption setToken options value terminator).isOk && options.namesWellShaped
      && value.wellShaped
  | .declare declareToken declarations terminator =>
    (Checked.declare declareToken declarations terminator).isOk
      && declarations.wellShaped VarDecl.wellShaped
  | .declareCursor c => c.wellShaped
  | .createProcedure header body =>
    (Checked.createProcedure header body).isOk && header.wellShaped && Statement.allWellShaped body
  | .createView v => v.wellShaped
  | .createScalarFunction signature returnType options asToken body =>
    (Checked.createScalarFunction signature returnType options asToken body).isOk
      && signature.wellShaped && returnType.wellShaped && options.all RoutineOptions.wellShaped
      && body.wellShaped
  | .createInlineFunction f => f.wellShaped
  | .createTableFunction signature variableName tableType options asToken body =>
    (Checked.createTableFunction signature variableName tableType options asToken body).isOk
      && signature.wellShaped && tableType.wellShaped && options.all RoutineOptions.wellShaped
      && body.wellShaped
  | .unmodeled tokens terminator => (Checked.unmodeled tokens terminator).isOk && tokens.wellShaped

def Statement.allWellShaped : List Statement → Bool
  | [] => true
  | s :: ss => s.wellShaped && Statement.allWellShaped ss

def Block.wellShaped : Block → Bool
  | ⟨beginToken, body, endToken, terminator⟩ =>
    (Checked.block beginToken body endToken terminator).isOk && Statement.allWellShaped body

def ElseBranch.wellShaped : ElseBranch → Bool
  | .absent => true
  | .present _ s => s.wellShaped

end

def Document.wellShaped : Document → Bool
  | .expression e => e.wellShaped
  | .statement s => s.wellShaped
  | .script ss => Statement.allWellShaped ss

end TransactSql
