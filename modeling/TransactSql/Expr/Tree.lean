import TransactSql.Expr.Basic
import TransactSql.Tree.Basic

/-!
# Expressions as trees

The slots of every expression, in source order.
-/

namespace TransactSql

namespace Tree

def tokenSlots (ts : List Token) : List Tree := ts.map .token

def optionalToken (t : Option Token) : List Tree := (t.map .token).toList

/-- Items with a separator before each but the first. -/
def interleave : List Tree → List Token → List Tree
  | item :: next :: items, s :: ss => item :: .token s :: interleave (next :: items) ss
  | items, _ => items

end Tree

def Name.tree (n : Name) : Tree := .node .name (Tree.tokenSlots n.parts)

def RawTokens.tree (r : RawTokens) : Tree := .node .rawTokens (Tree.tokenSlots r.tokens)

def TableType.tree (t : TableType) : Tree :=
  .node .tableType [.token t.tableToken, .token t.lparen, t.definition.tree, .token t.rparen]

mutual

def Expr.tree : Expr → Tree
  | .literal t => .node .literal [.token t]
  | .name n => n.tree
  | .unary op e => .node .unary [.token op, e.tree]
  | .binary l op r => .node .binary [l.tree, .token op, r.tree]
  | .assignment target op value => .node .assignment [target.tree, .token op, value.tree]
  | .isNull e isToken not null =>
    .node .isNull (e.tree :: .token isToken :: Tree.optionalToken not ++ [.token null])
  | .like e not keyword pattern escape =>
    .node .like (e.tree :: Tree.optionalToken not ++ [.token keyword, pattern.tree]
      ++ escape.slots)
  | .between e not keyword low and high =>
    .node .between (e.tree :: Tree.optionalToken not
      ++ [.token keyword, low.tree, .token and, high.tree])
  | .isIn e not keyword lparen values rparen =>
    .node .isIn (e.tree :: Tree.optionalToken not
      ++ [.token keyword, .token lparen, values.tree, .token rparen])
  | .paren lparen e rparen => .node .paren [.token lparen, e.tree, .token rparen]
  | .call callee lparen args rparen =>
    .node .call (callee.tree :: .token lparen :: Expr.optionalSlot args ++ [.token rparen])
  | .window f overClause => .node .window [f.tree, overClause.tree]
  | .cast keyword lparen e asToken type rparen =>
    .node .cast
      [.token keyword, .token lparen, e.tree, .token asToken, type.tree, .token rparen]
  | .case keyword operand whens otherwise endToken =>
    .node .case (.token keyword :: Expr.optionalSlot operand ++ WhenClause.slotsOf whens
      ++ otherwise.slots ++ [.token endToken])
  | .collate e keyword collation => .node .collate [e.tree, .token keyword, .token collation]
  | .list items separators => .node .exprList (Tree.interleave (Expr.slotsOf items) separators)
  | .aliased e asToken name => .node .aliased [e.tree, .token asToken, .token name]
  | .sort e direction => .node .sort [e.tree, .token direction]
  | .join l op r on =>
    .node .join (l.tree :: Tree.tokenSlots op ++ r.tree :: on.slots)
  | .tableHint table keyword lparen hints rparen =>
    .node .tableHint
      [table.tree, .token keyword, .token lparen, hints.tree, .token rparen]
  | .select keyword quantifier top columns clauses =>
    .node .select (.token keyword :: Tree.optionalToken quantifier ++ TopClause.optionalSlot top
      ++ columns.tree :: clauses.slots)
  | .setOperation l op all r =>
    .node .setOperation (l.tree :: .token op :: Tree.optionalToken all ++ [r.tree])
  | .orderBy query order offset =>
    .node .orderBy (query.tree :: order.tree :: OffsetFetch.optionalSlot offset)
  | .queryOption query keyword options =>
    .node .queryOption [query.tree, .token keyword, options.tree]
  | .raw r => r.tree

def Expr.optionalSlot : Option Expr → List Tree
  | none => []
  | some e => [e.tree]

def Expr.slotsOf : List Expr → List Tree
  | [] => []
  | e :: es => e.tree :: Expr.slotsOf es

def Tail.slots : Tail → List Tree
  | .absent => []
  | .present keyword value => [.token keyword, value.tree]

def DataType.tree : DataType → Tree
  | .named name lparen args rparen =>
    .node .typeName (name.tree :: .token lparen :: Expr.optionalSlot args ++ [.token rparen])
  | .table type => type.tree

def WhenClause.tree : WhenClause → Tree
  | ⟨whenToken, condition, thenToken, result⟩ =>
    .node .whenClause [.token whenToken, condition.tree, .token thenToken, result.tree]

def WhenClause.slotsOf : List WhenClause → List Tree
  | [] => []
  | w :: ws => w.tree :: WhenClause.slotsOf ws

def Clause.tree : Clause → Tree
  | ⟨keywords, body⟩ => .node .clause (Tree.tokenSlots keywords ++ [body.tree])

def Clause.optionalSlot : Option Clause → List Tree
  | none => []
  | some c => [c.tree]

def TopClause.tree : TopClause → Tree
  | ⟨topToken, lparen, count, rparen, percent, withTies⟩ =>
    .node .topClause (.token topToken :: .token lparen :: count.tree :: .token rparen
      :: Tree.optionalToken percent
      ++ (withTies.map fun (withToken, ties) => [Tree.token withToken, .token ties]).getD [])

def TopClause.optionalSlot : Option TopClause → List Tree
  | none => []
  | some t => [t.tree]

def SelectClauses.slots : SelectClauses → List Tree
  | ⟨into, source, condition, grouping, having⟩ =>
    Clause.optionalSlot into ++ Clause.optionalSlot source ++ Clause.optionalSlot condition
      ++ Clause.optionalSlot grouping ++ Clause.optionalSlot having

def OverClause.tree : OverClause → Tree
  | ⟨overToken, lparen, partition, order, frame, rparen⟩ =>
    .node .overClause (.token overToken :: .token lparen :: Clause.optionalSlot partition
      ++ Clause.optionalSlot order ++ (frame.map RawTokens.tree).toList ++ [.token rparen])

/-- The slots of a `FETCH` clause, which has no node of its own. -/
def FetchClause.optionalSlots : Option FetchClause → List Tree
  | none => []
  | some ⟨fetchToken, direction, count, rows, only⟩ =>
    [.token fetchToken, .token direction, count.tree, .token rows, .token only]

def OffsetFetch.tree : OffsetFetch → Tree
  | ⟨offsetToken, count, rows, fetch⟩ =>
    .node .offsetFetch (.token offsetToken :: count.tree :: .token rows
      :: FetchClause.optionalSlots fetch)

def OffsetFetch.optionalSlot : Option OffsetFetch → List Tree
  | none => []
  | some o => [o.tree]

end

end TransactSql
