import TransactSql.Document

/-!
# Edit rules

Rules that replace, rename or drop parts of a document, and a log of where a rule was asked.
-/

namespace TransactSql

/-- Which nodes a rule applies to; what is not given is not asked for. -/
structure NodePattern where
  /-- The label of the kind. -/
  kind : Option String := none
  /-- The clean text. -/
  clean : Option String := none
deriving Repr, DecidableEq

/-- Whether a node is tested before its parts are edited, or after. -/
inductive RuleOrder where
  | before | after
deriving Repr, DecidableEq

inductive Rule where
  | identity
  | replaceExpr (pattern : NodePattern) (order : RuleOrder) (text : String)
  | replaceStatement (pattern : NodePattern) (order : RuleOrder) (text : String)
  /-- Replaces every block by a statement. -/
  | replaceBlock (text : String)
  | replaceType (name text : String)
  /-- Replaces literals by their text. -/
  | replaceLiteral (old new : String)
  /-- Replaces words of names by their value. -/
  | rename (old new : String)
  /-- Drops the statements of a kind, given by its label. -/
  | dropStatements (kind : String)
  /-- Drops the parentheses around all but queries. -/
  | unparen
deriving Repr, DecidableEq

/-- A place at which a rule was asked. -/
inductive Visit where
  | expr (kind : NodeKind)
  | statement (kind : NodeKind)
  | dataType (name : String)
  | block
  | statements (count : Nat)
deriving Repr, DecidableEq

def Visit.describe : Visit → String
  | .expr kind => "expr " ++ kind.label
  | .statement kind => "stmt " ++ kind.label
  | .dataType name => "type " ++ name
  | .block => "block"
  | .statements count => "statements " ++ toString count

def NodePattern.matches (p : NodePattern) (t : Tree) : Bool :=
  (match t with
    | .node kind _ => p.kind.all (· == kind.label)
    | .token _ => p.kind.isNone)
  && p.clean.all (· == t.clean)

namespace Rule

/-! ### Hooks -/

/-- Replaces the nodes a pattern matches. -/
def replacing (tree : α → Tree) (pattern : NodePattern) (order : RuleOrder) (new : α) :
    Hook σ α := fun a walk => do
  match order with
  | .before => if pattern.matches (tree a) then return some new else walk
  | .after =>
    let edit ← walk
    return if pattern.matches (tree (edit.getD a)) then some new else edit

/-- The literal with its text replaced. The old one is kept if the new text is no literal. -/
def replaceToken (new : Option Token) (old : Token) : Option Expr := do
  let new ← new
  (Checked.literal { new with
    span := old.span, leading := old.leading, trailing := old.trailing }).toOption

/-- The name with a word replaced wherever it occurs. -/
def renameWords (old new : String) (n : Name) : Option Expr :=
  if n.words.any (·.value == old) then
    let rename (t : Token) : Token :=
      if t.kind != .dot && t.value == old then
        (Token.word new t.span).withTrivia t.leading t.trailing
      else t
    .name <$> (Checked.name (n.parts.map rename)).toOption
  else none

/-- The inner expression of parentheses, unless it is a query. -/
def withoutParens : Expr → Option Expr
  | .paren _ inner _ => if inner.isQuery then none else some inner
  | _ => none

/-- The data type that a text stands for, as it is read in a cast. -/
def parseType (text : String) : Except Failure DataType := do
  match ← parseExpression ("cast(x as " ++ text ++ ")") with
  | .cast _ _ _ _ type _ => return type
  | e => throw (.mismatch .cast e.kind)

/-- Whether a statement is of the kind with the given label. -/
def hasLabel (label : String) (s : Statement) : Bool := s.kind.label == label

/-- The editor of a rule. Texts to be put in have to parse. -/
def editor : Rule → Except Failure (Editor σ)
  | .identity => return {}
  | .replaceExpr pattern order text => do
    return { expr := replacing Expr.tree pattern order (← parseExpression text) }
  | .replaceStatement pattern order text => do
    return { statement := replacing Statement.tree pattern order (← parseStatement text) }
  | .replaceBlock text => do
    let new ← parseStatement text
    return { statementNode := fun s walk => match s with
      | .block _ => return some new
      | _ => walk }
  | .replaceType name text => do
    let new ← parseType text
    return { dataType := fun t walk => if t.name = name then return some new else walk }
  | .replaceLiteral old new =>
    return { exprNode := fun e walk => match e with
      | .literal t => return if t.text = old then replaceToken (lex new).head? t else none
      | _ => walk }
  | .rename old new =>
    return { exprNode := fun e walk => match e with
      | .name n => return renameWords old new n
      | _ => walk }
  | .dropStatements kind =>
    return { statements := fun ss walk => do
      let edit ← walk
      let after := edit.getD ss
      return if after.any (hasLabel kind) then some (after.filter (!hasLabel kind ·)) else edit }
  | .unparen =>
    return { exprNode := fun e walk => do
      let edit ← walk
      return match withoutParens (edit.getD e) with
        | some inner => some inner
        | none => edit }

end Rule

namespace Editor

/-- Notes each place before the hook runs there. -/
def noting (visit : α → Option Visit) (hook : Hook (Array Visit) α) : Hook (Array Visit) α :=
  fun a walk => do
    if let some place := visit a then modify (·.push place)
    hook a walk

/-- The editor with a log of the places it is asked at. -/
def logged (v : Editor (Array Visit)) : Editor (Array Visit) where
  expr := noting (fun e => some (.expr e.kind)) v.expr
  exprNode := v.exprNode
  dataType := noting (fun t => some (.dataType t.name)) v.dataType
  dataTypeNode := v.dataTypeNode
  statement := noting (fun s => some (.statement s.kind)) v.statement
  statementNode := noting (fun s => if s.kind = .blockStmt then some .block else none)
    v.statementNode
  statements := noting (fun ss => some (.statements ss.length)) v.statements

end Editor

/-- What one rule did to a document. -/
structure Revision where
  document : Edited Document
  visited : List Visit

/-- Applies rules in turn, each to what the one before left. -/
def Document.revise : List Rule → Document → Except Failure (List Revision)
  | [], _ => return []
  | rule :: rules, d => do
    let v ← rule.editor
    let (document, visited) := (d.edit v.logged).run #[]
    return { document, visited := visited.toList } :: (← revise rules document.value)

end TransactSql
