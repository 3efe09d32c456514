import TransactSql.Parse
import TransactSql.Edit.Editor

/-!
# Documents

A parsed text of any of the three forms.
-/

namespace TransactSql

/-- What a text is read as. -/
inductive Form where
  | expression | statement | script
deriving Repr, DecidableEq

inductive Document where
  | expression (e : Expr)
  | statement (s : Statement)
  | script (ss : List Statement)

namespace Document

def parse (form : Form) (text : String) : Except Failure Document :=
  match form with
  | .expression => .expression <$> parseExpression text
  | .statement => .statement <$> parseStatement text
  | .script => .script <$> parseScript text

def tree : Document → Tree
  | .expression e => e.tree
  | .statement s => s.tree
  | .script ss => Statement.listTree ss

/-- Edits the document from its root. -/
def edit (v : Editor σ) : Document → StateM σ (Edited Document)
  | .expression e => return .expression <$> (← v.visitExpr e (v.walkExpr e))
  | .statement s => return .statement <$> (← v.visitStatement s (v.walkStatement s))
  | .script ss => return .script <$> (← v.visitStatements ss (v.walkStatements ss))

end Document

end TransactSql
