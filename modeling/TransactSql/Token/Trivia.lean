/-!
# Trivia

Source text between tokens that the grammar ignores.
-/

namespace TransactSql

inductive TriviaKind where
  | whitespace | newline | lineComment | blockComment
deriving Repr, DecidableEq, Inhabited

structure Trivia where
  kind : TriviaKind
  text : String
deriving Repr, DecidableEq, Inhabited

def TriviaKind.name : TriviaKind → String
  | .whitespace => "Whitespace"
  | .newline => "Newline"
  | .lineComment => "LineComment"
  | .blockComment => "BlockComment"

def Trivia.isComment (t : Trivia) : Bool :=
  t.kind == .lineComment || t.kind == .blockComment

end TransactSql
