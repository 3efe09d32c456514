/-!
# Quoted text

Text between delimiters, where a closing delimiter inside the text is written twice.
-/

namespace TransactSql.Text

/-- Writes every `q` twice. -/
def double (q : Char) : List Char → List Char
  | [] => []
  | c :: cs => if c = q then q :: q :: double q cs else c :: double q cs

/-- Reads every pair of `q` as one. -/
def undouble (q : Char) : List Char → List Char
  | c :: d :: cs => if c = q ∧ d = q then q :: undouble q cs else c :: undouble q (d :: cs)
  | cs => cs

def quote (opening closing : Char) (cs : List Char) : List Char :=
  opening :: double closing cs ++ [closing]

/-- What stands between the delimiters, or the whole text if it lacks one of them. -/
def stripDelimiters (opening closing : Char) : List Char → List Char
  | [] => []
  | c :: cs => if c = opening ∧ cs.getLast? = some closing then cs.dropLast else c :: cs

def unquote (opening closing : Char) (cs : List Char) : List Char :=
  undouble closing (stripDelimiters opening closing cs)

end TransactSql.Text
