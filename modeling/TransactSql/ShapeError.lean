import TransactSql.Token.Basic
import TransactSql.Tree.NodeKind

/-!
# Shape errors

Why parts do not make a node, and the checks on token slots that find out.
-/

namespace TransactSql

inductive ShapeError where
  | unexpectedToken (node : NodeKind) (slot expected found : String)
  | emptyList (node : NodeKind) (list : String)
  | separators (node : NodeKind) (items found : Nat)
  | invalid (node : NodeKind) (reason : String)
deriving Repr, DecidableEq

namespace ShapeError

def message : ShapeError → String
  | .unexpectedToken node slot expected found =>
    node.label ++ ": expected " ++ expected ++ " in " ++ slot ++ ", found '" ++ found ++ "'"
  | .emptyList node list => node.label ++ ": " ++ list ++ " must not be empty"
  | .separators node items found =>
    node.label ++ ": " ++ toString items ++ " items need " ++ toString (items - 1)
      ++ " separators, found " ++ toString found
  | .invalid node reason => node.label ++ ": " ++ reason

end ShapeError

/-- The outcome of making a node of parts. -/
abbrev Shaped (α : Type) := Except ShapeError α

namespace Check

/-- Refuses the token of a slot unless it is as expected. -/
def token (node : NodeKind) (slot : String) (t : Token) (expected : String) (ok : Bool) :
    Shaped Unit :=
  if ok then .ok () else .error (.unexpectedToken node slot expected t.text)

def keyword (node : NodeKind) (slot : String) (t : Token) (k : Keyword) : Shaped Unit :=
  token node slot t k.spelling (t.isKeyword k)

/-- A keyword slot that may be absent. -/
def keyword? (node : NodeKind) (slot : String) (t : Option Token) (k : Keyword) : Shaped Unit :=
  match t with
  | some t => keyword node slot t k
  | none => .ok ()

def kind (node : NodeKind) (slot : String) (t : Token) (k : TokenKind) (expected : String) :
    Shaped Unit :=
  token node slot t expected (t.kind == k)

/-- A slot that is filled by a token of the kind or by a placeholder. -/
def optionalKind (node : NodeKind) (slot : String) (t : Token) (k : TokenKind)
    (expected : String) : Shaped Unit :=
  token node slot t expected (t.isPlaceholder || t.kind == k)

def parens (node : NodeKind) (lparen rparen : Token) : Shaped Unit := do
  kind node "open paren" lparen .leftParen "'('"
  kind node "close paren" rparen .rightParen "')'"

/-- Optional parentheses are both present or both absent. -/
def parenPair (node : NodeKind) (lparen rparen : Token) : Shaped Unit := do
  optionalKind node "open paren" lparen .leftParen "'('"
  optionalKind node "close paren" rparen .rightParen "')'"
  if lparen.isPlaceholder == rparen.isPlaceholder then .ok ()
  else .error (.invalid node "parentheses must be paired")

/-- The slot of an optional `;`. -/
def terminator (node : NodeKind) (t : Token) : Shaped Unit :=
  optionalKind node "terminator" t .semicolon "';'"

def identifier (node : NodeKind) (slot : String) (t : Token) : Shaped Unit :=
  token node slot t "identifier" t.isWord

def variableName (node : NodeKind) (slot : String) (t : Token) : Shaped Unit :=
  token node slot t "variable" t.isVariable

/-- The slot of an optional `AS`. -/
def optionalAs (node : NodeKind) (t : Token) : Shaped Unit :=
  token node "as" t "AS" (t.isPlaceholder || t.isKeyword .AS)

end Check

end TransactSql
