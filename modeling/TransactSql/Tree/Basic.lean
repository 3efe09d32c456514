import TransactSql.Token.Basic
import TransactSql.Tree.NodeKind

/-!
# Concrete trees

The uniform view of parsed source: a node has a kind and its slots in source order, each a token
or a node. Tokens, spans and text of a tree are read off its slots.
-/

namespace TransactSql

inductive Tree where
  | token (t : Token)
  | node (kind : NodeKind) (slots : List Tree)
deriving Repr, Inhabited

namespace Tree

mutual

/-- The tokens in source order. Placeholders are left out. -/
def tokens : Tree → List Token
  | .token t => if t.isPlaceholder then [] else [t]
  | .node _ slots => tokensOf slots

def tokensOf : List Tree → List Token
  | [] => []
  | slot :: slots => slot.tokens ++ tokensOf slots

end

/-- One line of the listing of a tree. -/
inductive Entry where
  | node (depth : Nat) (kind : NodeKind)
  | token (depth : Nat) (t : Token)
deriving Repr

mutual

/-- All nodes and token slots, each node before its slots, with their depth. -/
def listing (depth : Nat) : Tree → List Entry
  | .token t => [.token depth t]
  | .node kind slots => .node depth kind :: listingOf (depth + 1) slots

def listingOf (depth : Nat) : List Tree → List Entry
  | [] => []
  | slot :: slots => slot.listing depth ++ listingOf depth slots

end

def slots : Tree → List Tree
  | .token _ => []
  | .node _ slots => slots

mutual

/-- The first token that is no placeholder. -/
def first? : Tree → Option Token
  | .token t => if t.isPlaceholder then none else some t
  | .node _ slots => firstOf? slots

def firstOf? : List Tree → Option Token
  | [] => none
  | slot :: slots => match slot.first? with
    | some t => some t
    | none => firstOf? slots

end

mutual

/-- The last token that is no placeholder. -/
def last? : Tree → Option Token
  | .token t => if t.isPlaceholder then none else some t
  | .node _ slots => lastOf? slots

def lastOf? : List Tree → Option Token
  | [] => none
  | slot :: slots => match lastOf? slots with
    | some t => some t
    | none => slot.last?

end

/-- From the first token to the last, or the zero span if there is none. -/
def span (t : Tree) : Span :=
  match t.first?, t.last? with
  | some first, some last => first.span.merge last.span
  | _, _ => .zero

end Tree

/-! ### Text of token lists -/

/-- The text the tokens were read from, trivia included. -/
def sourceText (ts : List Token) : String := String.join (ts.map Token.source)

/-- Appends the texts of `ts` to `written`. Trivia between two tokens becomes one space;
`apart` tells whether trivia follows what has been written. -/
def appendClean (written : String) (apart : Bool) : List Token → String
  | [] => written
  | t :: ts =>
    if t.text.isEmpty then appendClean written apart ts
    else
      let gap := if !written.isEmpty && (apart || !t.leading.isEmpty) then " " else ""
      appendClean (written ++ gap ++ t.text) (!t.trailing.isEmpty) ts

/-- The texts of the tokens, with one space where there was trivia between two of them. -/
def cleanText (ts : List Token) : String := appendClean "" false ts

namespace Tree

def source (t : Tree) : String := sourceText t.tokens

def clean (t : Tree) : String := cleanText t.tokens

end Tree

end TransactSql
