import TransactSql.Span
import TransactSql.Text.Escaped
import TransactSql.Text.Quoted
import TransactSql.Token.Kind
import TransactSql.Token.Trivia

/-!
# Tokens

A token keeps its exact source text and the trivia around it, so that a token list reproduces
the text it was read from.
-/

namespace TransactSql

structure Token where
  kind : TokenKind
  text : String
  span : Span
  leading : List Trivia := []
  trailing : List Trivia := []
deriving Repr, DecidableEq, Inhabited

/-- Properties of a token that follow from its kind. -/
inductive TokenFlag where
  | reserved | quoted | variable | systemVariable | temporary | comparison | assignment
deriving Repr, DecidableEq, Inhabited

namespace Token

/-! ### Construction -/

/-- A word, classed by its text. -/
def word (text : String) (span : Span) : Token := ⟨.word (.ofText text), text, span, [], []⟩

/-- An error has a message and no text. -/
def error (message : String) (span : Span) : Token := ⟨.error message, "", span, [], []⟩

def eof (span : Span) : Token := ⟨.eof, "", span, [], []⟩

def placeholder : Token := ⟨.placeholder, "", .zero, [], []⟩

/-- The token of a named kind. End of input and placeholders have no text of their own. -/
def ofName? (kindName text : String) (span : Span) : Option Token :=
  (TokenKind.ofName? kindName text).map fun
    | .error message => error message span
    | .eof => eof span
    | .placeholder => placeholder
    | kind => ⟨kind, text, span, [], []⟩

def withTrivia (t : Token) (leading trailing : List Trivia) : Token :=
  { t with leading, trailing }

/-- Reads `=` as an assignment. -/
def asAssignment (t : Token) : Token :=
  if t.kind = .comparison .eq then { t with kind := .assignment none } else t

/-! ### Classification -/

def keyword? (t : Token) : Option Keyword := t.kind.keyword?

def isKeyword (t : Token) (k : Keyword) : Bool := t.keyword? == some k

def isAnyKeyword (t : Token) (ks : List Keyword) : Bool := t.keyword?.any ks.contains

def isWord (t : Token) : Bool := t.kind.isWord

def isPlaceholder (t : Token) : Bool := t.kind == .placeholder

def isEof (t : Token) : Bool := t.kind == .eof

def isError (t : Token) : Bool := t.kind.isError

def hasFlag (t : Token) : TokenFlag → Bool
  | .reserved => match t.kind with
    | .word w => w.isReserved
    | _ => false
  | .quoted => t.kind == .word .quoted
  | .variable => match t.kind with
    | .word w => w.isVariable
    | _ => false
  | .systemVariable => t.kind == .word .systemVariable
  | .temporary => t.kind == .word .temporary
  | .comparison => t.kind.isComparison
  | .assignment => t.kind.isAssignment

def isReserved (t : Token) : Bool := t.hasFlag .reserved

def isVariable (t : Token) : Bool := t.hasFlag .variable

/-- A word that can stand as a bare name: neither reserved nor a variable. -/
def isPlainIdentifier (t : Token) : Bool := t.isWord && !t.isReserved && !t.isVariable

/-- Whether an expression may begin with the token. -/
def startsExpression (t : Token) : Bool :=
  match t.kind with
  | .word w => w.keyword?.all Keyword.startsExpression
  | .arithmetic .plus | .arithmetic .minus | .arithmetic .star | .tilde | .leftParen => true
  | kind => kind.isLiteral

/-! ### Text -/

/-- The canonical value: delimited words lose their delimiters and strings their quotes. -/
def value (t : Token) : String :=
  match t.kind, t.text.toList with
  | .word _, '[' :: cs => .ofList (Text.unquote '[' ']' ('[' :: cs))
  | .word _, '"' :: cs => .ofList (Text.unquote '"' '"' ('"' :: cs))
  | .literal .string, cs => .ofList (Text.unquote '\'' '\'' cs)
  | .literal .nationalString, c :: cs =>
    .ofList (Text.unquote '\'' '\'' (if c.utf8Size = 1 then cs else c :: cs))
  | _, _ => t.text

/-- The text with all its trivia. -/
def source (t : Token) : String :=
  String.join (t.leading.map Trivia.text) ++ t.text ++ String.join (t.trailing.map Trivia.text)

/-- How messages speak of the token. -/
def describe (t : Token) : String :=
  match t.kind with
  | .eof => "end of input"
  | .placeholder => "nothing"
  | .error message => message
  | _ => "'" ++ t.text ++ "'"

def errorMessage? (t : Token) : Option String :=
  match t.kind with
  | .error message => some message
  | _ => none

/-- Kind, text and span on one line, and the message of an error. -/
def inspect (t : Token) : String :=
  t.kind.name ++ "(" ++ Text.escaped t.text ++ ")@" ++ toString t.span.start ++ ".."
    ++ toString t.span.stop ++ (t.errorMessage?.map (" " ++ Text.escaped ·)).getD ""

end Token

namespace TokenFlag

def all : List TokenFlag :=
  [.reserved, .quoted, .variable, .systemVariable, .temporary, .comparison, .assignment]

def name : TokenFlag → String
  | .reserved => "RESERVED"
  | .quoted => "QUOTED"
  | .variable => "VARIABLE"
  | .systemVariable => "SYSTEM_VARIABLE"
  | .temporary => "TEMPORARY"
  | .comparison => "COMPARISON"
  | .assignment => "ASSIGNMENT"

end TokenFlag

def Token.flags (t : Token) : List TokenFlag := TokenFlag.all.filter t.hasFlag

end TransactSql
