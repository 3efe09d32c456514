import TransactSql.Text.Alphanumeric
import TransactSql.Token.Basic

/-!
# Lexemes

Which token a text starts with and how many characters it takes. Every lexeme takes at least
one character.
-/

namespace TransactSql

/-- Texts that are no tokens. -/
inductive LexicalFault where
  | unexpected (c : Char)
  | unterminated (what : String)
deriving Repr, DecidableEq

def LexicalFault.message : LexicalFault → String
  | .unexpected c => "Unexpected character: " ++ c.toString
  | .unterminated what => "Unterminated " ++ what

inductive Lexeme where
  /-- A word, to be classed by its text. -/
  | word
  | symbol (kind : TokenKind)
  | fault (cause : LexicalFault)
deriving Repr, DecidableEq

namespace Lexeme

/-- The characters that may follow the first one of a word. -/
def isWordChar (c : Char) : Bool :=
  Text.isAlphanumeric c || c == '_' || c == '@' || c == '#' || c == '$'

/-- The characters a word may start with. -/
def isWordStart (c : Char) : Bool :=
  Text.isAlphabetic c || c == '_' || c == '@' || c == '#'

def isHexDigit (c : Char) : Bool :=
  c.isDigit || ('a' ≤ c && c ≤ 'f') || ('A' ≤ c && c ≤ 'F')

/-- The length of the longest part at the front whose characters all satisfy `p`. -/
def runLength (p : Char → Bool) (cs : List Char) : Nat := (cs.takeWhile p).length

/-! ### Delimited lexemes -/

/-- Characters up to and including the closing delimiter. A doubled delimiter does not close. -/
def closingLength? (closing : Char) : List Char → Option Nat
  | [] => none
  | [c] => if c = closing then some 1 else none
  | c :: d :: cs =>
    if c = closing then
      if d = closing then (closingLength? closing cs).map (· + 2) else some 1
    else (closingLength? closing (d :: cs)).map (· + 1)

/-- A lexeme whose opening, of `n` characters, is followed by `cs`. Without an end it takes all
of the text. -/
def delimited (found : Lexeme) (what : String) (closing : Char) (n : Nat) (cs : List Char) :
    Lexeme × Nat :=
  match closingLength? closing cs with
  | some m => (found, n + m)
  | none => (.fault (.unterminated what), n + cs.length)

def stringLiteral (form : LiteralForm) (n : Nat) (cs : List Char) : Lexeme × Nat :=
  delimited (.symbol (.literal form)) "string literal" '\'' n cs

/-! ### Numbers -/

/-- The length of an exponent: a letter, then a sign or a digit, then more digits. -/
def exponentLength : List Char → Nat
  | e :: c :: cs =>
    if (e == 'e' || e == 'E') && (c == '+' || c == '-' || c.isDigit) then
      runLength Char.isDigit cs + 2
    else 0
  | _ => 0

/-- Digits, then a point and digits, then an exponent, the last two being optional. -/
def number (cs : List Char) : LiteralForm × Nat :=
  let whole := runLength Char.isDigit cs
  let (form, n) : LiteralForm × Nat := match cs.drop whole with
    | '.' :: fraction => (.decimal, whole + 1 + runLength Char.isDigit fraction)
    | _ => (.integer, whole)
  match exponentLength (cs.drop n) with
  | 0 => (form, n)
  | exponent => (.float, n + exponent)

/-! ### All lexemes -/

/-- A symbol of two characters if `second` follows, else of one. -/
def either (second : Char) (long short : TokenKind) : List Char → Lexeme × Nat
  | c :: _ => if c = second then (.symbol long, 2) else (.symbol short, 1)
  | [] => (.symbol short, 1)

/-- An operator, or its compound assignment. -/
def operator (op : Arithmetic) : List Char → Lexeme × Nat :=
  either '=' (.assignment (some op)) (.arithmetic op)

/-- The lexeme of a text that starts with `c` and goes on with `cs`. -/
def measure (c : Char) (cs : List Char) : Lexeme × Nat :=
  match c, cs with
  | '(', _ => (.symbol .leftParen, 1)
  | ')', _ => (.symbol .rightParen, 1)
  | ',', _ => (.symbol .comma, 1)
  | ';', _ => (.symbol .semicolon, 1)
  | '~', _ => (.symbol .tilde, 1)
  | '=', _ => (.symbol (.comparison .eq), 1)
  | '+', _ => operator .plus cs
  | '-', _ => operator .minus cs
  | '*', _ => operator .star cs
  | '/', _ => operator .slash cs
  | '%', _ => operator .percent cs
  | '&', _ => operator .amp cs
  | '|', _ => operator .pipe cs
  | '^', _ => operator .caret cs
  | ':', _ => either ':' .doubleColon .colon cs
  | '<', '=' :: _ => (.symbol (.comparison .ltEq), 2)
  | '<', '>' :: _ => (.symbol (.comparison .notEq), 2)
  | '<', _ => (.symbol (.comparison .lt), 1)
  | '>', _ => either '=' (.comparison .gtEq) (.comparison .gt) cs
  | '!', '=' :: _ => (.symbol (.comparison .notEq), 2)
  | '!', '<' :: _ => (.symbol (.comparison .notLt), 2)
  | '!', '>' :: _ => (.symbol (.comparison .notGt), 2)
  | '\'', _ => stringLiteral .string 1 cs
  | 'N', '\'' :: rest => stringLiteral .nationalString 2 rest
  | 'n', '\'' :: rest => stringLiteral .nationalString 2 rest
  | '[', _ => delimited .word "bracketed identifier" ']' 1 cs
  | '"', _ => delimited .word "quoted identifier" '"' 1 cs
  | '0', 'x' :: rest => (.symbol (.literal .binary), 2 + runLength isHexDigit rest)
  | '0', 'X' :: rest => (.symbol (.literal .binary), 2 + runLength isHexDigit rest)
  | '.', d :: _ => if d.isDigit then numeric else (.symbol .dot, 1)
  | '.', [] => (.symbol .dot, 1)
  | '@', d :: _ => if isWordChar d then wordLike else unexpected
  | '@', [] => unexpected
  | _, _ => if c.isDigit then numeric else if isWordStart c then wordLike else unexpected
where
  numeric : Lexeme × Nat :=
    let (form, n) := number (c :: cs)
    (.symbol (.literal form), n)
  wordLike : Lexeme × Nat := (.word, 1 + runLength isWordChar cs)
  unexpected : Lexeme × Nat := (.fault (.unexpected c), 1)

/-- The token a lexeme stands for. The text of a fault is not kept. -/
def token (text : String) (span : Span) : Lexeme → Token
  | .word => .word text span
  | .symbol kind => ⟨kind, text, span, [], []⟩
  | .fault cause => .error cause.message span

end Lexeme

end TransactSql
