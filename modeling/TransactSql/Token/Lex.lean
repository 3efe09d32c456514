import TransactSql.Token.Lexeme
import TransactSql.Token.TriviaRun

/-!
# Lexing

A text as its tokens. Trivia up to the end of the line belongs to the token before it, the rest
to the token after it; trivia that nothing follows belongs to the last token.
-/

namespace TransactSql

/-- The bytes that pieces of trivia take. -/
def Trivia.byteLength : List Trivia → Nat
  | [] => 0
  | t :: pieces => Text.byteLength t.text.toList + Trivia.byteLength pieces

/-- The token that starts a text at a byte offset, with the trivia read before it, and what
follows its trailing trivia. -/
def lexToken (leading : List Trivia) (offset : Nat) (c : Char) (cs : List Char) :
    Token × List Char :=
  let (lexeme, n) := Lexeme.measure c cs
  let taken := (c :: cs).take n
  let token := lexeme.token (.ofList taken) ⟨offset, offset + Text.byteLength taken⟩
  let (trailing, rest) := Trivia.lineRun ((c :: cs).drop n)
  match Trivia.run rest with
  | (final, []) => (token.withTrivia leading (trailing ++ final), [])
  | _ => (token.withTrivia leading trailing, rest)

/-- At most `limit` tokens of a text that starts at a byte offset. -/
def lexTokens : (limit : Nat) → (offset : Nat) → List Char → List Token
  | 0, _, _ => []
  | limit + 1, offset, cs =>
    let (leading, rest) := Trivia.run cs
    let start := offset + Trivia.byteLength leading
    match rest with
    | [] => [(Token.eof (.emptyAt start)).withTrivia leading []]
    | c :: rest =>
      let (token, after) := lexToken leading start c rest
      token :: lexTokens limit (token.span.stop + Trivia.byteLength token.trailing) after

/-- The tokens of a text, the last being the end of input. Each other token takes a character,
so there is at most one more token than characters. -/
def lex (text : String) : List Token :=
  let cs := text.toList
  lexTokens (cs.length + 1) 0 cs

end TransactSql
