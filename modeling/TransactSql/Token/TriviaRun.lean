import TransactSql.Text.Blank
import TransactSql.Token.Trivia

/-!
# Runs of trivia

How much trivia a text starts with. A piece is measured in characters and then cut off, so a
run and what follows it always make up the text.
-/

namespace TransactSql

namespace Trivia

/-- Characters up to the end of a block comment with `depth` pairs open. Pairs nest, and a
comment that is never closed takes all. -/
def blockCommentLength : (depth : Nat) → List Char → Nat
  | 0, _ => 0
  | _ + 1, [] => 0
  | depth + 1, '*' :: '/' :: cs => blockCommentLength depth cs + 2
  | depth + 1, '/' :: '*' :: cs => blockCommentLength (depth + 2) cs + 2
  | depth + 1, _ :: cs => blockCommentLength (depth + 1) cs + 1

/-- Kind and length of the piece of trivia the text starts with. -/
def measure? : List Char → Option (TriviaKind × Nat)
  | [] => none
  | '\n' :: _ => some (.newline, 1)
  | '\r' :: '\n' :: _ => some (.newline, 2)
  | '\r' :: _ => some (.newline, 1)
  | '-' :: '-' :: cs => some (.lineComment, (cs.takeWhile (!Text.isLineEnd ·)).length + 2)
  | '/' :: '*' :: cs => some (.blockComment, blockCommentLength 1 cs + 2)
  | c :: cs =>
    if Text.isBlank c then
      some (.whitespace, (cs.takeWhile fun d => Text.isBlank d && !Text.isLineEnd d).length + 1)
    else none

/-- At most `limit` pieces of trivia and what follows them. Within a line, a newline is the
last piece. -/
def pieces (withinLine : Bool) : (limit : Nat) → List Char → List Trivia × List Char
  | 0, cs => ([], cs)
  | limit + 1, cs =>
    match measure? cs with
    | none => ([], cs)
    | some (kind, n) =>
      let piece : Trivia := ⟨kind, .ofList (cs.take n)⟩
      if withinLine && kind == .newline then ([piece], cs.drop n)
      else
        let (more, rest) := pieces withinLine limit (cs.drop n)
        (piece :: more, rest)

/-- The trivia the text starts with, and the rest. No piece is empty, so there are no more
pieces than characters. -/
def run (cs : List Char) : List Trivia × List Char := pieces false cs.length cs

/-- The trivia up to and including the next newline, and the rest. -/
def lineRun (cs : List Char) : List Trivia × List Char := pieces true cs.length cs

end Trivia

end TransactSql
