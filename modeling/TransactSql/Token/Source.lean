import TransactSql.Token.Basic

/-!
# Token sources

Where a cursor gets its tokens from, one at a time.
-/

namespace TransactSql

/-- A producer of tokens. A poll gives the next token and the source behind it. Behind the tokens of
an input comes the end of input, at every further poll again. -/
class TokenSource (σ : Type u) where
  nextToken : σ → Token × σ

namespace TokenSource

/-- The tokens of a list, then an empty end of input. -/
instance : TokenSource (List Token) where
  nextToken
    | [] => (.eof .zero, [])
    | t :: ts => (t, ts)

/-- What the next `n` polls give. -/
def upcoming [TokenSource σ] : (n : Nat) → σ → List Token
  | 0, _ => []
  | n + 1, s =>
    let (t, s) := nextToken s
    t :: upcoming n s

end TokenSource

end TransactSql
