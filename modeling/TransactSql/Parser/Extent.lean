import TransactSql.Parser.Basic

/-!
# Extents of tokens kept raw

How far regions go whose tokens are taken without a look at their structure.
-/

namespace TransactSql

/-- The number of parentheses left open by tokens that have been read. -/
def openParens (ts : List Token) : Nat :=
  ts.foldl (fun depth t => match t.kind with
    | .leftParen => depth + 1
    | .rightParen => depth - 1
    | _ => depth) 0

/-- The number of tokens before the `)` that closes a parenthesis, with `depth` more open. -/
def closingDistance? : (depth : Nat) → List Token → Option Nat
  | _, [] => none
  | depth, t :: ts =>
    match t.kind, depth with
    | .rightParen, 0 => some 0
    | .rightParen, depth + 1 => (closingDistance? depth ts).map (· + 1)
    | .leftParen, depth => (closingDistance? (depth + 1) ts).map (· + 1)
    | _, depth => (closingDistance? depth ts).map (· + 1)

/-- The number of tokens up to the first that satisfies `stop`, an error or a `;`. -/
def rawExtent (stop : Token → Bool) (ts : List Token) : Nat :=
  (ts.takeWhile fun t => !(t.isError || t.kind == .semicolon || stop t)).length

namespace Parser

/-- Clears any fault and reads on to the `)` that closes the parenthesis opened just before the
present recording. Gives the recorded tokens and the `)`. -/
def readToCloseParen : Parser (List Token × Token) := do
  modify Cursor.clear
  let c ← get
  match closingDistance? (openParens c.recorded) c.ahead with
  | none =>
    modify (·.skip c.ahead.length)
    fail (.missing "')'")
  | some n =>
    modify (·.skip n)
    return ((← get).recorded, ← take)

/-- Clears any fault and reads all tokens. Gives those of the present recording, with a final
`;` apart. -/
def readToEnd : Parser (List Token × Option Token) := do
  modify fun c => c.clear.skip c.ahead.length
  let tokens := (← get).recorded
  match tokens.getLast? with
  | some t =>
    if t.kind = .semicolon then return (tokens.dropLast, some t) else return (tokens, none)
  | none => return (tokens, none)

end Parser

end TransactSql
