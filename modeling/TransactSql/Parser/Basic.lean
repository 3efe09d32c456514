import TransactSql.Parser.Cursor

/-!
# Parsers

A parser moves a cursor and gives a value or a failure. The cursor stays where a failure left it,
so that recovery can see how far the text was read.
-/

namespace TransactSql

abbrev Parser := EStateM Failure Cursor

namespace Parser

/-! ### Looking -/

def current : Parser Token := return (← get).current

def rawCurrent : Parser Token := return (← get).rawCurrent

def lookahead : Parser Token := return (← get).lookahead

def atKind (k : TokenKind) : Parser Bool := return (← current).kind == k

def atKeyword (k : Keyword) : Parser Bool := return (← current).isKeyword k

/-- Whether the current token is the first keyword and the one after it the second. -/
def atKeywords (first second : Keyword) : Parser Bool :=
  return (← current).isKeyword first && (← lookahead).isKeyword second

def atEnd : Parser Bool := return (← current).isEof

/-! ### Taking tokens -/

/-- Takes the current token, whatever it is. -/
def take : Parser Token := modifyGet fun c => (c.current, c.advance)

/-- Takes the current token if it satisfies `p`. -/
def eat (p : Token → Bool) : Parser (Option Token) := modifyGet fun c => c.expect p "" false

def eatKeyword (k : Keyword) : Parser (Option Token) := eat (·.isKeyword k)

def eatAnyKeyword (ks : List Keyword) : Parser (Option Token) := eat (·.isAnyKeyword ks)

def eatKind (k : TokenKind) : Parser (Option Token) := eat (·.kind == k)

/-- Takes as many tokens as `extent` says of the tokens ahead, or none after a fault. -/
def takeRun (extent : List Token → Nat) : Parser (List Token) := modifyGet fun c =>
  if c.fault.isSome then ([], c)
  else
    let n := extent c.ahead
    ((c.ahead.take n).map c.normalize, c.skip n)

/-- The optional `;`, or a placeholder. -/
def terminator : Parser Token := return (← eatKind .semicolon).getD .placeholder

/-- The optional `AS`, or a placeholder. -/
def optionalAs : Parser Token := return (← eatKeyword .AS).getD .placeholder

/-! ### Failing -/

/-- Installs a fault at the current token and fails with it. -/
def fail (f : Fault) : Parser α := fun c => .error (.grammar (c.diagnose f)) (c.install f)

/-- Fails because the current token is not what was expected. -/
def failExpected (what : String) : Parser α := do
  fail (.expectedFound what (← current).describe)

/-- Fails at an error token: with the fault that is installed, else with the token's message. -/
def failAtError : Parser α := do
  match (← get).fault with
  | some d => throw (.grammar d)
  | none => fail (.stated (← current).describe)

/-- Takes a token that has to satisfy `p`. -/
def require (p : Token → Bool) (what : String) : Parser Token := fun c =>
  match c.expect p what true with
  | (some t, c) => .ok t c
  | (none, c) => .error (.grammar (c.fault.getD ⟨[], c.rawCurrent.span, ""⟩)) c

def keyword (k : Keyword) : Parser Token := require (·.isKeyword k) k.spelling

def kind (k : TokenKind) (what : String) : Parser Token := require (·.kind == k) what

def word (what : String) : Parser Token := require Token.isWord what

/-- A word that is not reserved. -/
def identifier (what : String) : Parser Token :=
  require (fun t => t.isWord && !t.isReserved) what

def variableName : Parser Token := require Token.isVariable "variable"

def leftParen : Parser Token := kind .leftParen "'('"

def rightParen : Parser Token := kind .rightParen "')'"

/-- Makes a node of parts that have been read. -/
def build (made : Shaped α) : Parser α :=
  match made with
  | .ok a => pure a
  | .error e => throw (.shape e)

/-- Fails unless all tokens have been read. -/
def expectEnd : Parser Unit := do
  if ← atEnd then return
  match (← get).fault with
  | some d => throw (.grammar d)
  | none => failExpected "end of input"

/-! ### Control -/

/-- The outcome of a parser as a value. -/
def attempt (p : Parser α) : Parser (Except Failure α) := fun c =>
  match p c with
  | .ok a c => .ok (.ok a) c
  | .error e c => .ok (.error e) c

/-- Adds what a grammar fault in `p` led to. -/
def context (f : Fault) (p : Parser α) : Parser α := fun c =>
  match p c with
  | .error (.grammar _) c => fail f c
  | reply => reply

/-- Runs `p` with `=` read as an assignment or as a comparison, and returns to the context
before. -/
def withAssignment (assignment : Bool) (p : Parser α) : Parser α := fun c =>
  match p (c.setAssignment assignment) with
  | .ok a d => .ok a (d.setAssignment c.assignment)
  | .error e d => .error e (d.setAssignment c.assignment)

/-- Runs `p` inside a recording of its own, which ends with it. -/
def recording (p : Parser α) : Parser α := fun c =>
  match p c.beginRecording with
  | .ok a d => .ok a d.endRecording
  | .error e d => .error e d.endRecording

/-- Up to `limit` rounds of `step`, which gives the next state or stops. -/
def rounds (step : σ → Parser (Option σ)) : (limit : Nat) → σ → Parser σ
  | 0, s => pure s
  | limit + 1, s => do
    match ← step s with
    | none => pure s
    | some s => rounds step limit s

/-- Runs `step` until it stops. A round that goes on has read a token, so there is at most one
more round than tokens. -/
def loop (step : σ → Parser (Option σ)) (s : σ) : Parser σ := do
  rounds step ((← get).ahead.length + 1) s

/-- Items behind commas, added to those read before. -/
def commaItem (item : Parser α) (read : List α × List Token) :
    Parser (Option (List α × List Token)) := do
  match ← eatKind .comma with
  | none => return none
  | some comma => return some (read.1 ++ [← item], read.2 ++ [comma])

/-- The items that follow `first`, each behind a comma, and the commas. -/
def commaTail (first : α) (item : Parser α) : Parser (List α × List Token) :=
  loop (commaItem item) ([first], [])

/-- Items with commas between them. -/
def commaSeparated (item : Parser α) : Parser (List α × List Token) := do
  commaTail (← item) item

end Parser

end TransactSql
