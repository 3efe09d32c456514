import TransactSql.Parser.Cursor
import TransactSql.Token.Source

/-!
# Cursors on token sources

A cursor that polls its tokens from a source, one ahead of the current one. It keeps the current
token as the source gave it and as the grammar reads it, and a fault as an error token. What can be
done with it can be done with a cursor on a token list.
-/

namespace TransactSql

/-- What can be done with a cursor, apart from looking at it. -/
inductive Cursor.Operation where
  | advance
  | expect (p : Token → Bool) (what : String) (required : Bool)
  | install (message : String)
  | clear
  | setAssignment (assignment : Bool)
  | beginRecording
  | endRecording

structure SourceCursor (σ : Type u) where
  source : σ
  /-- The current token as the source gave it. -/
  rawCurrent : Token
  /-- The current token as the grammar reads it. -/
  normalized : Token
  lookahead : Token
  /-- The error token that is installed. -/
  error : Option Token := none
  /-- Whether `=` is an assignment. -/
  assignment : Bool := false
  /-- How often in a row the end of input was come to, in eight bits. -/
  eofHits : Nat := 0
  /-- The tokens passed over since each recording began, the innermost recording first. -/
  recordings : List (List Token) := []

namespace SourceCursor

open TokenSource

variable [TokenSource σ]

/-- A cursor on the first token of a source. It has polled the second one too, unless the first is
the end of input. -/
def start (s : σ) : SourceCursor σ :=
  let (first, s) := nextToken s
  let (second, s) := if first.isEof then (first, s) else nextToken s
  { source := s, rawCurrent := first, normalized := first, lookahead := second }

/-! ### Reading -/

/-- A token as the grammar reads it in the present context. -/
def normalize (r : SourceCursor σ) (t : Token) : Token := if r.assignment then t.asAssignment else t

/-- The current token as the grammar reads it, or the error token once one is installed. -/
def current (r : SourceCursor σ) : Token := r.error.getD r.normalized

/-- The tokens of the innermost recording. -/
def recorded (r : SourceCursor σ) : List Token := r.recordings.headD []

/-- What an error token says, as a diagnostic. -/
def report (e : Token) : Diagnostic := ⟨[.stated (e.errorMessage?.getD "")], e.span, ""⟩

/-! ### Moving -/

/-- The cursor one token further. It polls the token after that, unless it has polled the end of
input. -/
def step (r : SourceCursor σ) : SourceCursor σ :=
  let (next, source) := if r.lookahead.isEof then (r.lookahead, r.source) else nextToken r.source
  { r with
    source
    rawCurrent := r.lookahead
    normalized := r.normalize r.lookahead
    lookahead := next
    eofHits := if r.lookahead.isEof then 1 else 0
    recordings := r.recordings.map (· ++ [r.rawCurrent]) }

/-- Moves to the next token. The answer is no after an error, and at the end of input from the second
time in a row on. -/
def advance (r : SourceCursor σ) : Bool × SourceCursor σ :=
  if r.error.isSome then (false, r)
  else if r.rawCurrent.isEof then
    let eofHits := min (r.eofHits + 1) 255
    (eofHits < 2, { r with eofHits })
  else (true, r.step)

/-! ### Errors -/

/-- Installs an error at the current token. An error that is there already keeps its place and gets
the message put before its own. -/
def install (r : SourceCursor σ) (message : String) : Diagnostic × SourceCursor σ :=
  let e := match r.error with
    | some e => Token.error (message ++ ": " ++ e.errorMessage?.getD "") e.span
    | none => .error message r.normalized.span
  (report e, { r with error := some e })

/-- Removes the error that is installed. -/
def clear (r : SourceCursor σ) : SourceCursor σ := { r with error := none }

/-- Takes the current token if it satisfies `p`. Otherwise, if it is required, installs an error
that says what was expected. -/
def expect (r : SourceCursor σ) (p : Token → Bool) (what : String) (required : Bool) :
    Option Token × SourceCursor σ :=
  if r.error.isNone && p r.normalized then (some r.normalized, r.advance.2)
  else if required then
    let message := if r.error.isSome then "expected " ++ what
      else "expected " ++ what ++ ", found " ++ r.normalized.describe
    (none, (r.install message).2)
  else (none, r)

/-! ### Context -/

/-- Sets the context and gives the one before. -/
def setAssignment (r : SourceCursor σ) (assignment : Bool) : Bool × SourceCursor σ :=
  (r.assignment, { r with
    assignment
    normalized := if assignment then r.rawCurrent.asAssignment else r.rawCurrent })

def beginRecording (r : SourceCursor σ) : SourceCursor σ :=
  { r with recordings := [] :: r.recordings }

/-- Ends the innermost recording and gives its tokens. -/
def endRecording (r : SourceCursor σ) : List Token × SourceCursor σ :=
  (r.recorded, { r with recordings := r.recordings.tail })

/-! ### Operations in turn -/

def perform (r : SourceCursor σ) : Cursor.Operation → SourceCursor σ
  | .advance => r.advance.2
  | .expect p what required => (r.expect p what required).2
  | .install message => (r.install message).2
  | .clear => r.clear
  | .setAssignment assignment => (r.setAssignment assignment).2
  | .beginRecording => r.beginRecording
  | .endRecording => r.endRecording.2

def run (r : SourceCursor σ) (ops : List Cursor.Operation) : SourceCursor σ := ops.foldl perform r

end SourceCursor

namespace Cursor

def perform (c : Cursor) : Operation → Cursor
  | .advance => c.advance
  | .expect p what required => (c.expect p what required).2
  | .install message => c.install (.stated message)
  | .clear => c.clear
  | .setAssignment assignment => c.setAssignment assignment
  | .beginRecording => c.beginRecording
  | .endRecording => c.endRecording

def run (c : Cursor) (ops : List Operation) : Cursor := ops.foldl perform c

end Cursor

end TransactSql
