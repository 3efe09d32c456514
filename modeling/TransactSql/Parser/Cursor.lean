import TransactSql.Failure
import TransactSql.Token.Lex

/-!
# Cursors

A place in a token list, with the state that grammar rules share: the fault that stopped them,
whether `=` is read as an assignment, and the tokens being recorded. Once a fault is installed
the cursor stands still until it is cleared.
-/

namespace TransactSql

structure Cursor where
  /-- The tokens from the current one on, without the end of input. -/
  ahead : List Token
  /-- The end of input. -/
  eof : Token
  fault : Option Diagnostic := none
  /-- Whether `=` is an assignment. -/
  assignment : Bool := false
  /-- The tokens passed over since each recording began, the innermost recording first. -/
  recordings : List (List Token) := []
deriving Repr

namespace Cursor

/-- A cursor on the first token of a list. The list ends at its first end of input. -/
def ofTokens (ts : List Token) : Cursor where
  ahead := ts.takeWhile (!·.isEof)
  eof := (ts.find? Token.isEof).getD (.eof .zero)

def ofText (text : String) : Cursor := ofTokens (lex text)

/-! ### Reading -/

/-- The current token as it stands in the list. -/
def rawCurrent (c : Cursor) : Token := c.ahead.headD c.eof

/-- The token after the current one, as it stands in the list. -/
def lookahead (c : Cursor) : Token := c.ahead.tail.headD c.eof

/-- A token as the grammar reads it in the present context. -/
def normalize (c : Cursor) (t : Token) : Token := if c.assignment then t.asAssignment else t

/-- The current token as the grammar reads it, or an error token once a fault is installed. -/
def current (c : Cursor) : Token :=
  match c.fault with
  | some d => .error d.message d.span
  | none => c.normalize c.rawCurrent

/-- The tokens of the innermost recording. -/
def recorded (c : Cursor) : List Token := c.recordings.headD []

/-! ### Moving -/

/-- Passes over `n` tokens, or stays if a fault is installed. -/
def skip (c : Cursor) (n : Nat) : Cursor :=
  match c.fault with
  | some _ => c
  | none =>
    { c with
      ahead := c.ahead.drop n
      recordings := c.recordings.map (· ++ c.ahead.take n) }

/-- The cursor on the next token, unless a fault is installed or there is none. -/
def advance? (c : Cursor) : Option Cursor :=
  if c.fault.isSome || c.ahead.isEmpty then none else some (c.skip 1)

def advance (c : Cursor) : Cursor := c.advance?.getD c

/-! ### Faults -/

/-- The diagnostic of a fault at the current token. A fault that is there already keeps its place
and becomes the cause of the new one. -/
def diagnose (c : Cursor) (f : Fault) : Diagnostic :=
  match c.fault with
  | some d => { d with faults := f :: d.faults }
  | none => ⟨[f], c.rawCurrent.span, ""⟩

/-- Installs a fault at the current token. -/
def install (c : Cursor) (f : Fault) : Cursor := { c with fault := some (c.diagnose f) }

/-- Removes the fault that is installed. -/
def clear (c : Cursor) : Cursor := { c with fault := none }

/-- Takes the current token if it satisfies `p`. Otherwise, if it is required, installs a fault
that says what was expected. -/
def expect (c : Cursor) (p : Token → Bool) (what : String) (required : Bool) :
    Option Token × Cursor :=
  if c.fault.isNone && p c.current then (some c.current, c.advance)
  else if required then
    let f := if c.fault.isSome then .expected what else .expectedFound what c.current.describe
    (none, c.install f)
  else (none, c)

/-! ### Context -/

def setAssignment (c : Cursor) (assignment : Bool) : Cursor := { c with assignment }

def beginRecording (c : Cursor) : Cursor := { c with recordings := [] :: c.recordings }

def endRecording (c : Cursor) : Cursor := { c with recordings := c.recordings.tail }

end Cursor

end TransactSql
