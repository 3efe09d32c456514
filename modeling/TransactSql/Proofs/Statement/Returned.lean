import TransactSql.Proofs.RoundTrip
import TransactSql.Proofs.Statement.Everywhere

/-!
# Statements that are returned

Whatever parser of statements or entry point gives a statement, what the parsers of single
statements ensure holds everywhere in it.
-/

namespace TransactSql

/-- A statement that the parsers of statements or the entry points return, alone or in a script. -/
inductive Statement.Returned : Statement → Prop
  | statement {depth : Nat} {c d : Cursor} {s : Statement} (run : Parser.statement depth c = .ok s d) :
    Returned s
  | statements {depth : Nat} {c d : Cursor} {ss : List Statement} {s : Statement}
    (run : Parser.statements depth c = .ok ss d) (member : s ∈ ss) : Returned s
  | text {text : String} {s : Statement} (parsed : parseStatement text = .ok s) : Returned s
  | textOf {kind : NodeKind} {text : String} {s : Statement}
    (parsed : parseStatementOf kind text = .ok s) : Returned s
  | script {text : String} {ss : List Statement} {s : Statement} (parsed : parseScript text = .ok ss)
    (member : s ∈ ss) : Returned s

theorem parseStatementOf_ok {kind : NodeKind} {text : String} {s : Statement}
    (h : parseStatementOf kind text = .ok s) : parseStatement text = .ok s := by
  unfold parseStatementOf at h
  cases parsed : parseStatement text with
  | error e =>
    rw [parsed] at h
    cases h
  | ok t =>
    rw [parsed] at h
    change (if t.kind = kind then Except.ok t else .error _) = _ at h
    split at h
    · exact h
    · cases h

/-- What the parsers of statements of every depth give, blocks and statements kept as tokens have in
common holds everywhere in a statement that is returned. -/
theorem Statement.Returned.everywhere {Q : Statement → Prop} {s : Statement} (returned : s.Returned)
    (each : ∀ depth, Parser.Returns Q (Parser.statement depth))
    (raw : ∀ tokens terminator, Q (.unmodeled tokens terminator)) (block : ∀ b : Block, Q (.block b)) :
    s.Everywhere Q := by
  have ofText : ∀ {text s}, parseStatement text = .ok s → s.Everywhere Q := by
    intro text s parsed
    obtain ⟨c, _, run, _⟩ := Parser.parseAll_ok parsed
    exact (Parser.topStatement_everywhere each raw block _).holds run
  have several := Parser.statements_everywhere each raw block
  cases returned with
  | statement run => exact (Parser.statement_everywhere each raw block _).holds run
  | statements run member => exact (several _).holds run s member
  | text parsed => exact ofText parsed
  | textOf parsed => exact ofText (parseStatementOf_ok parsed)
  | script parsed member =>
    obtain ⟨c, _, run, _⟩ := Parser.parseAll_ok parsed
    exact (several _).holds run s member

end TransactSql
