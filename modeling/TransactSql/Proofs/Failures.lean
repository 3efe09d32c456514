import TransactSql.Proofs.Grammar.StatementSettling
import TransactSql.Proofs.RoundTrip

/-!
# Why texts are refused

The grammar hands to the checked construction of a node only parts that fit it. So a text that is
refused does not follow the grammar, apart from two causes that its tokens show: the words of
external code, and an error of the lexer among tokens kept raw.
-/

namespace TransactSql

/-- Why a text may be refused. That it is a statement of another kind than asked for is no reason. -/
inductive Failure.Explained (text : String) : Failure → Prop
  | grammar (d : Diagnostic) : Explained text (.grammar d)
  | shape {t : Token} (member : t ∈ lex text) (error : t.isError = true) :
    Explained text (.shape (.unexpectedToken .rawTokens "tokens" "source token" "Error"))
  | unsupported (what : String) {a b : Token} (adjacent : [a, b] <:+: lex text)
    (external : a.isKeyword .EXTERNAL = true) (name : b.isKeyword .NAME = true) :
    Explained text (.unsupported what)

theorem Failure.Explained.withSource {text : String} {f : Failure} (explained : f.Explained text) :
    (f.withSource text).Explained text := by
  cases explained with
  | grammar d => exact .grammar _
  | shape member error => exact .shape member error
  | unsupported what adjacent external name => exact .unsupported what adjacent external name

/-- Before the end of input, a token that does not stand for a part of the text is an error. -/
theorem isError_of_not_isSource {text : String} {t : Token} (member : t ∈ (lex text).dropLast)
    (absent : t.isSource = false) : t.isError = true := by
  obtain ⟨init, last, tokens, _, others, _⟩ := (lex_tiling text).ends
  have inside : t ∈ init := by simpa [tokens] using member
  have covered := (lex_tiling text).mem_covers (List.dropLast_subset _ member)
  rw [others t inside] at covered
  obtain ⟨_, _, _, _, covers⟩ := covered.resolve_left (by simp)
  rcases covers.text with ⟨source, _⟩ | ⟨error, _⟩
  · rw [Token.isSource, source] at absent
    cases absent
  · exact error

/-- What excuses a run over the tokens of a text explains why the text is refused. -/
theorem Failure.Excused.explained {text : String} {f : Failure} {fault : Option Diagnostic}
    (excused : f.Excused (lex text).dropLast fault) : f.Explained text := by
  cases f with
  | grammar d => exact .grammar d
  | shape e =>
    obtain ⟨t, member, absent, rfl⟩ := excused
    have error := isError_of_not_isSource member absent
    have named : t.kind.name = "Error" := by
      cases kind : t.kind <;> simp_all [Token.isError, TokenKind.isError, TokenKind.name]
    rw [named]
    exact .shape (List.dropLast_subset _ member) error
  | mismatch expected found => exact excused.elim
  | unsupported what =>
    obtain ⟨a, b, adjacent, external, name⟩ := excused
    exact .unsupported what (adjacent.trans (List.dropLast_prefix _).isInfix) external name

namespace Parser

theorem recording_error {p : Parser α} {c d : Cursor} {e : Failure}
    (h : p c.beginRecording = .error e d) : recording p c = .error e d.endRecording := by
  simp [recording, h]

theorem withAssignment_error {p : Parser α} {assignment : Bool} {c d : Cursor} {e : Failure}
    (h : p (c.setAssignment assignment) = .error e d) :
    withAssignment assignment p c = .error e (d.setAssignment c.assignment) := by
  simp [withAssignment, h]

theorem stands_ofText (text : String) : (Cursor.ofText text).Stands (lex text).dropLast := by
  obtain ⟨ahead, ready⟩ := Cursor.ofText_eq text
  exact { ready with ahead := ahead ▸ List.suffix_refl _, recorded := nofun }

theorem parseAll_explained {p : Parser α} {Q : α → Prop} {text : String}
    [settled : Settled (lex text).dropLast p Q] {f : Failure} (h : parseAll p text = .error f) :
    f.Explained text := by
  have settles : Settles (lex text).dropLast (fun _ => True)
      ((do let a ← p; expectEnd; return a : Parser α) (.ofText text)) :=
    .next (stands_ofText text) fun _ d stands _ =>
      .next stands fun _ d stands _ => .pure stands trivial
  unfold parseAll at h
  dsimp only at h
  split at h
  · cases h
  · next e d run =>
    cases h
    rw [run] at settles
    exact settles.2.explained.withSource

end Parser

/-- Where a rule goes on after a failure, it does so after a fault of the text only: a construction
that is refused inside it ends it. -/
structure Grammar.SurfacesRefusals : Prop where
  context : ∀ {α : Type} {p : Parser α} {f : Fault} {c d : Cursor} {e : ShapeError},
    p c = .error (.shape e) d → Parser.context f p c = .error (.shape e) d
  recovering : ∀ {α : Type} {p : Parser α} {recover : List Token → Option Token → Parser α}
    {c d : Cursor} {e : ShapeError}, p c.beginRecording = .error (.shape e) d →
    recovering p recover c = .error (.shape e) d.endRecording
  parenBody : ∀ {sub : Precedence → Parser Expr} {c d : Cursor} {e : ShapeError},
    c.current.kind ≠ .rightParen →
    sub .none (c.setAssignment false).beginRecording = .error (.shape e) d →
    parenBody sub c = .error (.shape e) (d.endRecording.setAssignment c.assignment)

theorem Grammar.surfacesRefusals : SurfacesRefusals where
  context h := by simp [Parser.context, h]
  recovering h := by
    refine Parser.recording_error ?_
    rw [Parser.attempt_bind, h]
    rfl
  parenBody {sub c d e} other h := by
    have stays : Parser.eatKind .rightParen c = .ok none c :=
      Parser.eat_of_refused (by simpa using other)
    unfold Grammar.parenBody
    rw [Parser.bind_of_ok _ stays]
    refine Parser.withAssignment_error (Parser.recording_error ?_)
    rw [Parser.attempt_bind, h]
    rfl

theorem Failure.Explained.not_shape {text : String} (clean : ∀ t ∈ lex text, t.isError = false)
    {e : ShapeError} : ¬(Failure.shape e).Explained text := by
  rintro (_ | ⟨member, error⟩)
  simp [clean _ member] at error

/-- Parsing a text fails for a fault of the text. It refuses a construct only where `EXTERNAL`
stands right before `NAME`, and tokens only where the lexer found an error. So a text without such
errors never gives a node parts that do not fit, for no rule hides that a node was refused. -/
theorem parse_failures_explained (text : String) :
    (∀ f, parseExpression text = .error f → f.Explained text) ∧
    (∀ f, parseStatement text = .error f → f.Explained text) ∧
    (∀ f, parseScript text = .error f → f.Explained text) ∧
    Grammar.SurfacesRefusals ∧
    ((∀ t ∈ lex text, t.isError = false) → ∀ e : ShapeError,
      parseExpression text ≠ .error (.shape e) ∧ parseStatement text ≠ .error (.shape e) ∧
        parseScript text ≠ .error (.shape e)) := by
  have expression : ∀ f, parseExpression text = .error f → f.Explained text :=
    fun _ h => Parser.parseAll_explained h
  have statement : ∀ f, parseStatement text = .error f → f.Explained text :=
    fun _ h => Parser.parseAll_explained h
  have script : ∀ f, parseScript text = .error f → f.Explained text :=
    fun _ h => Parser.parseAll_explained h
  refine ⟨expression, statement, script, Grammar.surfacesRefusals, fun clean e => ?_⟩
  exact ⟨fun h => (expression _ h).not_shape clean, fun h => (statement _ h).not_shape clean,
    fun h => (script _ h).not_shape clean⟩

/-- An error of the lexer in parentheses, external code, and raw tokens of a text without errors. -/
theorem parse_failures_explained_raw :
    parseExpression "(a b ?)" =
      .error (.shape (.unexpectedToken .rawTokens "tokens" "source token" "Error")) ∧
    (∃ t ∈ lex "(a b ?)", t.isError = true) ∧
    parseStatement "CREATE PROC p AS EXTERNAL NAME x" = .error (.unsupported "CLR routine") ∧
    (∃ a b, [a, b] <:+: lex "CREATE PROC p AS EXTERNAL NAME x" ∧ a.isKeyword .EXTERNAL = true ∧
      b.isKeyword .NAME = true) ∧
    (∀ t ∈ lex "BEGIN SELECT (a b c) FROM END", t.isError = false) ∧
    ∀ e, parseScript "BEGIN SELECT (a b c) FROM END" ≠ .error (.shape e) := by
  have shape : parseExpression "(a b ?)" =
      .error (.shape (.unexpectedToken .rawTokens "tokens" "source token" "Error")) :=
    eq_error_of_failure? (by decide +kernel)
  have external : parseStatement "CREATE PROC p AS EXTERNAL NAME x" =
      .error (.unsupported "CLR routine") := eq_error_of_failure? (by decide +kernel)
  have clean : ∀ t ∈ lex "BEGIN SELECT (a b c) FROM END", t.isError = false := by decide +kernel
  refine ⟨shape, ?_, external, ?_, clean, fun e => ?_⟩
  · cases (parse_failures_explained _).1 _ shape with
    | shape member error => exact ⟨_, member, error⟩
  · cases (parse_failures_explained _).2.1 _ external with
    | unsupported what adjacent isExternal isName => exact ⟨_, _, adjacent, isExternal, isName⟩
  · exact ((parse_failures_explained _).2.2.2.2 clean e).2.2

end TransactSql
