import TransactSql.Proofs.Likeness.Indifference
import TransactSql.Proofs.Parser.Settling
import TransactSql.Proofs.RoundTrip
import TransactSql.Proofs.Token.Attribution

/-!
# Where faults are reported

Whatever a rule has read, given up or read again before it fails, its diagnostic stands at a token of
the text. So its span cuts the text between characters, and what it shows of the line is empty at the
end of input and nowhere else, since no other token starts with a blank character.
-/

namespace TransactSql

open Text

/-- What is behind the end of a line. -/
def LineEnds (cs : List Char) : Prop := cs = [] ∨ ['\n'] <+: cs ∨ ['\r', '\n'] <+: cs

/-! ### The first line -/

namespace Diagnostic

theorem firstLine_cons {c : Char} {cs : List Char} (inside : ¬LineEnds (c :: cs)) :
    firstLine (c :: cs) = c :: firstLine cs := by
  rw [firstLine]
  · rintro rfl
    exact inside (.inr (.inl ⟨cs, rfl⟩))
  · rintro ds rfl rfl
    exact inside (.inr (.inr ⟨ds, rfl⟩))

/-- The first line goes up to the first place where a line ends. -/
theorem firstLine_cut (cs : List Char) : ∃ rest, cs = firstLine cs ++ rest ∧ LineEnds rest ∧
    ∀ n < (firstLine cs).length, ¬LineEnds (cs.drop n) := by
  by_cases ended : LineEnds cs
  · have none : firstLine cs = [] := by
      rcases ended with rfl | ⟨cs, rfl⟩ | ⟨cs, rfl⟩ <;> rfl
    rw [none]
    exact ⟨cs, rfl, ended, nofun⟩
  · cases cs with
    | nil => exact absurd (.inl rfl) ended
    | cons c cs =>
      obtain ⟨rest, cut, ends, inside⟩ := firstLine_cut cs
      rw [firstLine_cons ended]
      refine ⟨rest, congrArg (c :: ·) cut, ends, fun n bound => ?_⟩
      cases n with
      | zero => exact ended
      | succ n => exact inside n (Nat.lt_of_succ_lt_succ bound)

/-! ### Diagnostics of a text -/

/-- The diagnostic stands at a token of the text, and shows the line from there on. -/
structure Locates (d : Diagnostic) (text : String) : Prop where
  token : ∃ t ∈ lex text, t.span = d.span
  inBounds : d.span.start ≤ d.span.stop ∧ d.span.stop ≤ text.utf8ByteSize ∧
    (d.span.slice text.toList).isSome = true
  near : ∃ before line rest, text.toList = before ++ line ++ rest ∧
    byteLength before = d.span.start ∧ LineEnds rest ∧
    (∀ n < line.length, ¬LineEnds ((line ++ rest).drop n)) ∧ d.near = .ofList (line.take 40)
  near_empty : ∀ t ∈ lex text, t.span = d.span → (d.near = "" ↔ t.isEof = true)

end Diagnostic

/-- A token other than the end of input starts with a character that is not blank. -/
theorem Attribution.starts {before cs : List Char} {ts : List Token} (h : Attribution before cs ts) :
    ∀ t ∈ ts, t.isEof = false → ∃ front c back, before ++ cs = front ++ c :: back ∧
      t.span.start = byteLength front ∧ isBlank c = false := by
  induction h with
  | eof isEof =>
    intro t member real
    rw [List.mem_singleton.mp member, isEof] at real
    cases real
  | @token before cs lexeme behind rest u us leading covers trails more ih =>
    have whole := Trivia.run_append leading
    refine List.forall_mem_cons.mpr ⟨fun _ => ?_, fun t later real => ?_⟩
    · obtain ⟨c, lexeme, rfl⟩ := List.exists_cons_of_ne_nil covers.nonempty
      have start := Trivia.measure?_of_run leading
      rw [List.cons_append] at start
      refine ⟨before ++ Trivia.chars u.leading, c, lexeme ++ behind, ?_, ?_,
        (Trivia.measure?_cons_eq_none.mp start).1⟩
      · rw [whole, List.cons_append, List.append_assoc]
      · rw [covers.span]
    · rw [whole, trails.append]
      simpa using ih t later real

/-- At a token other than the end of input, the line is not over. -/
theorem not_lineEnds_of_not_blank {c : Char} {cs : List Char} (h : isBlank c = false) :
    ¬LineEnds (c :: cs) := by
  rintro (none | ⟨_, same⟩ | ⟨_, same⟩)
  · cases none
  · cases same
    exact absurd h (by decide)
  · cases same
    exact absurd h (by decide)

namespace Diagnostic

/-- The span of a token starts between two characters. Behind it the text is over for the end of
input and no other token, and no line ends there. -/
theorem starts_of_mem {text : String} {t : Token} (member : t ∈ lex text) :
    ∃ before after, text.toList = before ++ after ∧ byteLength before = t.span.start ∧
      (firstLine after = [] ↔ t.isEof = true) := by
  cases isEof : t.isEof with
  | true =>
    rcases (lex_tiling text).mem_covers member with ⟨-, -, -, span⟩ | ⟨_, _, _, _, covers⟩
    · exact ⟨text.toList, [], (List.append_nil _).symm, by rw [span]; rfl, by simp [firstLine]⟩
    · rw [covers.isEof_eq] at isEof
      cases isEof
  | false =>
    obtain ⟨front, c, back, whole, start, visible⟩ := (lex_attribution text).starts t member isEof
    refine ⟨front, c :: back, whole, start.symm, ?_⟩
    simp [firstLine_cons (not_lineEnds_of_not_blank visible)]

theorem near_withSource {d : Diagnostic} {text : String} {before after : List Char}
    (whole : text.toList = before ++ after) (start : byteLength before = d.span.start) :
    (d.withSource text).near = .ofList ((firstLine after).take 40) := by
  simp only [withSource, whole, ← start, dropBytes_append, Option.getD_some]
  rfl

theorem locates_withSource {d : Diagnostic} {text : String} {t : Token} (member : t ∈ lex text)
    (span : t.span = d.span) : (d.withSource text).Locates text where
  token := ⟨t, member, span⟩
  inBounds := span ▸ (lex_tiling text).tiles.inBounds t member
  near := by
    obtain ⟨before, after, whole, start, -⟩ := starts_of_mem member
    obtain ⟨rest, cut, ends, inside⟩ := firstLine_cut after
    refine ⟨before, firstLine after, rest, ?_, start.trans (congrArg _ span), ends, ?_,
      near_withSource whole (start.trans (congrArg _ span))⟩
    · rw [List.append_assoc, ← cut, whole]
    · rwa [← cut]
  near_empty u among same := by
    obtain ⟨before, after, whole, start, ended⟩ := starts_of_mem among
    have place : byteLength before = d.span.start := start.trans (congrArg Span.start same)
    rw [near_withSource whole place, ← ended, ← String.toList_inj]
    simp

end Diagnostic

/-! ### Failures of the parsers -/

/-- Every token stands for itself, and places are those of the given tokens. -/
def Correspondence.identity (ts : List Token) : Correspondence where
  tokens := Eq
  spans s _ := ∃ t ∈ ts, t.span = s
  kind same := congrArg (·.kind.silent) same
  assignment same := congrArg Token.asAssignment same
  placeholder := rfl

theorem Cursor.related_ofText (text : String) :
    Related (.identity (lex text)) (ofText text) (ofText text) := by
  obtain ⟨init, last, tokens, eof, others, -⟩ := (lex_tiling text).ends
  have ahead : (ofText text).ahead = init := by
    rw [(ofText_eq text).1, tokens, List.dropLast_concat]
  have final : (ofText text).eof = last := by
    rw [ofText, ofTokens, tokens, List.find?_append,
      List.find?_eq_none.mpr fun t member => by simp [others t member]]
    simp [eof]
  refine ⟨⟨List.forall₂_same.mpr fun _ _ => rfl⟩, ⟨rfl⟩,
    List.forall₂_same.mpr fun t member => ⟨t, ?_, rfl⟩, ⟨last, ?_, by rw [final]⟩, ⟨.none⟩, rfl, ⟨.nil⟩⟩
  · rw [ahead] at member
    exact tokens ▸ List.mem_append_left _ member
  · exact tokens ▸ List.mem_append_right _ List.mem_cons_self

/-- What the grammar objects to is a token of the text. -/
theorem Parser.parseAll_fault [Relatable α] {p : Parser α} (related : ∀ R, Related R p p)
    {text : String} {d : Diagnostic} (h : parseAll p text = .error (.grammar d)) :
    ∃ t ∈ lex text, t.span = d.span := by
  have runs := outcome (R := .identity (lex text)) (p := p.toEnd) (q := p.toEnd) inferInstance
    (Cursor.related_ofText text) (Cursor.ofText_eq text).2.fault
  rw [parseAll_eq, result] at h
  generalize p.toEnd (.ofText text) = reply at runs h
  cases runs with
  | ok => cases h
  | shape => cases h
  | unsupported => cases h
  | grammar place =>
    cases h
    exact place.rel

theorem Parser.parseAll_locates [Relatable α] {p : Parser α} (related : ∀ R, Related R p p)
    {text : String} {d : Diagnostic} (h : parseAll p text = .error (.grammar d)) :
    d.Locates text := by
  obtain ⟨t, member, span⟩ := parseAll_fault related h
  rw [parseAll_eq] at h
  cases reply : p.toEnd.result (.ofText text) with
  | ok a =>
    rw [reply] at h
    cases h
  | error f =>
    rw [reply] at h
    -- Of all failures, only a diagnostic becomes one with the text.
    cases f with
    | grammar e =>
      cases h
      exact Diagnostic.locates_withSource member span
    | _ => cases h

/-- A fault of the grammar is reported at a token of the text, with the line from there on, which is
empty at the end of input only. -/
theorem parse_faults_located (text : String) (d : Diagnostic) :
    (parseExpression text = .error (.grammar d) → d.Locates text) ∧
    (parseStatement text = .error (.grammar d) → d.Locates text) ∧
    (parseScript text = .error (.grammar d) → d.Locates text) :=
  ⟨Parser.parseAll_locates fun _ => inferInstance, Parser.parseAll_locates fun _ => inferInstance,
    Parser.parseAll_locates fun _ => inferInstance⟩

/-- A fault behind a character of two bytes, an error of the lexer, and the end of input, once after a
block was read again. -/
theorem parse_faults_located_lines :
    parseExpression "N'é' + ) x\r\ny" =
      .error (.grammar ⟨[.expectedFound "expression" "')'"], ⟨8, 9⟩, ") x"⟩) ∧
    Diagnostic.Locates ⟨[.expectedFound "expression" "')'"], ⟨8, 9⟩, ") x"⟩ "N'é' + ) x\r\ny" ∧
    parseStatement "IF a\n? b" =
      .error (.grammar ⟨[.stated "Unexpected character: ?"], ⟨5, 6⟩, "? b"⟩) ∧
    Diagnostic.Locates ⟨[.stated "Unexpected character: ?"], ⟨5, 6⟩, "? b"⟩ "IF a\n? b" ∧
    parseStatement "BEGIN SELECT (; é\nEND x" =
      .error (.grammar ⟨[.missing "END"], ⟨24, 24⟩, ""⟩) ∧
    Diagnostic.Locates ⟨[.missing "END"], ⟨24, 24⟩, ""⟩ "BEGIN SELECT (; é\nEND x" ∧
    parseScript "BREAK; IF\n" =
      .error (.grammar ⟨[.expectedFound "expression" "end of input"], ⟨10, 10⟩, ""⟩) ∧
    Diagnostic.Locates ⟨[.expectedFound "expression" "end of input"], ⟨10, 10⟩, ""⟩ "BREAK; IF\n" := by
  have expression : parseExpression "N'é' + ) x\r\ny" =
      .error (.grammar ⟨[.expectedFound "expression" "')'"], ⟨8, 9⟩, ") x"⟩) :=
    eq_error_of_failure? (by decide +kernel)
  have unread : parseStatement "IF a\n? b" =
      .error (.grammar ⟨[.stated "Unexpected character: ?"], ⟨5, 6⟩, "? b"⟩) :=
    eq_error_of_failure? (by decide +kernel)
  have block : parseStatement "BEGIN SELECT (; é\nEND x" =
      .error (.grammar ⟨[.missing "END"], ⟨24, 24⟩, ""⟩) := eq_error_of_failure? (by decide +kernel)
  have script : parseScript "BREAK; IF\n" =
      .error (.grammar ⟨[.expectedFound "expression" "end of input"], ⟨10, 10⟩, ""⟩) :=
    eq_error_of_failure? (by decide +kernel)
  exact ⟨expression, (parse_faults_located _ _).1 expression,
    unread, (parse_faults_located _ _).2.1 unread,
    block, (parse_faults_located _ _).2.1 block,
    script, (parse_faults_located _ _).2.2 script⟩

end TransactSql
