import TransactSql.Token.Lex
import TransactSql.Tree.Basic

/-!
# The tokens of a text tile it

Trivia and lexemes are cut off the front of the text one after another, so nothing is lost and
nothing is read twice. `lexTokens_tiling` says this of the lexer's loop; what holds of the spans,
the texts and the end of input follows by induction on `Tiling`.
-/

namespace TransactSql

/-! ### Cuts between characters -/

namespace Text

theorem byteLength_toList (text : String) : byteLength text.toList = text.utf8ByteSize := by
  have singles : ∀ cs : List Char, byteLength cs = (String.ofList cs).utf8ByteSize := by
    intro cs
    induction cs with
    | nil => rfl
    | cons c cs ih =>
      rw [show c :: cs = [c] ++ cs from rfl, String.ofList_append, String.utf8ByteSize_append,
        ← ih, byteLength_append, ← String.singleton_eq_ofList, String.utf8ByteSize_singleton]
      rfl
  rw [singles, String.ofList_toList]

theorem byteLength_pos {cs : List Char} (h : cs ≠ []) : 0 < byteLength cs := by
  obtain ⟨c, rest, rfl⟩ := List.exists_cons_of_ne_nil h
  have := c.utf8Size_pos
  rw [byteLength_cons]
  omega

theorem dropBytes_append (before after : List Char) :
    dropBytes (byteLength before) (before ++ after) = some after := by
  induction before with
  | nil => simp [dropBytes]
  | cons c before ih =>
    obtain ⟨n, hn⟩ : ∃ n, byteLength (c :: before) = n + 1 :=
      ⟨byteLength (c :: before) - 1, by have := byteLength_pos (List.cons_ne_nil c before); omega⟩
    have size : c.utf8Size + byteLength before = n + 1 := by rw [← hn, byteLength_cons]
    rw [hn, List.cons_append, dropBytes, if_pos (by omega),
      show n + 1 - c.utf8Size = byteLength before by omega, ih]

theorem takeBytes_append (before after : List Char) :
    takeBytes (byteLength before) (before ++ after) = some before := by
  induction before with
  | nil => simp [takeBytes]
  | cons c before ih =>
    obtain ⟨n, hn⟩ : ∃ n, byteLength (c :: before) = n + 1 :=
      ⟨byteLength (c :: before) - 1, by have := byteLength_pos (List.cons_ne_nil c before); omega⟩
    have size : c.utf8Size + byteLength before = n + 1 := by rw [← hn, byteLength_cons]
    rw [hn, List.cons_append, takeBytes, if_pos (by omega),
      show n + 1 - c.utf8Size = byteLength before by omega, ih, Option.map_some]

end Text

open Text

/-- The span of a part of the text cuts out that part. -/
theorem Span.slice_append (before part after : List Char) :
    Span.slice ⟨byteLength before, byteLength before + byteLength part⟩ (before ++ part ++ after)
      = some part := by
  rw [Span.slice, if_pos (Nat.le_add_right _ _), List.append_assoc, dropBytes_append,
    Option.bind_some, Span.length, Nat.add_sub_cancel_left, takeBytes_append]

/-! ### Trivia -/

namespace Trivia

/-- The characters that pieces of trivia take. -/
def chars (pieces : List Trivia) : List Char := pieces.flatMap fun t => t.text.toList

@[simp]
theorem chars_nil : chars [] = [] := rfl

@[simp]
theorem chars_cons (t : Trivia) (ts : List Trivia) : chars (t :: ts) = t.text.toList ++ chars ts := rfl

@[simp]
theorem chars_append (ts us : List Trivia) : chars (ts ++ us) = chars ts ++ chars us := by
  simp [chars]

theorem byteLength_eq (ts : List Trivia) : Trivia.byteLength ts = Text.byteLength (chars ts) := by
  induction ts with
  | nil => rfl
  | cons t ts ih => rw [Trivia.byteLength, ih, chars_cons, byteLength_append]

/-- A run of trivia and what follows it make up the text. -/
theorem pieces_append (withinLine : Bool) (limit : Nat) (cs : List Char) :
    chars (pieces withinLine limit cs).1 ++ (pieces withinLine limit cs).2 = cs := by
  induction limit generalizing cs with
  | zero => rfl
  | succ limit ih =>
    rw [pieces]
    split
    · rfl
    · next kind n _ =>
      split
      · simp
      · simp [ih]

theorem run_append {cs rest : List Char} {ts : List Trivia} (h : run cs = (ts, rest)) :
    cs = chars ts ++ rest := by
  have whole := pieces_append false cs.length cs
  rw [show pieces false cs.length cs = (ts, rest) from h] at whole
  exact whole.symm

theorem lineRun_append {cs rest : List Char} {ts : List Trivia} (h : lineRun cs = (ts, rest)) :
    cs = chars ts ++ rest := by
  have whole := pieces_append true cs.length cs
  rw [show pieces true cs.length cs = (ts, rest) from h] at whole
  exact whole.symm

end Trivia

/-! ### Lexemes -/

/-- Whether tokens of the kind have text of their own. -/
def TokenKind.isSource : TokenKind → Bool
  | .placeholder | .error _ | .eof => false
  | _ => true

theorem TokenKind.isSource_eq (k : TokenKind) :
    k.isSource = !(k == .placeholder || k == .eof || k.isError) := by
  cases k <;> rfl

theorem TokenKind.isSource_eq_true_iff {k : TokenKind} : k.isSource = true ↔
    k ≠ .placeholder ∧ k ≠ .eof ∧ k.isError = false := by
  simp [isSource_eq, and_assoc]

namespace Lexeme

/-- A lexeme takes characters, and a symbol is of a kind that has text. -/
def Proper (found : Lexeme × Nat) : Prop :=
  0 < found.2 ∧ ∀ kind, found.1 = .symbol kind → kind.isSource = true

theorem proper_symbol {kind : TokenKind} {n : Nat} (source : kind.isSource = true) (pos : 0 < n) :
    Proper (.symbol kind, n) := by
  refine ⟨pos, ?_⟩
  rintro _ ⟨⟩
  exact source

theorem proper_word {n : Nat} (pos : 0 < n) : Proper (.word, n) := ⟨pos, by simp⟩

theorem proper_fault {cause : LexicalFault} {n : Nat} (pos : 0 < n) : Proper (.fault cause, n) :=
  ⟨pos, by simp⟩

theorem either_cases {P : Lexeme × Nat → Prop} (second : Char) {long short : TokenKind}
    (cs : List Char) (hlong : P (.symbol long, 2)) (hshort : P (.symbol short, 1)) :
    P (either second long short cs) := by
  unfold either
  split
  · split
    · exact hlong
    · exact hshort
  · exact hshort

theorem proper_either (second : Char) {long short : TokenKind} (cs : List Char)
    (hlong : long.isSource = true) (hshort : short.isSource = true) :
    Proper (either second long short cs) :=
  either_cases second cs (proper_symbol hlong (by decide)) (proper_symbol hshort (by decide))

theorem proper_delimited {found : Lexeme} (what : String) (closing : Char) {n : Nat} (cs : List Char)
    (h : Proper (found, n)) : Proper (delimited found what closing n cs) := by
  unfold delimited
  split
  · exact ⟨Nat.add_pos_left h.1 _, h.2⟩
  · exact proper_fault (Nat.add_pos_left h.1 _)

/-- A number takes its first digit or its point. -/
theorem number_pos {c : Char} (cs : List Char) (h : c.isDigit = true ∨ c = '.') :
    0 < (number (c :: cs)).2 := by
  have digits : (∀ fraction, (c :: cs).drop (runLength Char.isDigit (c :: cs)) = '.' :: fraction →
      False) → 0 < runLength Char.isDigit (c :: cs) := by
    intro whole
    rcases h with digit | rfl
    · simp [runLength, digit]
    · exact (whole cs rfl).elim
  unfold number
  dsimp only
  split
  · dsimp only
    split
    · exact Nat.add_pos_left (Nat.succ_pos _) _
    · next whole => exact digits whole
  · apply Nat.add_pos_left
    split
    · exact Nat.add_pos_left (Nat.succ_pos _) _
    · next whole => exact digits whole

theorem proper_numeric {c : Char} (cs : List Char) (h : c.isDigit = true ∨ c = '.') :
    Proper (measure.numeric c cs) := proper_symbol rfl (number_pos cs h)

theorem proper_wordLike (cs : List Char) : Proper (measure.wordLike cs) :=
  proper_word (Nat.add_pos_left Nat.one_pos _)

theorem proper_unexpected (c : Char) : Proper (measure.unexpected c) := proper_fault Nat.one_pos

/-- Every text that is not trivia starts with a lexeme. -/
theorem measure_proper (c : Char) (cs : List Char) : Proper (measure c cs) := by
  unfold measure
  split
  case h_30 =>
    split
    · exact proper_numeric _ (Or.inr rfl)
    · exact proper_symbol rfl (by decide)
  case h_32 =>
    split
    · exact proper_wordLike _
    · exact proper_unexpected _
  case h_33 => exact proper_unexpected _
  case h_34 =>
    split
    · next digit => exact proper_numeric _ (Or.inl digit)
    · split
      · exact proper_wordLike _
      · exact proper_unexpected _
  all_goals first
    | exact proper_symbol rfl (by decide)
    | exact proper_symbol rfl (Nat.add_pos_left (by decide) _)
    | exact proper_either _ _ rfl rfl
    | exact proper_delimited _ _ _ (proper_symbol rfl (by decide))
    | exact proper_delimited _ _ _ (proper_word (by decide))

end Lexeme

/-! ### Tokens -/

/-- The token of a lexeme that starts behind `before`. An error has no text. -/
structure Token.Covers (t : Token) (before lexeme : List Char) : Prop where
  nonempty : lexeme ≠ []
  span : t.span = ⟨byteLength before, byteLength before + byteLength lexeme⟩
  text : (t.kind.isSource = true ∧ t.text.toList = lexeme) ∨ (t.isError = true ∧ t.text = "")

theorem Lexeme.token_covers {found : Lexeme × Nat} (proper : Proper found) (before : List Char)
    (c : Char) (cs : List Char) (leading trailing : List Trivia) :
    ((found.1.token (.ofList ((c :: cs).take found.2))
      ⟨byteLength before, byteLength before + byteLength ((c :: cs).take found.2)⟩).withTrivia
        leading trailing).Covers before ((c :: cs).take found.2) := by
  obtain ⟨pos, source⟩ := proper
  have nonempty : (c :: cs).take found.2 ≠ [] := by
    intro h
    rcases List.take_eq_nil_iff.mp h with zero | nil
    · omega
    · exact List.cons_ne_nil _ _ nil
  obtain ⟨lexeme, n⟩ := found
  cases lexeme with
  | word => exact ⟨nonempty, rfl, Or.inl ⟨rfl, String.toList_ofList⟩⟩
  | symbol kind => exact ⟨nonempty, rfl, Or.inl ⟨source kind rfl, String.toList_ofList⟩⟩
  | fault cause => exact ⟨nonempty, rfl, Or.inr ⟨rfl, rfl⟩⟩

/-- The tokens of the text `cs` that stands behind `before`: each takes its trivia and its lexeme
off the front, and the end of input is left. Trivia that nothing follows is never left over. -/
inductive Tiling : (before cs : List Char) → List Token → Prop
  | eof {before cs : List Char} {leading : List Trivia} (run : Trivia.run cs = (leading, [])) :
    Tiling before cs [(Token.eof (.emptyAt (byteLength (before ++ cs)))).withTrivia leading []]
  | token {before cs lexeme rest : List Char} {t : Token} {ts : List Token}
    (split : cs = Trivia.chars t.leading ++ lexeme ++ Trivia.chars t.trailing ++ rest)
    (covers : t.Covers (before ++ Trivia.chars t.leading) lexeme)
    (followed : rest = [] ∨ (Trivia.run rest).2 ≠ [])
    (more : Tiling (before ++ Trivia.chars t.leading ++ lexeme ++ Trivia.chars t.trailing) rest ts) :
    Tiling before cs (t :: ts)

theorem lexToken_covers {before cs rest : List Char} {leading : List Trivia} {c : Char} {t : Token}
    (h : lexToken leading (byteLength before) c cs = (t, rest)) :
    t.leading = leading ∧ (rest = [] ∨ (Trivia.run rest).2 ≠ []) ∧
      ∃ lexeme, t.Covers before lexeme ∧ c :: cs = lexeme ++ Trivia.chars t.trailing ++ rest := by
  have proper := Lexeme.measure_proper c cs
  generalize found : Lexeme.measure c cs = m at proper
  have cut := List.take_append_drop m.2 (c :: cs)
  unfold lexToken at h
  simp only [found] at h
  generalize line : Trivia.lineRun ((c :: cs).drop m.2) = l at h
  have trailing := Trivia.lineRun_append line
  split at h
  · next final run =>
    obtain ⟨rfl, rfl⟩ := Prod.mk.inj h
    refine ⟨rfl, Or.inl rfl, _, Lexeme.token_covers proper before c cs _ _, ?_⟩
    have last := Trivia.run_append run
    simp only [Token.withTrivia, Trivia.chars_append, List.append_nil] at last ⊢
    rw [← last, ← trailing, cut]
  · next more =>
    obtain ⟨rfl, rfl⟩ := Prod.mk.inj h
    refine ⟨rfl, Or.inr ?_, _, Lexeme.token_covers proper before c cs _ _, ?_⟩
    · exact fun none => more (Trivia.run l.2).1 (Prod.ext rfl none)
    · simp only [Token.withTrivia, List.append_assoc]
      rw [← trailing, cut]

/-- The lexer's loop with at least one round more than characters. -/
theorem lexTokens_tiling {limit : Nat} {before cs : List Char} (enough : cs.length < limit) :
    Tiling before cs (lexTokens limit (byteLength before) cs) := by
  induction limit generalizing before cs with
  | zero => omega
  | succ limit ih =>
    rw [lexTokens]
    generalize run : Trivia.run cs = r
    obtain ⟨leading, rest⟩ := r
    have front := Trivia.run_append run
    cases rest with
    | nil =>
      have stop : byteLength before + Trivia.byteLength leading = byteLength (before ++ cs) := by
        rw [front, Trivia.byteLength_eq]
        simp
      simp only [stop]
      exact .eof run
    | cons c rest =>
      have start : byteLength before + Trivia.byteLength leading =
          byteLength (before ++ Trivia.chars leading) := by
        rw [Trivia.byteLength_eq, byteLength_append]
      simp only [start]
      generalize token : lexToken leading (byteLength (before ++ Trivia.chars leading)) c rest = p
      obtain ⟨t, after⟩ := p
      obtain ⟨rfl, followed, lexeme, covers, back⟩ := lexToken_covers token
      have next : t.span.stop + Trivia.byteLength t.trailing =
          byteLength (before ++ Trivia.chars t.leading ++ lexeme ++ Trivia.chars t.trailing) := by
        rw [covers.span, Trivia.byteLength_eq]
        simp [Nat.add_assoc]
      have shorter : after.length < limit := by
        have sizes := congrArg List.length front
        have taken := List.length_pos_iff.mpr covers.nonempty
        rw [back] at sizes
        simp at sizes
        omega
      refine .token (by rw [front, back]; simp) covers followed ?_
      simp only [next]
      exact ih shorter

theorem lex_tiling (text : String) : Tiling [] text.toList (lex text) :=
  lexTokens_tiling (Nat.lt_succ_self _)

/-! ### What a tiling says of its tokens -/

namespace Token.Covers

variable {t : Token} {before lexeme : List Char}

theorem isEof_eq (h : t.Covers before lexeme) : t.isEof = false := by
  refine beq_false_of_ne ?_
  rcases h.text with ⟨source, _⟩ | ⟨error, _⟩
  · exact (TokenKind.isSource_eq_true_iff.mp source).2.1
  · intro eof
    rw [isError, eof] at error
    cases error

theorem text_eq (h : t.Covers before lexeme) (clean : t.isError = false) : t.text.toList = lexeme := by
  rcases h.text with ⟨_, text⟩ | ⟨error, _⟩
  · exact text
  · rw [error] at clean
    cases clean

theorem slice_eq (h : t.Covers before lexeme) (after : List Char) :
    t.span.slice (before ++ lexeme ++ after) = some lexeme := by
  rw [h.span, Span.slice_append]

end Token.Covers

namespace Tiling

variable {before cs : List Char} {ts : List Token}

/-- Every token but the last covers a part of the text, and the last is the end of input. -/
theorem mem_covers (tiling : Tiling before cs ts) {t : Token} (member : t ∈ ts) :
    (t.isEof = true ∧ t.isError = false ∧ t.text = "" ∧
      t.span = .emptyAt (byteLength (before ++ cs))) ∨
    ∃ front lexeme after, before ++ cs = front ++ lexeme ++ after ∧ t.Covers front lexeme := by
  induction tiling with
  | eof run =>
    rw [List.mem_singleton.mp member]
    exact Or.inl ⟨rfl, rfl, rfl, rfl⟩
  | @token before cs lexeme rest u ts split covers followed more ih =>
    have whole : before ++ cs = before ++ Trivia.chars u.leading ++ lexeme
        ++ Trivia.chars u.trailing ++ rest := by
      rw [split]
      simp
    rcases List.mem_cons.mp member with rfl | later
    · refine Or.inr ⟨_, lexeme, Trivia.chars t.trailing ++ rest, ?_, covers⟩
      rw [whole, List.append_assoc]
    · rw [whole]
      exact ih later

/-- No token starts before what has been read. -/
theorem le_start (tiling : Tiling before cs ts) {t : Token} (member : t ∈ ts) :
    byteLength before ≤ t.span.start := by
  induction tiling with
  | eof run =>
    rw [List.mem_singleton.mp member]
    simp [Token.withTrivia, Token.eof, Span.emptyAt]
  | token split covers followed more ih =>
    rcases List.mem_cons.mp member with rfl | later
    · rw [covers.span]
      simp
    · have bound := ih later
      simp only [byteLength_append] at bound
      omega

theorem ordered (tiling : Tiling before cs ts) :
    ts.Pairwise fun t u => t.span.stop ≤ u.span.start := by
  induction tiling with
  | eof run => exact List.pairwise_singleton _ _
  | token split covers followed more ih =>
    refine List.pairwise_cons.mpr ⟨?_, ih⟩
    intro u later
    have bound := more.le_start later
    rw [covers.span]
    simp only [byteLength_append] at bound ⊢
    omega

/-- Only the last token is the end of input. It has trivia only if it is the only token. -/
theorem ends (tiling : Tiling before cs ts) :
    ∃ init last, ts = init ++ [last] ∧ last.isEof = true ∧ (∀ t ∈ init, t.isEof = false) ∧
      last.span = .emptyAt (byteLength (before ++ cs)) ∧ last.isError = false ∧
      last.text = "" ∧ last.trailing = [] ∧
      (init ≠ [] ∨ (Trivia.run cs).2 ≠ [] ∨ cs = [] → last.leading = []) := by
  induction tiling with
  | @eof before cs leading run =>
    refine ⟨[], _, rfl, rfl, by simp, rfl, rfl, rfl, rfl, ?_⟩
    rintro (no | no | rfl)
    · exact absurd rfl no
    · rw [run] at no
      exact absurd rfl no
    · exact (Prod.mk.inj run).1.symm
  | @token before cs lexeme rest t ts split covers followed more ih =>
    obtain ⟨init, last, rfl, eof, others, span, error, text, trailing, leading⟩ := ih
    refine ⟨t :: init, last, rfl, eof, ?_, ?_, error, text, trailing, ?_⟩
    · intro u member
      rcases List.mem_cons.mp member with rfl | later
      · exact covers.isEof_eq
      · exact others u later
    · rw [span, split]
      simp
    · intro _
      exact leading (Or.inr followed.symm)

/-- The parts of the text that the tokens and their trivia stand for, in order, make it up. -/
theorem flatMap_slice (tiling : Tiling before cs ts) :
    ts.flatMap (fun t => Trivia.chars t.leading ++ (t.span.slice (before ++ cs)).getD []
      ++ Trivia.chars t.trailing) = cs := by
  induction tiling with
  | @eof before cs leading run =>
    have front := Trivia.run_append run
    have empty := Span.slice_append (before ++ cs) [] []
    simp only [List.append_nil, byteLength_nil, Nat.add_zero] at empty front
    simp only [Token.withTrivia, Token.eof, Span.emptyAt, List.flatMap_cons, List.flatMap_nil, empty]
    simp [← front]
  | @token before cs lexeme rest t ts split covers followed more ih =>
    have whole : before ++ cs = before ++ Trivia.chars t.leading ++ lexeme
        ++ Trivia.chars t.trailing ++ rest := by
      rw [split]
      simp
    have slice := covers.slice_eq (Trivia.chars t.trailing ++ rest)
    rw [← List.append_assoc, ← whole] at slice
    rw [← whole] at ih
    rw [List.flatMap_cons, ih, slice, split]
    simp

end Tiling

/-- The characters of the texts of tokens, trivia included. -/
theorem toList_sourceText (ts : List Token) : (sourceText ts).toList =
    ts.flatMap fun t => Trivia.chars t.leading ++ t.text.toList ++ Trivia.chars t.trailing := by
  simp only [sourceText, String.toList_join, List.flatMap_map, Token.source, String.toList_append,
    Trivia.chars]

namespace Tiling

variable {before cs : List Char} {ts : List Token}

/-- Without errors the texts of the tokens are all of the text; an error leaves a gap. -/
theorem toList_sourceText_eq (tiling : Tiling before cs ts) :
    ((∀ t ∈ ts, t.isError = false) → (sourceText ts).toList = cs) ∧
    (sourceText ts).toList.length ≤ cs.length ∧
    ((∃ t ∈ ts, t.isError = true) → (sourceText ts).toList.length < cs.length) := by
  simp only [toList_sourceText]
  induction tiling with
  | @eof before cs leading run =>
    have front := Trivia.run_append run
    rw [List.append_nil] at front
    simp [Token.withTrivia, Token.eof, Token.isError, TokenKind.isError, ← front]
  | @token before cs lexeme rest t ts split covers followed more ih =>
    obtain ⟨equal, bound, strict⟩ := ih
    have size := congrArg List.length split
    have nonempty := List.length_pos_iff.mpr covers.nonempty
    simp only [List.length_append] at size
    simp only [List.flatMap_cons, List.length_append, List.mem_cons, forall_eq_or_imp,
      exists_eq_or_imp]
    refine ⟨?_, ?_, ?_⟩
    · rintro ⟨clean, others⟩
      rw [equal others, covers.text_eq clean, split]
    · rcases covers.text with ⟨_, text⟩ | ⟨_, text⟩
      · rw [text]
        omega
      · rw [text]
        simp only [String.toList_empty, List.length_nil]
        omega
    · rintro (error | later)
      · rcases covers.text with ⟨source, _⟩ | ⟨_, text⟩
        · have clean : t.isError = false := (TokenKind.isSource_eq_true_iff.mp source).2.2
          rw [clean] at error
          cases error
        · rw [text]
          simp only [String.toList_empty, List.length_nil]
          omega
      · have shorter := strict later
        rcases covers.text with ⟨_, text⟩ | ⟨_, text⟩
        · rw [text]
          omega
        · rw [text]
          simp only [String.toList_empty, List.length_nil]
          omega

end Tiling

/-! ### The lexer -/

/-- Tokens that cover a text without gaps and overlaps, up to the end of input. -/
structure Tiles (text : String) (ts : List Token) : Prop where
  /-- The last token, and no other, is the end of input. It stands at the end of the text. -/
  ends : ∃ init last, ts = init ++ [last] ∧ last.isEof = true ∧
    last.span = .emptyAt text.utf8ByteSize ∧ ∀ t ∈ init, t.isEof = false
  /-- Trivia and the parts of the text at the spans make up the text. -/
  covers : ts.flatMap (fun t => Trivia.chars t.leading ++ (t.span.slice text.toList).getD []
    ++ Trivia.chars t.trailing) = text.toList
  /-- Spans lie in the text and between characters. -/
  inBounds : ∀ t ∈ ts, t.span.start ≤ t.span.stop ∧ t.span.stop ≤ text.utf8ByteSize ∧
    (t.span.slice text.toList).isSome = true
  ordered : ts.Pairwise fun t u => t.span.stop ≤ u.span.start
  nonempty : ∀ t ∈ ts, t.isEof = false → t.span.start < t.span.stop
  /-- The text of a token that is no error is the part of the text at its span. -/
  slice : ∀ t ∈ ts, t.isError = false → t.span.slice text.toList = some t.text.toList

theorem Tiling.tiles {text : String} {ts : List Token} (tiling : Tiling [] text.toList ts) :
    Tiles text ts := by
  have size : byteLength text.toList = text.utf8ByteSize := byteLength_toList text
  refine ⟨?_, tiling.flatMap_slice, ?_, tiling.ordered, ?_, ?_⟩
  · obtain ⟨init, last, same, eof, others, span, _⟩ := tiling.ends
    exact ⟨init, last, same, eof, by rw [span, List.nil_append, size], others⟩
  · intro t member
    rcases tiling.mem_covers member with ⟨_, _, _, span⟩ | ⟨front, lexeme, after, whole, covers⟩
    · have empty := Span.slice_append text.toList [] []
      simp only [List.append_nil, byteLength_nil, Nat.add_zero] at empty
      rw [span, List.nil_append]
      exact ⟨Nat.le_refl _, Nat.le_of_eq (by rw [Span.emptyAt, size]), by
        rw [Span.emptyAt, empty]; rfl⟩
    · rw [List.nil_append] at whole
      refine ⟨by rw [covers.span]; exact Nat.le_add_right _ _, ?_, ?_⟩
      · rw [covers.span, ← size, whole, byteLength_append, byteLength_append]
        exact Nat.le_add_right _ _
      · rw [whole, covers.slice_eq]
        rfl
  · intro t member real
    rcases tiling.mem_covers member with ⟨eof, _⟩ | ⟨front, lexeme, after, _, covers⟩
    · rw [eof] at real
      cases real
    · rw [covers.span]
      exact Nat.lt_add_of_pos_right (byteLength_pos covers.nonempty)
  · intro t member clean
    rcases tiling.mem_covers member with ⟨_, _, none, span⟩ | ⟨front, lexeme, after, whole, covers⟩
    · have empty := Span.slice_append text.toList [] []
      simp only [List.append_nil, byteLength_nil, Nat.add_zero] at empty
      rw [span, List.nil_append, Span.emptyAt, empty, none]
      rfl
    · rw [List.nil_append] at whole
      rw [whole, covers.slice_eq, covers.text_eq clean]

/-- The tokens of a text tile it. Their texts reproduce it exactly if none of them is an error. -/
theorem lex_tiles (text : String) : Tiles text (lex text) ∧
    (sourceText (lex text) = text ↔ ∀ t ∈ lex text, t.isError = false) := by
  obtain ⟨exact, _, gap⟩ := (lex_tiling text).toList_sourceText_eq
  refine ⟨(lex_tiling text).tiles, ?_, fun clean => String.toList_inj.mp (exact clean)⟩
  intro same t member
  cases error : t.isError with
  | false => rfl
  | true =>
    have shorter := gap ⟨t, member, error⟩
    rw [same] at shorter
    exact absurd shorter (Nat.lt_irrefl _)

end TransactSql
