import TransactSql.Proofs.Token.Relexing

/-!
# Quoting and unquoting

A delimited token ends where the lexer finds a delimiter that is not doubled, and its value has the
doubled ones halved. The two agree: what is quoted is one token with that value, and a delimited token
is its value quoted in the same form.
-/

namespace TransactSql

open Text

/-! ### Doubled delimiters -/

namespace Text

theorem undouble_cons_of_ne {q c : Char} (other : c ≠ q) (cs : List Char) :
    undouble q (c :: cs) = c :: undouble q cs := by
  cases cs with
  | nil => simp [undouble]
  | cons d cs => rw [undouble, if_neg fun both => other both.1]

theorem undouble_double (q : Char) (cs : List Char) : undouble q (double q cs) = cs := by
  induction cs with
  | nil => simp [double, undouble]
  | cons c cs ih =>
    rw [double]
    split
    · next same => rw [undouble, if_pos ⟨rfl, rfl⟩, ih, same]
    · next other => rw [undouble_cons_of_ne other, ih]

theorem unquote_quote (opening closing : Char) (cs : List Char) :
    unquote opening closing (quote opening closing cs) = cs := by
  rw [unquote, quote, List.cons_append, stripDelimiters,
    if_pos ⟨rfl, by rw [List.getLast?_concat]⟩, List.dropLast_concat, undouble_double]

end Text

namespace Lexeme

/-- What is doubled does not close. -/
theorem closingLength?_double (q : Char) {rest : List Char} (ends : rest.head? ≠ some q)
    (cs : List Char) :
    closingLength? q (double q cs ++ q :: rest) = some ((double q cs).length + 1) := by
  induction cs with
  | nil => exact closingLength?_closed ends
  | cons c cs ih =>
    rw [double]
    split
    · simp only [List.cons_append, closingLength?_doubled, ih]
      rfl
    · next other =>
      rw [List.cons_append, closingLength?_of_ne other, ih]
      rfl

/-- Up to the closing delimiter, every delimiter is doubled. -/
theorem double_of_closingLength? {q : Char} : ∀ {cs : List Char} {n : Nat},
    closingLength? q cs = some n → ∃ ds, cs.take n = double q ds ++ [q]
  | [], n, h => nomatch h
  | [c], n, h => by
    rw [closingLength?] at h
    split at h
    · next same =>
      cases h
      exact ⟨[], by rw [same]; rfl⟩
    · cases h
  | c :: d :: cs, n, h => by
    by_cases same : c = q
    · subst same
      by_cases doubled : d = c
      · subst doubled
        rw [closingLength?_doubled] at h
        obtain ⟨m, closes, rfl⟩ := Option.map_eq_some_iff.mp h
        obtain ⟨ds, inside⟩ := double_of_closingLength? closes
        exact ⟨d :: ds, by simp [double, inside]⟩
      · rw [closingLength?_closed (by simpa using doubled)] at h
        cases h
        exact ⟨[], rfl⟩
    · rw [closingLength?_of_ne same] at h
      obtain ⟨m, closes, rfl⟩ := Option.map_eq_some_iff.mp h
      obtain ⟨ds, inside⟩ := double_of_closingLength? closes
      exact ⟨c :: ds, by simp [double, same, inside]⟩

end Lexeme

/-! ### The forms of delimited tokens -/

/-- How a text is quoted. A national string starts with a capital or a small letter. -/
inductive Quoting where
  | brackets
  | doubleQuotes
  | string
  | nationalString (small : Bool)
deriving Repr, DecidableEq

namespace Quoting

/-- The kind of the token. -/
def kind : Quoting → TokenKind
  | .brackets | .doubleQuotes => .word .quoted
  | .string => .literal .string
  | .nationalString _ => .literal .nationalString

def quote : Quoting → List Char → List Char
  | .brackets, cs => Text.quote '[' ']' cs
  | .doubleQuotes, cs => Text.quote '"' '"' cs
  | .string, cs => Text.quote '\'' '\'' cs
  | .nationalString small, cs => (if small then 'n' else 'N') :: Text.quote '\'' '\'' cs

/-- The first character, and what else stands in front of the text. -/
def opening : Quoting → Char × List Char
  | .brackets => ('[', [])
  | .doubleQuotes => ('"', [])
  | .string => ('\'', [])
  | .nationalString small => (if small then 'n' else 'N', ['\''])

def closing : Quoting → Char
  | .brackets => ']'
  | .doubleQuotes => '"'
  | .string | .nationalString _ => '\''

def lexeme : Quoting → Lexeme
  | .brackets | .doubleQuotes => .word
  | .string => .symbol (.literal .string)
  | .nationalString _ => .symbol (.literal .nationalString)

theorem quote_eq (form : Quoting) (cs : List Char) : form.quote cs =
    form.opening.1 :: (form.opening.2 ++ (double form.closing cs ++ [form.closing])) := by
  cases form <;> rfl

/-- What opens a form is read as that form. -/
theorem measure_opening (form : Quoting) : ∃ what, ∀ cs,
    Lexeme.measure form.opening.1 (form.opening.2 ++ cs) =
      Lexeme.delimited form.lexeme what form.closing (1 + form.opening.2.length) cs := by
  cases form with
  | nationalString small => cases small <;> exact ⟨_, fun _ => rfl⟩
  | _ => exact ⟨_, fun _ => rfl⟩

/-- A quoted text is one lexeme. -/
theorem measure_quote (form : Quoting) (cs : List Char) :
    Lexeme.measure form.opening.1
        (form.opening.2 ++ (double form.closing cs ++ [form.closing])) =
      (form.lexeme, (form.quote cs).length) := by
  obtain ⟨what, reads⟩ := form.measure_opening
  rw [reads, Lexeme.delimited, Lexeme.closingLength?_double _ (by simp), form.quote_eq]
  simp [Nat.add_comm, Nat.add_assoc]

theorem measure?_quote (form : Quoting) (cs : List Char) : Trivia.measure? (form.quote cs) = none := by
  rw [form.quote_eq, Trivia.measure?_cons_eq_none]
  cases form with
  | nationalString small => cases small <;> exact ⟨by decide, nofun, nofun⟩
  | _ => exact ⟨by decide, nofun, nofun⟩

theorem kind_token (form : Quoting) (cs : List Char) (span : Span) :
    (form.lexeme.token (.ofList (form.quote cs)) span).kind = form.kind := by
  cases form <;> simp [lexeme, kind, quote, Text.quote, Lexeme.token, Token.word, Word.ofText]

theorem value_eq (form : Quoting) {t : Token} {cs : List Char} (kind : t.kind = form.kind)
    (text : t.text.toList = form.quote cs) : t.value = .ofList cs := by
  unfold Token.value
  rw [kind, text]
  cases form with
  | brackets => exact congrArg String.ofList (unquote_quote '[' ']' cs)
  | doubleQuotes => exact congrArg String.ofList (unquote_quote '"' '"' cs)
  | string => exact congrArg String.ofList (unquote_quote '\'' '\'' cs)
  | nationalString small =>
    cases small <;> exact congrArg String.ofList (unquote_quote '\'' '\'' cs)

/-! ### Where delimited tokens come from -/

/-- The kinds that quoted texts have. -/
def Delimited (k : TokenKind) : Prop :=
  k = .word .quoted ∨ k = .literal .string ∨ k = .literal .nationalString

instance : DecidablePred Delimited := fun k =>
  inferInstanceAs (Decidable (k = _ ∨ k = _ ∨ k = _))

/-- The lexeme is no symbol that only a delimiter opens. -/
def Plain (found : Lexeme × Nat) : Prop := ∀ k, found.1 = .symbol k → ¬Delimited k

theorem plain_symbol {k : TokenKind} (other : ¬Delimited k) (n : Nat) : Plain (.symbol k, n) := by
  rintro _ ⟨⟩
  exact other

theorem plain_either (second : Char) {long short : TokenKind} (cs : List Char)
    (hlong : ¬Delimited long) (hshort : ¬Delimited short) :
    Plain (Lexeme.either second long short cs) :=
  Lexeme.either_cases second cs (plain_symbol hlong 2) (plain_symbol hshort 1)

theorem plain_numeric (c : Char) (cs : List Char) : Plain (Lexeme.measure.numeric c cs) := by
  have form : ¬Delimited (.literal (Lexeme.number (c :: cs)).1) := by
    rw [Lexeme.number_eq]
    split
    · unfold Lexeme.mantissa Lexeme.fractional
      split <;> simp [Delimited]
    · simp [Delimited]
  exact plain_symbol form _

theorem plain_wordLike (cs : List Char) : Plain (Lexeme.measure.wordLike cs) := by
  rintro _ ⟨⟩

theorem plain_unexpected (c : Char) : Plain (Lexeme.measure.unexpected c) := by
  rintro _ ⟨⟩

/-- Every delimited lexeme has been opened by one of the forms. -/
theorem opens_or_plain (c : Char) (cs : List Char) :
    (∃ form : Quoting, c = form.opening.1 ∧ form.opening.2 <+: cs) ∨ Plain (Lexeme.measure c cs) := by
  unfold Lexeme.measure Lexeme.operator
  split
  case h_23 => exact .inl ⟨.string, rfl, List.nil_prefix⟩
  case h_24 rest => exact .inl ⟨.nationalString false, rfl, ⟨rest, rfl⟩⟩
  case h_25 rest => exact .inl ⟨.nationalString true, rfl, ⟨rest, rfl⟩⟩
  case h_26 => exact .inl ⟨.brackets, rfl, List.nil_prefix⟩
  case h_27 => exact .inl ⟨.doubleQuotes, rfl, List.nil_prefix⟩
  case h_30 =>
    split
    · exact .inr (plain_numeric _ _)
    · exact .inr (plain_symbol (by simp [Delimited]) 1)
  case h_32 =>
    split
    · exact .inr (plain_wordLike _)
    · exact .inr (plain_unexpected _)
  case h_33 => exact .inr (plain_unexpected _)
  case h_34 =>
    split
    · exact .inr (plain_numeric _ _)
    · split
      · exact .inr (plain_wordLike _)
      · exact .inr (plain_unexpected _)
  all_goals first
    | exact .inr (plain_symbol (by simp [Delimited]) _)
    | exact .inr (plain_either _ _ (by simp [Delimited]) (by simp [Delimited]))

theorem opens_of_quoted {c : Char} {cs : List Char}
    (quoted : Word.ofText (.ofList (c :: cs)) = .quoted) : c = '[' ∨ c = '"' := by
  unfold Word.ofText at quoted
  rw [String.toList_ofList] at quoted
  split at quoted
  case h_1 same => exact .inl (List.cons.inj same).1
  case h_2 same => exact .inr (List.cons.inj same).1
  case h_6 =>
    cases word : Keyword.ofWord? (.ofList (c :: cs)) <;> rw [word] at quoted <;> cases quoted
  all_goals cases quoted

/-- A delimited token starts as one of the forms does. -/
theorem opens_of_delimited {t : Token} {c : Char} {cs rest : List Char} (read : t.StartsAt c cs rest)
    (delimited : Delimited t.kind) : ∃ form : Quoting, c = form.opening.1 ∧ form.opening.2 <+: cs := by
  have pos := (Lexeme.measure_proper c cs).1
  have kind := read.kind
  rcases opens_or_plain c cs with opens | plain
  · exact opens
  · generalize Lexeme.measure c cs = found at pos kind plain
    obtain ⟨found, n⟩ := found
    cases found with
    | word =>
      obtain ⟨n, rfl⟩ := Nat.exists_eq_add_one_of_ne_zero (Nat.ne_of_gt pos)
      have quoted : Word.ofText (.ofList (c :: cs.take n)) = .quoted := by
        rw [kind] at delimited
        simpa [Delimited, Lexeme.token, Token.word] using delimited
      rcases opens_of_quoted quoted with rfl | rfl
      · exact ⟨.brackets, rfl, List.nil_prefix⟩
      · exact ⟨.doubleQuotes, rfl, List.nil_prefix⟩
    | symbol k =>
      have same : t.kind = k := kind
      exact absurd (same ▸ delimited) (plain k rfl)
    | fault cause =>
      rw [kind] at delimited
      simp [Delimited, Lexeme.token, Token.error] at delimited

/-- A delimited token is a text quoted in one of the forms. -/
theorem eq_quote_of_delimited {t : Token} {c : Char} {cs rest : List Char}
    (read : t.StartsAt c cs rest) (delimited : Delimited t.kind) :
    ∃ (form : Quoting) (ds : List Char), t.kind = form.kind ∧ t.text.toList = form.quote ds := by
  obtain ⟨form, rfl, inside, rfl⟩ := opens_of_delimited read delimited
  obtain ⟨what, reads⟩ := form.measure_opening
  have sound : t.isError = false := by
    rcases delimited with kind | kind | kind <;> rw [Token.isError, kind] <;> rfl
  have text := read.text sound
  have kind := read.kind
  rw [reads, Lexeme.delimited] at text kind
  cases closes : Lexeme.closingLength? form.closing inside with
  | none =>
    rw [closes] at kind
    rw [Token.isError, kind] at sound
    cases sound
  | some n =>
    rw [closes] at kind text
    obtain ⟨ds, taken⟩ := Lexeme.double_of_closingLength? closes
    have cut : (form.opening.1 :: (form.opening.2 ++ inside)).take (1 + form.opening.2.length + n) =
        form.quote ds := by
      rw [form.quote_eq, ← taken, Nat.add_assoc, Nat.add_comm, List.take_succ_cons, List.take_length_add_append]
    rw [cut] at text kind
    exact ⟨form, ds, kind.trans (form.kind_token ds _), by rw [text, String.toList_ofList]⟩

end Quoting

/-! ### Tokens of a text -/

/-- A text that is one lexeme. -/
theorem lex_lexeme {c : Char} {cs : List Char} {found : Lexeme}
    (start : Trivia.measure? (c :: cs) = none) (sound : found.isFault = false)
    (measured : Lexeme.measure c cs = (found, (c :: cs).length)) :
    lex (.ofList (c :: cs)) =
      [⟨(found.token (.ofList (c :: cs)) .zero).kind, .ofList (c :: cs),
        ⟨0, byteLength (c :: cs)⟩, [], []⟩, .eof (.emptyAt (byteLength (c :: cs)))] := by
  have token := lexToken_gap 0 measured sound (List.append_nil _).symm (.inl rfl) rfl
  rw [lex, String.toList_ofList, List.length_cons, lexTokens, Trivia.run_of_none start]
  dsimp only [Trivia.byteLength, Nat.add_zero]
  have behind : ∀ offset, lexTokens (cs.length + 1) offset [] = [.eof (.emptyAt offset)] :=
    fun _ => rfl
  rw [token]
  dsimp only [Trivia.byteLength, Nat.add_zero]
  rw [behind, Nat.zero_add]

theorem lex_quote (form : Quoting) (cs : List Char) :
    lex (.ofList (form.quote cs)) =
      [⟨form.kind, .ofList (form.quote cs), ⟨0, byteLength (form.quote cs)⟩, [], []⟩,
        .eof (.emptyAt (byteLength (form.quote cs)))] := by
  have sound : form.lexeme.isFault = false := by cases form <;> rfl
  have kind := form.kind_token cs .zero
  have measured := form.measure_quote cs
  have start := form.measure?_quote cs
  rw [form.quote_eq] at kind measured start ⊢
  rw [lex_lexeme start sound measured, kind]

/-- Every quoted text is one token, whose value is that text, and every delimited token of a text is
its value quoted. -/
theorem lex_quoting :
    (∀ (form : Quoting) (s : String), ∃ t e, lex (.ofList (form.quote s.toList)) = [t, e] ∧
      t.kind = form.kind ∧ t.keyword? = none ∧ t.text = .ofList (form.quote s.toList) ∧ t.value = s ∧
      e.isEof = true) ∧
    ∀ (text : String), ∀ t ∈ lex text, Quoting.Delimited t.kind →
      ∃ form : Quoting, t.kind = form.kind ∧ t.text.toList = form.quote t.value.toList := by
  refine ⟨fun form s => ?_, fun text t member delimited => ?_⟩
  · refine ⟨_, _, lex_quote form s.toList, rfl, ?_, rfl, ?_, rfl⟩
    · cases form <;> rfl
    · rw [form.value_eq rfl String.toList_ofList, String.ofList_toList]
  · rcases (lex_scanned text).mem member with ⟨eof, -⟩ | ⟨c, cs, rest, read⟩
    · simp [eof, Quoting.Delimited] at delimited
    · obtain ⟨form, ds, kind, quoted⟩ := Quoting.eq_quote_of_delimited read delimited
      refine ⟨form, kind, ?_⟩
      rw [form.value_eq kind quoted, String.toList_ofList, quoted]

/-- Tokens with nothing between them, doubled delimiters at an end, and no text at all. -/
theorem lex_quoting_adjacent :
    (lex "[]]\n]\"\"n'''x'N'é'").dropLast.map Token.value = ["]\n", "", "'x", "é"] ∧
    (∀ t ∈ (lex "[]]\n]\"\"n'''x'N'é'").dropLast, Quoting.Delimited t.kind) ∧
    ∀ t ∈ (lex "[]]\n]\"\"n'''x'N'é'").dropLast,
      ∃ form : Quoting, t.kind = form.kind ∧ t.text.toList = form.quote t.value.toList := by
  have delimited : ∀ t ∈ (lex "[]]\n]\"\"n'''x'N'é'").dropLast, Quoting.Delimited t.kind := by
    decide +kernel
  exact ⟨by decide +kernel, delimited, fun t member =>
    lex_quoting.2 _ t (List.dropLast_subset _ member) (delimited t member)⟩

end TransactSql
