import TransactSql.Proofs.Likeness.Indifference
import TransactSql.Proofs.Token.Relexing

/-!
# Clean texts are read as the texts they come from

The clean text of a tree has the tokens of the text that was parsed, so it is parsed as the same
tree, apart from spans and trivia.
-/

namespace TransactSql

/-! ### The tokens of a tree -/

theorem appendClean_eq_of_readAs {raw ts : List Token} (read : List.Forall₂ Token.ReadAs raw ts)
    (written : String) (apart : Bool) :
    appendClean written apart ts = appendClean written apart raw := by
  induction read generalizing written apart with
  | nil => rfl
  | @cons t u _ _ first _ ih =>
    have same : u.text = t.text ∧ u.leading = t.leading ∧ u.trailing = t.trailing := by
      rcases first with rfl | rfl
      · exact ⟨rfl, rfl, rfl⟩
      · unfold Token.asAssignment
        split <;> exact ⟨rfl, rfl, rfl⟩
    simp only [appendClean, same, ih]

theorem RoundTrips.clean_eq {text : String} {tree : Tree} (h : RoundTrips text tree) :
    tree.clean = cleanText (lex text).dropLast :=
  appendClean_eq_of_readAs h.tokens "" false

/-! ### Tokens that differ in spans and trivia -/

theorem Token.Same.asAssignment {t u : Token} (h : t.Same u) :
    t.asAssignment.Same u.asAssignment := by
  unfold Token.asAssignment
  rw [h.kind]
  split
  · exact ⟨rfl, h.text⟩
  · exact h

def sameCorrespondence : Correspondence where
  tokens := Token.Same
  spans _ _ := True
  kind h := by rw [h.kind]
  assignment h := h.asAssignment
  placeholder := ⟨rfl, rfl⟩

theorem Cursor.related_of_same {ts us : List Token} (same : List.Forall₂ Token.Same ts us) :
    Related sameCorrespondence (ofTokens ts) (ofTokens us) := by
  have ends : ∀ {t u : Token}, t.Same u → t.isEof = u.isEof := by
    intro t u h
    rw [Token.isEof, Token.isEof, h.kind]
  obtain ⟨ahead, eof⟩ := rel_ofTokens ends ⟨rfl, rfl⟩ same
  exact ⟨⟨ahead⟩, ⟨eof⟩, ahead.imp fun _ _ _ => trivial, trivial, ⟨.none⟩, rfl, ⟨.nil⟩⟩

/-! ### Texts -/

/-- A text and one that has the same tokens, with no trivia but single spaces between tokens. -/
structure Cleaned (text clean : String) : Prop where
  tokens : List.Forall₂ Token.Same (lex text) (lex clean)
  leading : ∀ t ∈ lex clean, t.leading = []
  trailing : ∀ t ∈ lex clean, t.trailing = [] ∨ t.trailing = [⟨.whitespace, " "⟩]
  /-- The end of input, which has no text, does not follow a space. -/
  between : (lex clean).IsChain fun t u => t.trailing = [] ∨ u.text ≠ ""

theorem cleaned_cleanText {text : String} (sound : ∀ t ∈ lex text, t.isError = false) :
    Cleaned text (cleanText (lex text).dropLast) := by
  have again := lex_cleanText sound
  constructor
  all_goals rw [again]
  · exact forall₂_relaid 0 _
  · exact fun t member => (trivia_relaid t member).1
  · exact fun t member => (trivia_relaid t member).2
  · exact isChain_relaid 0 _

theorem cleanText_idempotent {text clean : String} (sound : ∀ t ∈ lex text, t.isError = false)
    (same : clean = cleanText (lex text).dropLast) (sound' : ∀ t ∈ lex clean, t.isError = false) :
    cleanText (lex clean).dropLast = clean := by
  rw [← String.toList_inj, toList_cleanText_lex sound', same, lex_cleanText sound,
    cleanChars_relaid, toList_cleanText_lex sound]

namespace Parser

theorem parseAll_of_same [Relatable α] {p : Parser α} (related : Related sameCorrespondence p p)
    {text text' : String} (same : List.Forall₂ Token.Same (lex text) (lex text')) {a : α}
    (h : parseAll p text = .ok a) :
    ∃ b, parseAll p text' = .ok b ∧ Related sameCorrespondence a b := by
  have runs : Outcome sameCorrespondence (p.toEnd (.ofText text)) (p.toEnd (.ofText text')) :=
    outcome inferInstance (Cursor.related_of_same same) rfl
  rw [parseAll_eq, result] at h ⊢
  generalize p.toEnd (.ofText text) = reply at h runs
  generalize p.toEnd (.ofText text') = reply' at runs ⊢
  cases runs with
  | ok values =>
    cases h
    exact ⟨_, rfl, values⟩
  | _ => cases h

/-- The clean text of what a text was parsed as has the tokens of the text, is parsed as the same
tree and is the clean text of that tree too. -/
structure Reread (text : String) (tree : α → Tree) (parse : String → Except Failure α) (a : α) :
    Prop where
  cleaned : Cleaned text (tree a).clean
  again : ∃ b, parse (tree a).clean = .ok b ∧ Tree.Alike Token.Same (tree a) (tree b) ∧
    (tree b).clean = (tree a).clean

theorem parseAll_reread [Relatable α] {p : Parser α} {slots : α → List Tree} [Yields p slots]
    {tree : α → Tree} (related : Related sameCorrespondence p p)
    (trees : ∀ {a b}, Related sameCorrespondence a b → Related sameCorrespondence (tree a) (tree b))
    (tokens : ∀ a, (tree a).tokens = Tree.tokensOf (slots a)) {text : String} {a : α}
    (h : parseAll p text = .ok a) : Reread text tree (parseAll p) a := by
  have first : RoundTrips text (tree a) := parseAll_roundTrips h (tokens a)
  have cleaned := cleaned_cleanText first.clean
  -- The tokens of the tree have the texts and the trivia of those of the text.
  rw [← first.clean_eq] at cleaned
  obtain ⟨b, again, alike⟩ := parseAll_of_same related cleaned.tokens h
  have second : RoundTrips (tree a).clean (tree b) := parseAll_roundTrips again (tokens b)
  refine ⟨cleaned, b, again, (trees alike).rel, ?_⟩
  rw [second.clean_eq]
  exact cleanText_idempotent first.clean first.clean_eq second.clean

end Parser

/-- Whatever a text is parsed as, its clean text is parsed as the same tree, and stays as it is. -/
theorem parse_reread (text : String) :
    (∀ e, parseExpression text = .ok e → Parser.Reread text Expr.tree parseExpression e) ∧
    (∀ s, parseStatement text = .ok s → Parser.Reread text Statement.tree parseStatement s) ∧
    (∀ ss, parseScript text = .ok ss → Parser.Reread text Statement.listTree parseScript ss) := by
  refine ⟨fun e h => ?_, fun s h => ?_, fun ss h => ?_⟩
  · exact Parser.parseAll_reread (p := (Parser.expr defaultDepth .none).withAssignment false)
      inferInstance (fun h => ⟨h.rel⟩) (by simp) h
  · exact Parser.parseAll_reread (p := Parser.topStatement defaultDepth)
      inferInstance (fun h => ⟨h.rel⟩) (by simp) h
  · exact Parser.parseAll_reread inferInstance Statement.related_listTree
      (by simp [Statement.listTree]) h

theorem exists_of_toOption_any {x : Except ε α} {p : α → Bool} (h : x.toOption.any p = true) :
    ∃ a, x = .ok a ∧ p a = true := by
  cases x with
  | ok a => exact ⟨a, rfl, h⟩
  | error e => cases h

/-- Comments and newlines between tokens, tokens that nothing separates, and trivia at the ends. -/
theorem parse_reread_spaced :
    (∃ e, parseExpression "f(1.5e-3)--x\n*/* */.5 " = .ok e ∧ e.tree.clean = "f(1.5e-3) * .5" ∧
      Parser.Reread "f(1.5e-3)--x\n*/* */.5 " Expr.tree parseExpression e) ∧
    (∃ s, parseStatement "begin/**/select(1)\r\nend" = .ok s ∧
      s.tree.clean = "begin select(1) end" ∧
      Parser.Reread "begin/**/select(1)\r\nend" Statement.tree parseStatement s) ∧
    (∃ ss, parseScript "set @x =N'a' ;\n\nbreak --" = .ok ss ∧
      (Statement.listTree ss).clean = "set @x =N'a' ; break" ∧
      Parser.Reread "set @x =N'a' ;\n\nbreak --" Statement.listTree parseScript ss) := by
  obtain ⟨e, expression, clean⟩ := exists_of_toOption_any
    (x := parseExpression "f(1.5e-3)--x\n*/* */.5 ") (p := (·.tree.clean == "f(1.5e-3) * .5"))
    (by decide +kernel)
  obtain ⟨s, statement, clean'⟩ := exists_of_toOption_any
    (x := parseStatement "begin/**/select(1)\r\nend") (p := (·.tree.clean == "begin select(1) end"))
    (by decide +kernel)
  obtain ⟨ss, script, clean''⟩ := exists_of_toOption_any
    (x := parseScript "set @x =N'a' ;\n\nbreak --")
    (p := fun ss => ((Statement.listTree ss).clean == "set @x =N'a' ; break")) (by decide +kernel)
  exact ⟨⟨e, expression, beq_iff_eq.mp clean, (parse_reread _).1 e expression⟩,
    ⟨s, statement, beq_iff_eq.mp clean', (parse_reread _).2.1 s statement⟩,
    ⟨ss, script, beq_iff_eq.mp clean'', (parse_reread _).2.2 ss script⟩⟩

end TransactSql
