import Mathlib.Data.List.Chain
import TransactSql.Proofs.Token.Lookahead

/-!
# Lexing the clean text

The clean text of tokens has one space where there was trivia between two of them. Read again, it
gives the same tokens: a token that nothing separates from the next ones is measured with these in
sight, as before, and one that is set apart ends where it did.
-/

namespace TransactSql

open Text

/-! ### Trivia -/

namespace Trivia

theorem measure?_pos {cs : List Char} {kind : TriviaKind} {n : Nat}
    (h : measure? cs = some (kind, n)) : 0 < n := by
  unfold measure? at h
  split at h
  case h_1 => cases h
  case h_7 =>
    split at h <;> cases h
    exact Nat.succ_pos _
  all_goals
    cases h
    exact Nat.succ_pos _

theorem measure?_pieces {limit : Nat} {cs : List Char} (enough : cs.length ≤ limit) :
    measure? (pieces false limit cs).2 = none := by
  induction limit generalizing cs with
  | zero =>
    have empty : cs = [] := List.length_eq_zero_iff.mp (Nat.le_zero.mp enough)
    subst empty
    rfl
  | succ limit ih =>
    rw [pieces]
    split
    · assumption
    · next kind n measured =>
      have pos := measure?_pos measured
      rw [Bool.false_and, if_neg Bool.false_ne_true]
      refine ih ?_
      rw [List.length_drop]
      omega

theorem measure?_of_run {cs rest : List Char} {ts : List Trivia} (h : run cs = (ts, rest)) :
    measure? rest = none := by
  have ended := measure?_pieces (Nat.le_refl cs.length)
  rw [show pieces false cs.length cs = (ts, rest) from h] at ended
  exact ended

theorem pieces_of_none {cs : List Char} (none : measure? cs = .none) (withinLine : Bool)
    (limit : Nat) : pieces withinLine limit cs = ([], cs) := by
  cases limit with
  | zero => rfl
  | succ limit => rw [pieces, none]

theorem run_of_none {cs : List Char} (none : measure? cs = .none) : run cs = ([], cs) :=
  pieces_of_none none false _

def space : Trivia := ⟨.whitespace, " "⟩

theorem lineRun_space {cs : List Char} (none : measure? cs = .none) :
    lineRun (' ' :: cs) = ([space], cs) := by
  have alone : cs.takeWhile (fun c => isBlank c && !isLineEnd c) = [] := by
    cases cs with
    | nil => rfl
    | cons c cs => simp [(measure?_cons_eq_none.mp none).1]
  have measured : measure? (' ' :: cs) = some (.whitespace, 1) := by
    have blank : isBlank ' ' = true := by decide
    simp [measure?, blank, alone]
  rw [lineRun, List.length_cons, pieces, measured]
  simp only [List.drop_one, List.tail_cons, pieces_of_none none]
  rfl

end Trivia

/-! ### Scanned texts -/

/-- The text `c :: cs` starts with the lexeme of a token, and `rest` is behind its trivia. -/
structure Token.StartsAt (t : Token) (c : Char) (cs rest : List Char) : Prop where
  start : Trivia.measure? (c :: cs) = none
  kind : t.kind = ((Lexeme.measure c cs).1.token
    (.ofList ((c :: cs).take (Lexeme.measure c cs).2)) .zero).kind
  text : t.isError = false → t.text = .ofList ((c :: cs).take (Lexeme.measure c cs).2)
  behind : (c :: cs).drop (Lexeme.measure c cs).2 = Trivia.chars t.trailing ++ rest

/-- The tokens of a text, each read where the one before it and trivia end. -/
inductive Scanned : (cs : List Char) → List Token → Prop
  | eof {t : Token} (kind : t.kind = .eof) (text : t.text = "") :
    Scanned (Trivia.chars t.leading) [t]
  | token {c : Char} {cs rest : List Char} {t : Token} {ts : List Token}
    (read : t.StartsAt c cs rest) (more : Scanned rest ts) :
    Scanned (Trivia.chars t.leading ++ c :: cs) (t :: ts)

theorem Lexeme.token_eq {found : Lexeme} (sound : found.isFault = false) (text : String)
    (span : Span) :
    found.token text span = ⟨(found.token text .zero).kind, text, span, [], []⟩ := by
  cases found with
  | fault cause => cases sound
  | _ => rfl

theorem Lexeme.kind_token (found : Lexeme) (text : String) (span span' : Span) :
    (found.token text span).kind = (found.token text span').kind := by
  cases found <;> rfl

theorem Lexeme.text_token {found : Lexeme} {text : String} {span : Span}
    (sound : (found.token text span).isError = false) : (found.token text span).text = text := by
  cases found with
  | fault cause => cases sound
  | _ => rfl

namespace Token.StartsAt

variable {t : Token} {c : Char} {cs rest : List Char}

theorem isFault_eq (h : t.StartsAt c cs rest) (sound : t.isError = false) :
    (Lexeme.measure c cs).1.isFault = false := by
  have kind := h.kind
  generalize Lexeme.measure c cs = found at kind ⊢
  obtain ⟨found, n⟩ := found
  cases found with
  | fault cause =>
    rw [Token.isError, kind] at sound
    cases sound
  | _ => rfl

theorem text_eq (h : t.StartsAt c cs rest) (sound : t.isError = false) :
    t.text.toList.length = (Lexeme.measure c cs).2 ∧ 0 < (Lexeme.measure c cs).2 ∧
      c :: cs = t.text.toList ++ (Trivia.chars t.trailing ++ rest) := by
  have within : (Lexeme.measure c cs).2 ≤ (c :: cs).length := by
    rw [List.length_cons, Nat.add_comm]
    exact Lexeme.measure_le c cs
  rw [h.text sound, String.toList_ofList, ← h.behind, List.take_append_drop, List.length_take]
  exact ⟨Nat.min_eq_left within, (Lexeme.measure_proper c cs).1, rfl⟩

end Token.StartsAt

theorem lexToken_startsAt {leading : List Trivia} {offset : Nat} {c : Char} {cs rest : List Char}
    {t : Token} (start : Trivia.measure? (c :: cs) = none)
    (h : lexToken leading offset c cs = (t, rest)) :
    t.leading = leading ∧ t.StartsAt c cs rest := by
  unfold lexToken at h
  dsimp only at h
  generalize line : Trivia.lineRun ((c :: cs).drop (Lexeme.measure c cs).2) = l at h
  have trailing := Trivia.lineRun_append line
  split at h
  · next final run =>
    obtain ⟨rfl, rfl⟩ := Prod.mk.inj h
    have last := Trivia.run_append run
    refine ⟨rfl, start, Lexeme.kind_token _ _ _ _, fun sound => Lexeme.text_token sound, ?_⟩
    simp only [Token.withTrivia, Trivia.chars_append, List.append_nil] at last ⊢
    rw [← last, trailing]
  · obtain ⟨rfl, rfl⟩ := Prod.mk.inj h
    exact ⟨rfl, start, Lexeme.kind_token _ _ _ _, fun sound => Lexeme.text_token sound, trailing⟩

theorem lexTokens_scanned {limit offset : Nat} {cs : List Char} (enough : cs.length < limit) :
    Scanned cs (lexTokens limit offset cs) := by
  induction limit generalizing offset cs with
  | zero => omega
  | succ limit ih =>
    rw [lexTokens]
    generalize run : Trivia.run cs = r
    obtain ⟨leading, rest⟩ := r
    have front := Trivia.run_append run
    have start := Trivia.measure?_of_run run
    cases rest with
    | nil =>
      rw [front, List.append_nil]
      exact .eof (t := (Token.eof _).withTrivia leading []) rfl rfl
    | cons c rest =>
      dsimp only
      generalize token : lexToken leading (offset + Trivia.byteLength leading) c rest = p
      obtain ⟨t, after⟩ := p
      obtain ⟨rfl, read⟩ := lexToken_startsAt start token
      rw [front]
      refine .token read (ih ?_)
      have pos := (Lexeme.measure_proper c rest).1
      have sizes := congrArg List.length front
      have sizes' := congrArg List.length read.behind
      simp only [List.length_append, List.length_cons, List.length_drop] at sizes sizes'
      omega

theorem Scanned.mem {cs : List Char} {ts : List Token} (scanned : Scanned cs ts) {t : Token}
    (member : t ∈ ts) : (t.kind = .eof ∧ t.text = "") ∨ ∃ c cs rest, t.StartsAt c cs rest := by
  induction scanned with
  | eof kind blank =>
    rw [List.mem_singleton.mp member]
    exact .inl ⟨kind, blank⟩
  | token read _ ih =>
    rcases List.mem_cons.mp member with rfl | later
    · exact .inr ⟨_, _, _, read⟩
    · exact ih later

theorem lex_scanned (text : String) : Scanned text.toList (lex text) :=
  lexTokens_scanned (Nat.lt_succ_self _)

/-! ### Clean texts -/

/-- What the clean text has between a token and those that follow it. -/
def gap (t : Token) : List Token → List Trivia
  | [] => []
  | u :: _ => if u.text.isEmpty || (t.trailing.isEmpty && u.leading.isEmpty) then [] else [.space]

def cleanChars : List Token → List Char
  | [] => []
  | t :: ts => t.text.toList ++ (Trivia.chars (gap t ts) ++ cleanChars ts)

/-- The tokens as the clean text has them from an offset on. -/
def relaid (offset : Nat) : List Token → List Token
  | [] => []
  | t :: ts =>
    ⟨t.kind, t.text, ⟨offset, offset + byteLength t.text.toList⟩, [], gap t ts⟩ ::
      relaid (offset + byteLength t.text.toList + Trivia.byteLength (gap t ts)) ts

theorem gap_cases (t : Token) (ts : List Token) : gap t ts = [] ∨ gap t ts = [.space] := by
  cases ts with
  | nil => exact .inl rfl
  | cons u us =>
    simp only [gap]
    split
    · exact .inl rfl
    · exact .inr rfl

/-- A lexeme that at most one space separates from the next token. -/
theorem lexToken_gap {c : Char} {cs lexeme rest : List Char} {found : Lexeme} {gap : List Trivia}
    (offset : Nat) (measured : Lexeme.measure c cs = (found, lexeme.length))
    (sound : found.isFault = false) (split : c :: cs = lexeme ++ (Trivia.chars gap ++ rest))
    (single : gap = [] ∨ gap = [.space]) (none : Trivia.measure? rest = .none) :
    lexToken [] offset c cs =
      (⟨(found.token (.ofList lexeme) .zero).kind, .ofList lexeme,
        ⟨offset, offset + byteLength lexeme⟩, [], gap⟩, rest) := by
  have line : Trivia.lineRun (Trivia.chars gap ++ rest) = (gap, rest) := by
    obtain rfl | rfl := single
    · exact Trivia.pieces_of_none none true _
    · exact Trivia.lineRun_space none
  unfold lexToken
  rw [measured]
  dsimp only
  rw [split, List.take_left, List.drop_left, line, Lexeme.token_eq sound]
  dsimp only
  rw [Trivia.run_of_none none]
  cases rest with
  | nil => simp [Token.withTrivia]
  | cons d rest => rfl

namespace Scanned

variable {cs : List Char} {ts : List Token}

/-- Only the end of input has no text. -/
theorem cleanChars_of_empty {t : Token} (h : Scanned cs (t :: ts)) (sound : t.isError = false)
    (empty : t.text = "") : cleanChars (t :: ts) = [] := by
  cases h with
  | eof => simp [cleanChars, empty, gap]
  | token read more =>
    obtain ⟨length, pos, _⟩ := read.text_eq sound
    rw [empty] at length
    exact absurd length (Nat.ne_of_lt pos)

/-- From where its first token starts, the text agrees with the clean text at least to the end of
this token, up to a place where the clean text is set apart. -/
theorem shares (h : Scanned cs ts) (sound : ∀ t ∈ ts, t.isError = false) :
    ∃ t us x r r', ts = t :: us ∧ cs = Trivia.chars t.leading ++ (x ++ r) ∧
      cleanChars ts = x ++ r' ∧ Apart r' ∧ t.text.toList.length ≤ x.length := by
  induction h with
  | @eof t kind text =>
    have none : cleanChars [t] = [] := by simp [cleanChars, text, gap]
    exact ⟨t, [], [], [], [], rfl, by simp, none, .inl rfl, by simp [text]⟩
  | @token c cs rest t ts read more ih =>
    -- What is shared from the next token on is shared from here if no trivia comes between.
    rw [List.forall_mem_cons] at sound
    obtain ⟨_, _, whole⟩ := read.text_eq sound.1
    obtain ⟨u, us, x, r, r', rfl, front, clean, apart, _⟩ := ih sound.2
    rw [whole]
    by_cases glued : t.trailing = [] ∧ u.leading = []
    · have none : gap t (u :: us) = [] := by simp [gap, glued]
      refine ⟨t, u :: us, t.text.toList ++ x, r, r', rfl, ?_, ?_, apart, ?_⟩
      · rw [front, glued.1, glued.2]
        simp
      · rw [cleanChars, none, clean]
        simp
      · rw [List.length_append]
        exact Nat.le_add_right _ _
    · refine ⟨t, u :: us, t.text.toList, _, _, rfl, rfl, rfl, ?_, Nat.le_refl _⟩
      by_cases empty : u.text = ""
      · have none : gap t (u :: us) = [] := by simp [gap, empty]
        rw [none, cleanChars_of_empty more (List.forall_mem_cons.mp sound.2).1 empty]
        exact .inl rfl
      · have one : gap t (u :: us) = [.space] := by
          simp only [gap, Bool.or_eq_true, Bool.and_eq_true, List.isEmpty_iff, String.isEmpty_iff]
          exact if_neg (not_or.mpr ⟨empty, glued⟩)
        rw [one]
        exact .inr ⟨_, rfl⟩

/-- The clean text starts with the lexeme that the text starts with. -/
theorem clean_start {t : Token} {c : Char} {rest : List Char} (read : t.StartsAt c cs rest)
    (more : Scanned rest ts) (sound : ∀ u ∈ t :: ts, u.isError = false) :
    ∃ body, cleanChars (t :: ts) = c :: body ∧ Trivia.measure? (c :: body) = none ∧
      Lexeme.measure c body = Lexeme.measure c cs := by
  obtain ⟨t, ts, x, r, r', same, front, clean, apart, within⟩ := (token read more).shares sound
  cases same
  have here := sound t List.mem_cons_self
  obtain ⟨length, pos, _⟩ := read.text_eq here
  replace front := List.append_cancel_left front
  cases x with
  | nil =>
    rw [List.length_nil] at within
    omega
  | cons d x =>
    rw [List.cons_append] at front
    obtain ⟨rfl, rfl⟩ := List.cons.inj front
    rw [length, List.length_cons, Nat.add_comm] at within
    exact ⟨x ++ r', clean, Trivia.measure?_settles apart read.start,
      Lexeme.settles_measure c x r r' apart (read.isFault_eq here) within⟩

theorem measure?_cleanChars (h : Scanned cs ts) (sound : ∀ t ∈ ts, t.isError = false) :
    Trivia.measure? (cleanChars ts) = none := by
  cases h with
  | eof kind text => simp [cleanChars, text, gap, Trivia.measure?]
  | token read more =>
    obtain ⟨body, clean, none, _⟩ := clean_start read more sound
    rw [clean, none]

theorem lexTokens_cleanChars (h : Scanned cs ts) (sound : ∀ t ∈ ts, t.isError = false)
    {limit offset : Nat} (enough : (cleanChars ts).length < limit) :
    lexTokens limit offset (cleanChars ts) = relaid offset ts := by
  induction h generalizing limit offset with
  | @eof t kind text =>
    obtain ⟨limit, rfl⟩ := Nat.exists_eq_add_one_of_ne_zero (Nat.ne_zero_of_lt enough)
    have none : cleanChars [t] = [] := by simp [cleanChars, text, gap]
    rw [none, relaid, kind, text]
    rfl
  | @token c cs rest t ts read more ih =>
    obtain ⟨limit, rfl⟩ := Nat.exists_eq_add_one_of_ne_zero (Nat.ne_zero_of_lt enough)
    obtain ⟨body, clean, none, again⟩ := clean_start read more sound
    rw [List.forall_mem_cons] at sound
    obtain ⟨length, pos, _⟩ := read.text_eq sound.1
    -- The lexeme is cut off as it was, and behind it at most a space comes before the next token.
    have parts : c :: body = t.text.toList ++ (Trivia.chars (gap t ts) ++ cleanChars ts) :=
      clean.symm
    have token : lexToken [] offset c body =
        (⟨t.kind, t.text, ⟨offset, offset + byteLength t.text.toList⟩, [], gap t ts⟩,
          cleanChars ts) := by
      have token := lexToken_gap offset (again.trans (Prod.ext rfl length.symm))
        (read.isFault_eq sound.1) parts (gap_cases t ts) (more.measure?_cleanChars sound.2)
      rw [String.ofList_toList] at token
      rw [token, read.kind, read.text sound.1]
    have fewer : (cleanChars ts).length < limit := by
      rw [clean, parts, List.length_append, List.length_append] at enough
      omega
    rw [clean, lexTokens, Trivia.run_of_none none]
    simp only [Trivia.byteLength, Nat.add_zero, token, relaid]
    rw [ih sound.2 fewer]

end Scanned

/-! ### Rendering -/

theorem texts_of_cons {t : Token} {ts : List Token} (named : ∀ u ∈ (t :: ts).dropLast, u.text ≠ "") :
    (t.text = "" → ts = []) ∧ ∀ u ∈ ts.dropLast, u.text ≠ "" := by
  cases ts with
  | nil => simp
  | cons u ts =>
    rw [List.dropLast_cons_cons, List.forall_mem_cons] at named
    exact ⟨fun empty => absurd empty named.1, named.2⟩

/-- Behind some text, whose last token is `t`. At most the last of the other tokens has no text. -/
theorem toList_appendClean {written : String} {t : Token} {ts : List Token} (nonempty : written ≠ "")
    (named : ∀ u ∈ ts.dropLast, u.text ≠ "") :
    (appendClean written (!t.trailing.isEmpty) ts).toList =
      written.toList ++ (Trivia.chars (gap t ts) ++ cleanChars ts) := by
  induction ts generalizing written t with
  | nil => simp [appendClean, gap, cleanChars]
  | cons u us ih =>
    obtain ⟨last, others⟩ := texts_of_cons named
    by_cases empty : u.text = ""
    · simp [last empty, appendClean, empty, gap, cleanChars]
    · have between : (if !written.isEmpty && (!t.trailing.isEmpty || !u.leading.isEmpty) then " "
          else "").toList = Trivia.chars (gap t (u :: us)) := by
        cases h : t.trailing.isEmpty <;> cases h' : u.leading.isEmpty <;>
          simp [gap, nonempty, empty, h, h', Trivia.space]
      rw [appendClean, if_neg (by simpa using empty)]
      dsimp only
      rw [ih (by simp [empty]) others, String.toList_append, String.toList_append, between,
        cleanChars]
      simp only [List.append_assoc]

theorem toList_cleanText {ts : List Token} (named : ∀ t ∈ ts.dropLast, t.text ≠ "") :
    (cleanText ts).toList = cleanChars ts := by
  cases ts with
  | nil => rfl
  | cons t ts =>
    obtain ⟨last, others⟩ := texts_of_cons named
    by_cases empty : t.text = ""
    · simp [last empty, cleanText, appendClean, empty, gap, cleanChars]
    · rw [cleanText, appendClean, if_neg (by simpa using empty)]
      dsimp only
      rw [toList_appendClean (by simp [empty]) others, cleanChars]
      simp

theorem cleanChars_relaid (offset : Nat) (ts : List Token) :
    cleanChars (relaid offset ts) = cleanChars ts := by
  induction ts generalizing offset with
  | nil => rfl
  | cons t ts ih =>
    have same : ∀ offset span,
        gap ⟨t.kind, t.text, span, [], gap t ts⟩ (relaid offset ts) = gap t ts := by
      intro offset span
      cases ts with
      | nil => rfl
      | cons u us =>
        simp only [relaid, gap]
        split <;> simp_all
    rw [relaid, cleanChars, cleanChars, ih, same]

theorem appendClean_concat (written : String) (apart : Bool) (ts : List Token) {last : Token}
    (empty : last.text = "") :
    appendClean written apart (ts ++ [last]) = appendClean written apart ts := by
  induction ts generalizing written apart with
  | nil => simp [appendClean, empty]
  | cons t ts ih => simp only [List.cons_append, appendClean, ih]

/-! ### The lexer -/

/-- The tokens differ in spans and trivia at most. -/
structure Token.Same (t u : Token) : Prop where
  kind : u.kind = t.kind
  text : u.text = t.text

theorem forall₂_relaid (offset : Nat) (ts : List Token) :
    List.Forall₂ Token.Same ts (relaid offset ts) := by
  induction ts generalizing offset with
  | nil => exact .nil
  | cons t ts ih => exact .cons ⟨rfl, rfl⟩ (ih _)

theorem trivia_relaid {offset : Nat} {ts : List Token} :
    ∀ t ∈ relaid offset ts, t.leading = [] ∧ (t.trailing = [] ∨ t.trailing = [.space]) := by
  induction ts generalizing offset with
  | nil => simp [relaid]
  | cons t ts ih => exact List.forall_mem_cons.mpr ⟨⟨rfl, gap_cases t ts⟩, ih⟩

/-- A space is followed by a token with text. -/
theorem isChain_relaid (offset : Nat) (ts : List Token) :
    (relaid offset ts).IsChain fun t u => t.trailing = [] ∨ u.text ≠ "" := by
  induction ts generalizing offset with
  | nil => exact .nil
  | cons t ts ih =>
    cases ts with
    | nil => exact .singleton _
    | cons u us =>
      refine .cons_cons ?_ (ih _)
      by_cases empty : u.text = ""
      · exact .inl (by simp [gap, empty])
      · exact .inr empty

theorem text_ne_empty {text : String} (sound : ∀ t ∈ lex text, t.isError = false) :
    ∀ t ∈ (lex text).dropLast, t.text ≠ "" := by
  obtain ⟨init, last, tokens, _, others, _⟩ := (lex_tiling text).ends
  intro t member empty
  have inside : t ∈ lex text := List.dropLast_subset _ member
  rw [tokens, List.dropLast_concat] at member
  rcases (lex_tiling text).mem_covers inside with ⟨eof, _⟩ | ⟨_, lexeme, _, _, covers⟩
  · rw [others t member] at eof
    cases eof
  · have same := covers.text_eq (sound t inside)
    rw [empty] at same
    exact covers.nonempty same.symm

theorem toList_cleanText_lex {text : String} (sound : ∀ t ∈ lex text, t.isError = false) :
    (cleanText (lex text).dropLast).toList = cleanChars (lex text) := by
  obtain ⟨init, last, tokens, _, _, _, _, empty, _⟩ := (lex_tiling text).ends
  have whole : cleanText (lex text) = cleanText (lex text).dropLast := by
    rw [tokens, List.dropLast_concat]
    exact appendClean_concat "" false init empty
  rw [← whole, toList_cleanText (text_ne_empty sound)]

/-- The clean text of a text without errors has the same tokens, set apart by single spaces. -/
theorem lex_cleanText {text : String} (sound : ∀ t ∈ lex text, t.isError = false) :
    lex (cleanText (lex text).dropLast) = relaid 0 (lex text) := by
  have scanned := lex_scanned text
  have clean := toList_cleanText_lex sound
  unfold lex at clean ⊢ scanned
  rw [clean]
  exact scanned.lexTokens_cleanChars sound (Nat.lt_succ_self _)

end TransactSql
