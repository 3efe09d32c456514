import Mathlib.Data.List.TakeWhile
import TransactSql.Proofs.Token.Relexing

/-!
# Which token a piece of trivia belongs to

Between two tokens stands one run of trivia. The token before it gets the pieces up to the end of the
line and the token behind it gets the rest; where no token follows, the token before it gets all. The
run itself is cut into pieces in one way only, since every piece is as long as its kind allows.
-/

namespace TransactSql

open Text

/-! ### Pieces -/

namespace Trivia

/-- The text of the piece is one of its kind. -/
def Fits (p : Trivia) : Prop :=
  match p.kind with
  | .whitespace => p.text ≠ "" ∧ ∀ c ∈ p.text.toList, isBlank c = true ∧ isLineEnd c = false
  | .newline => p.text = "\n" ∨ p.text = "\r" ∨ p.text = "\r\n"
  | .lineComment => ['-', '-'] <+: p.text.toList ∧ ∀ c ∈ p.text.toList, isLineEnd c = false
  | .blockComment => ['/', '*'] <+: p.text.toList

/-- One piece may stand right before the other: they are not whitespace both, and they do not divide a
`\r\n` between them. -/
structure Precedes (p q : Trivia) : Prop where
  whitespace : p.kind = .whitespace → q.kind ≠ .whitespace
  lineEnd : p.text.toList.getLast? = some '\r' → q.text.toList.head? ≠ some '\n'

/-- The trivia ends with a newline. -/
def EndsLine (ps : List Trivia) : Prop := ∃ p, ps.getLast? = some p ∧ p.kind = .newline

/-- The piece of the given kind and length at the front of a text. -/
def front (kind : TriviaKind) (n : Nat) (cs : List Char) : Trivia := ⟨kind, .ofList (cs.take n)⟩

theorem take_takeWhile (p : Char → Bool) (cs : List Char) :
    cs.take (cs.takeWhile p).length = cs.takeWhile p :=
  (List.prefix_iff_eq_take.mp (List.takeWhile_prefix p)).symm

theorem head?_drop_takeWhile {p : Char → Bool} {cs : List Char} {c : Char}
    (h : (cs.drop (cs.takeWhile p).length).head? = some c) : p c = false := by
  induction cs with
  | nil => cases h
  | cons d cs ih =>
    rw [List.takeWhile_cons] at h
    split at h
    · exact ih h
    · next stops =>
      cases h
      simpa using stops

/-- Whitespace starts with a character that is blank and ends no line. -/
theorem blank_of_measure? {c : Char} {cs : List Char} {n : Nat}
    (h : measure? (c :: cs) = some (.whitespace, n)) :
    isBlank c = true ∧ isLineEnd c = false ∧
      n = (cs.takeWhile fun d => isBlank d && !isLineEnd d).length + 1 := by
  unfold measure? at h
  split at h
  case h_7 feed _ carriage _ _ same =>
    cases same
    split at h
    · next blank =>
      cases h
      refine ⟨blank, ?_, rfl⟩
      simp only [isLineEnd, Bool.or_eq_false_iff, beq_eq_false_iff_ne]
      exact ⟨feed, carriage⟩
    · cases h
  all_goals cases h

theorem measure?_fits {cs : List Char} {kind : TriviaKind} {n : Nat}
    (h : measure? cs = some (kind, n)) : (front kind n cs).Fits := by
  have whole := h
  unfold measure? at h
  split at h
  case h_1 => cases h
  case h_2 | h_3 | h_4 =>
    cases h
    simp [front, Fits]
  case h_5 cs =>
    cases h
    refine ⟨⟨cs.takeWhile (!isLineEnd ·), by simp [front, take_takeWhile]⟩, ?_⟩
    simp only [front, List.take_succ_cons, take_takeWhile, String.toList_ofList,
      List.forall_mem_cons]
    exact ⟨rfl, rfl, fun c inside => by simpa using List.mem_takeWhile_imp inside⟩
  case h_6 cs =>
    cases h
    exact ⟨cs.take (blockCommentLength 1 cs), by simp [front]⟩
  case h_7 c cs _ _ _ _ =>
    split at h
    · cases h
      obtain ⟨blank, plain, -⟩ := blank_of_measure? whole
      refine ⟨by simp [front], ?_⟩
      simp only [front, List.take_succ_cons, take_takeWhile, String.toList_ofList,
        List.forall_mem_cons]
      exact ⟨⟨blank, plain⟩, fun d inside => by simpa using List.mem_takeWhile_imp inside⟩
    · cases h

/-- A block comment ends with a delimiter or with the text. -/
theorem blockComment_ends {depth : Nat} (opened : 0 < depth) (cs : List Char) :
    cs.drop (blockCommentLength depth cs) = [] ∨
      (cs.take (blockCommentLength depth cs)).getLast? = some '/' := by
  fun_induction blockCommentLength depth cs with
  | case1 => exact absurd opened (Nat.lt_irrefl 0)
  | case2 => exact .inl rfl
  | case3 depth cs ih =>
    by_cases more : 0 < depth
    · exact (ih more).imp id fun last => by simp [List.getLast?_cons, last]
    · obtain rfl := Nat.eq_zero_of_not_pos more
      exact .inr (by simp [blockCommentLength])
  | case4 depth cs ih =>
    exact (ih (Nat.succ_pos _)).imp id fun last => by simp [List.getLast?_cons, last]
  | case5 depth c cs _ _ ih =>
    exact (ih (Nat.succ_pos _)).imp id fun last => by simp [List.getLast?_cons, last]

theorem head?_of_measure? {cs : List Char} {kind : TriviaKind} {n : Nat}
    (h : measure? cs = some (kind, n)) : (front kind n cs).text.toList.head? = cs.head? := by
  obtain ⟨n, rfl⟩ := Nat.exists_eq_add_one_of_ne_zero (Nat.ne_of_gt (measure?_pos h))
  cases cs <;> simp [front]

/-- A piece that ends with `\r` is a newline, and then the next character is another one than `\n`. -/
theorem measure?_carriage {cs : List Char} {kind : TriviaKind} {n : Nat}
    (h : measure? cs = some (kind, n))
    (carriage : (front kind n cs).text.toList.getLast? = some '\r') :
    (cs.drop n).head? ≠ some '\n' := by
  have fits := measure?_fits h
  have inside : '\r' ∈ (front kind n cs).text.toList := List.mem_of_getLast? carriage
  unfold measure? at h
  split at h
  case h_1 => cases h
  case h_2 | h_3 =>
    cases h
    simp [front] at carriage
  case h_4 cs lone =>
    cases h
    intro feed
    obtain ⟨rest, same⟩ := List.head?_eq_some_iff.mp feed
    exact lone rest same
  case h_5 =>
    cases h
    exact absurd (fits.2 _ inside) (by decide)
  case h_6 cs =>
    cases h
    rcases blockComment_ends Nat.one_pos cs with stop | last
    · simp [stop]
    · simp [front, List.getLast?_cons, last] at carriage
  case h_7 =>
    split at h
    · cases h
      exact absurd (fits.2 _ inside).2 (by decide)
    · cases h

theorem measure?_precedes {cs : List Char} {kind kind' : TriviaKind} {n n' : Nat}
    (first : measure? cs = some (kind, n)) (second : measure? (cs.drop n) = some (kind', n')) :
    (front kind n cs).Precedes (front kind' n' (cs.drop n)) where
  whitespace := by
    rintro (rfl : kind = _) (rfl : kind' = _)
    cases cs with
    | nil => cases first
    | cons c cs =>
      obtain ⟨_, _, rfl⟩ := blank_of_measure? first
      rw [List.drop_succ_cons] at second
      cases rest : cs.drop (cs.takeWhile fun d => isBlank d && !isLineEnd d).length with
      | nil =>
        rw [rest] at second
        cases second
      | cons d ds =>
        rw [rest] at second
        obtain ⟨blank, plain, -⟩ := blank_of_measure? second
        have stops := head?_drop_takeWhile (congrArg List.head? rest)
        simp [blank, plain] at stops
  lineEnd carriage := by
    rw [head?_of_measure? second]
    exact measure?_carriage first carriage

/-! ### Runs -/

/-- More rounds than characters are as good as any. -/
theorem pieces_limit {withinLine : Bool} {limit limit' : Nat} {cs : List Char}
    (enough : cs.length ≤ limit) (enough' : cs.length ≤ limit') :
    pieces withinLine limit cs = pieces withinLine limit' cs := by
  induction limit generalizing limit' cs with
  | zero =>
    obtain rfl := List.length_eq_zero_iff.mp (Nat.le_zero.mp enough)
    exact (pieces_of_none rfl _ _).symm
  | succ limit ih =>
    cases measured : measure? cs with
    | none => rw [pieces_of_none measured, pieces_of_none measured]
    | some found =>
      obtain ⟨kind, n⟩ := found
      have pos := measure?_pos measured
      have some : cs ≠ [] := by
        rintro rfl
        cases measured
      have long := List.length_pos_iff.mpr some
      obtain ⟨limit', rfl⟩ := Nat.exists_eq_add_one_of_ne_zero (Nat.ne_of_gt (Nat.lt_of_lt_of_le long enough'))
      have rest : (cs.drop n).length ≤ limit ∧ (cs.drop n).length ≤ limit' := by
        rw [List.length_drop]
        omega
      rw [pieces, pieces, measured]
      dsimp only
      rw [ih rest.1 rest.2]

theorem pieces_of_some {withinLine : Bool} {cs : List Char} {kind : TriviaKind} {n : Nat}
    (measured : measure? cs = some (kind, n)) :
    pieces withinLine cs.length cs =
      if withinLine && kind == .newline then ([front kind n cs], cs.drop n)
      else
        let (more, rest) := pieces withinLine (cs.drop n).length (cs.drop n)
        (front kind n cs :: more, rest) := by
  cases cs with
  | nil => cases measured
  | cons c cs =>
    have pos := measure?_pos measured
    have shorter : ((c :: cs).drop n).length ≤ cs.length := by
      rw [List.length_drop, List.length_cons]
      omega
    rw [List.length_cons, pieces, measured]
    dsimp only
    rw [pieces_limit shorter (Nat.le_refl _)]
    rfl

theorem run_of_some {cs : List Char} {kind : TriviaKind} {n : Nat}
    (measured : measure? cs = some (kind, n)) :
    run cs = (front kind n cs :: (run (cs.drop n)).1, (run (cs.drop n)).2) := by
  unfold run
  rw [pieces_of_some measured]
  rfl

theorem lineRun_of_newline {cs : List Char} {n : Nat} (measured : measure? cs = some (.newline, n)) :
    lineRun cs = ([front .newline n cs], cs.drop n) := by
  unfold lineRun
  rw [pieces_of_some measured]
  rfl

theorem lineRun_of_some {cs : List Char} {kind : TriviaKind} {n : Nat}
    (measured : measure? cs = some (kind, n)) (other : kind ≠ .newline) :
    lineRun cs = (front kind n cs :: (lineRun (cs.drop n)).1, (lineRun (cs.drop n)).2) := by
  unfold lineRun
  rw [pieces_of_some measured, if_neg (by simpa using other)]

/-- Trivia is read piece by piece. -/
theorem piece_induction {motive : List Char → Prop}
    (stop : ∀ cs, measure? cs = none → motive cs)
    (piece : ∀ cs kind n, measure? cs = some (kind, n) → motive (cs.drop n) → motive cs)
    (cs : List Char) : motive cs := by
  induction size : cs.length using Nat.strong_induction_on generalizing cs with
  | _ size ih =>
    cases measured : measure? cs with
    | none => exact stop cs measured
    | some found =>
      obtain ⟨kind, n⟩ := found
      have pos := measure?_pos measured
      have long : 0 < cs.length := by
        rw [List.length_pos_iff]
        rintro rfl
        cases measured
      exact piece cs kind n measured (ih _ (by rw [List.length_drop]; omega) _ rfl)

theorem head?_run (cs : List Char) :
    ∀ p ∈ (run cs).1.head?, ∃ kind n, measure? cs = some (kind, n) ∧ p = front kind n cs := by
  intro p first
  cases measured : measure? cs with
  | none =>
    rw [run_of_none measured] at first
    cases first
  | some found =>
    rw [run_of_some measured] at first
    cases first
    exact ⟨_, _, rfl, rfl⟩

theorem run_isChain (cs : List Char) : (run cs).1.IsChain Precedes := by
  induction cs using piece_induction with
  | stop cs none =>
    rw [run_of_none none]
    exact .nil
  | piece cs kind n measured ih =>
    rw [run_of_some measured, List.isChain_cons]
    refine ⟨fun q first => ?_, ih⟩
    obtain ⟨kind', n', next, rfl⟩ := head?_run _ q first
    exact measure?_precedes measured next

theorem run_fits (cs : List Char) : ∀ p ∈ (run cs).1, p.Fits := by
  induction cs using piece_induction with
  | stop cs none =>
    rw [run_of_none none]
    exact nofun
  | piece cs kind n measured ih =>
    rw [run_of_some measured]
    exact List.forall_mem_cons.mpr ⟨measure?_fits measured, ih⟩

/-- The trivia of a line and the run behind it are one run. -/
theorem run_eq_lineRun_append (cs : List Char) :
    run cs = ((lineRun cs).1 ++ (run (lineRun cs).2).1, (run (lineRun cs).2).2) := by
  induction cs using piece_induction with
  | stop cs none =>
    have line : lineRun cs = ([], cs) := pieces_of_none none true _
    rw [line]
    rfl
  | piece cs kind n measured ih =>
    by_cases newline : kind = .newline
    · subst newline
      rw [lineRun_of_newline measured, run_of_some measured]
      rfl
    · rw [lineRun_of_some measured newline, run_of_some measured, ih]
      rfl

/-- In the trivia of a line only the last piece is a newline. -/
theorem lineRun_dropLast (cs : List Char) : ∀ p ∈ (lineRun cs).1.dropLast, p.kind ≠ .newline := by
  induction cs using piece_induction with
  | stop cs none =>
    have line : lineRun cs = ([], cs) := pieces_of_none none true _
    rw [line]
    exact nofun
  | piece cs kind n measured ih =>
    by_cases newline : kind = .newline
    · subst newline
      rw [lineRun_of_newline measured]
      exact nofun
    · rw [lineRun_of_some measured newline]
      cases more : (lineRun (cs.drop n)).1 with
      | nil => exact nofun
      | cons q qs =>
        rw [more] at ih
        exact List.forall_mem_cons.mpr ⟨newline, ih⟩

/-- The trivia of a line goes on to a newline, or to what is no trivia. -/
theorem lineRun_ends (cs : List Char) : EndsLine (lineRun cs).1 ∨ (run (lineRun cs).2).1 = [] := by
  induction cs using piece_induction with
  | stop cs none =>
    have line : lineRun cs = ([], cs) := pieces_of_none none true _
    rw [line, run_of_none none]
    exact .inr rfl
  | piece cs kind n measured ih =>
    by_cases newline : kind = .newline
    · subst newline
      rw [lineRun_of_newline measured]
      exact .inl ⟨_, rfl, rfl⟩
    · rw [lineRun_of_some measured newline]
      refine ih.imp_left ?_
      rintro ⟨p, last, isNewline⟩
      exact ⟨p, by rw [List.getLast?_cons, last]; rfl, isNewline⟩

end Trivia

/-! ### Tokens -/

/-- How much of the trivia in front of `behind` belongs to the token before it, and what is left: the
pieces of the line, or all of them if no token follows. -/
inductive Trails (behind : List Char) : List Trivia → List Char → Prop
  | line {trailing : List Trivia} {rest : List Char} (line : Trivia.lineRun behind = (trailing, rest))
    (more : (Trivia.run rest).2 ≠ []) : Trails behind trailing rest
  | all {trailing : List Trivia} (run : Trivia.run behind = (trailing, [])) : Trails behind trailing []

/-- The tokens of the text `cs` behind `before`, each with the trivia that belongs to it. -/
inductive Attribution : (before cs : List Char) → List Token → Prop
  | eof {before cs : List Char} {t : Token} (isEof : t.isEof = true)
    (leading : Trivia.run cs = (t.leading, [])) (trailing : t.trailing = []) : Attribution before cs [t]
  | token {before cs lexeme behind rest : List Char} {t : Token} {ts : List Token}
    (leading : Trivia.run cs = (t.leading, lexeme ++ behind))
    (covers : t.Covers (before ++ Trivia.chars t.leading) lexeme) (trails : Trails behind t.trailing rest)
    (more : Attribution (before ++ Trivia.chars t.leading ++ lexeme ++ Trivia.chars t.trailing) rest ts) :
    Attribution before cs (t :: ts)

theorem Trails.append {behind rest : List Char} {trailing : List Trivia}
    (h : Trails behind trailing rest) : behind = Trivia.chars trailing ++ rest := by
  cases h with
  | line line => exact Trivia.lineRun_append line
  | all run => exact Trivia.run_append run

theorem lexToken_trails {before cs rest : List Char} {leading : List Trivia} {c : Char} {t : Token}
    (h : lexToken leading (byteLength before) c cs = (t, rest)) :
    t.leading = leading ∧ ∃ lexeme behind, c :: cs = lexeme ++ behind ∧ t.Covers before lexeme ∧
      Trails behind t.trailing rest := by
  have proper := Lexeme.measure_proper c cs
  generalize found : Lexeme.measure c cs = m at proper
  have cut := (List.take_append_drop m.2 (c :: cs)).symm
  unfold lexToken at h
  simp only [found] at h
  generalize line : Trivia.lineRun ((c :: cs).drop m.2) = l at h
  have whole := Trivia.run_eq_lineRun_append ((c :: cs).drop m.2)
  rw [line] at whole
  split at h
  · next final run =>
    obtain ⟨rfl, rfl⟩ := Prod.mk.inj h
    rw [run] at whole
    exact ⟨rfl, _, _, cut, Lexeme.token_covers proper before c cs _ _, .all whole⟩
  · next more =>
    obtain ⟨rfl, rfl⟩ := Prod.mk.inj h
    refine ⟨rfl, _, _, cut, Lexeme.token_covers proper before c cs _ _, .line line ?_⟩
    exact fun none => more (Trivia.run l.2).1 (Prod.ext rfl none)

theorem lexTokens_attribution {limit : Nat} {before cs : List Char} (enough : cs.length < limit) :
    Attribution before cs (lexTokens limit (byteLength before) cs) := by
  induction limit generalizing before cs with
  | zero => omega
  | succ limit ih =>
    rw [lexTokens]
    generalize run : Trivia.run cs = r
    obtain ⟨leading, rest⟩ := r
    have front := Trivia.run_append run
    cases rest with
    | nil => exact .eof rfl run rfl
    | cons c rest =>
      have start : byteLength before + Trivia.byteLength leading =
          byteLength (before ++ Trivia.chars leading) := by
        rw [Trivia.byteLength_eq, byteLength_append]
      simp only [start]
      generalize token : lexToken leading (byteLength (before ++ Trivia.chars leading)) c rest = p
      obtain ⟨t, after⟩ := p
      obtain ⟨rfl, lexeme, behind, cut, covers, trails⟩ := lexToken_trails token
      have next : t.span.stop + Trivia.byteLength t.trailing =
          byteLength (before ++ Trivia.chars t.leading ++ lexeme ++ Trivia.chars t.trailing) := by
        rw [covers.span, Trivia.byteLength_eq]
        simp [Nat.add_assoc]
      have shorter : after.length < limit := by
        have taken := List.length_pos_iff.mpr covers.nonempty
        have sizes := congrArg List.length front
        rw [cut, trails.append] at sizes
        simp only [List.length_append] at sizes
        omega
      rw [cut] at run
      refine .token run covers trails ?_
      simp only [next]
      exact ih shorter

theorem lex_attribution (text : String) : Attribution [] text.toList (lex text) :=
  lexTokens_attribution (Nat.lt_succ_self _)

/-! ### What the attribution says of the trivia -/

namespace Trails

variable {behind rest : List Char} {trailing : List Trivia}

/-- What stands between two tokens is one run. -/
theorem run_eq (h : Trails behind trailing rest) :
    Trivia.run behind = (trailing ++ (Trivia.run rest).1, (Trivia.run rest).2) := by
  cases h with
  | line line =>
    have whole := Trivia.run_eq_lineRun_append behind
    rwa [line] at whole
  | all run =>
    rw [run]
    exact Prod.ext (List.append_nil _).symm rfl

theorem isChain (h : Trails behind trailing rest) :
    (trailing ++ (Trivia.run rest).1).IsChain Trivia.Precedes := by
  have chain := Trivia.run_isChain behind
  rwa [h.run_eq] at chain

theorem fits (h : Trails behind trailing rest) : ∀ p ∈ trailing, p.Fits := by
  have all := Trivia.run_fits behind
  rw [h.run_eq] at all
  exact fun p member => all p (List.mem_append_left _ member)

/-- The next token has trivia in front only where a line has ended. -/
theorem endsLine (h : Trails behind trailing rest) :
    Trivia.EndsLine trailing ∨ (Trivia.run rest).1 = [] := by
  cases h with
  | line line =>
    have ends := Trivia.lineRun_ends behind
    rwa [line] at ends
  | all => exact .inr rfl

end Trails

namespace Attribution

variable {before cs : List Char} {ts : List Token}

theorem head_leading {t : Token} (h : Attribution before cs (t :: ts)) :
    t.leading = (Trivia.run cs).1 := by
  cases h with
  | eof isEof leading => rw [leading]
  | token leading => rw [leading]

/-- At the end of the text there is only the end of input. -/
theorem eq_eof (h : Attribution before cs ts) (none : (Trivia.run cs).2 = []) : ∃ e, ts = [e] := by
  cases h with
  | eof => exact ⟨_, rfl⟩
  | token leading covers =>
    rw [leading] at none
    exact absurd (List.append_eq_nil_iff.mp none).1 covers.nonempty

theorem fits (h : Attribution before cs ts) :
    ∀ t ∈ ts, (∀ p ∈ t.leading, p.Fits) ∧ ∀ p ∈ t.trailing, p.Fits := by
  induction h with
  | @eof before cs t isEof leading trailing =>
    have front := Trivia.run_fits cs
    rw [leading] at front
    simpa [trailing] using front
  | @token before cs lexeme behind rest t ts leading covers trails more ih =>
    have front := Trivia.run_fits cs
    rw [leading] at front
    exact List.forall_mem_cons.mpr ⟨⟨front, trails.fits⟩, ih⟩

theorem isChain (h : Attribution before cs ts) :
    ∀ t ∈ ts, t.leading.IsChain Trivia.Precedes ∧ t.trailing.IsChain Trivia.Precedes := by
  induction h with
  | @eof before cs t isEof leading trailing =>
    have front := Trivia.run_isChain cs
    rw [leading] at front
    simpa [trailing] using front
  | @token before cs lexeme behind rest t ts leading covers trails more ih =>
    have front := Trivia.run_isChain cs
    rw [leading] at front
    exact List.forall_mem_cons.mpr ⟨⟨front, trails.isChain.left_of_append⟩, ih⟩

/-- Between two tokens. -/
theorem isChain_between (h : Attribution before cs ts) :
    ts.IsChain fun t u => (t.trailing ++ u.leading).IsChain Trivia.Precedes ∧
      (Trivia.EndsLine t.trailing ∨ u.leading = []) := by
  induction h with
  | eof => exact .singleton _
  | token leading covers trails more ih =>
    refine List.isChain_cons.mpr ⟨fun u first => ?_, ih⟩
    obtain ⟨us, rfl⟩ := List.head?_eq_some_iff.mp first
    rw [more.head_leading]
    exact ⟨trails.isChain, trails.endsLine⟩

/-- A newline ends the trivia behind every token that is not the last one before the end of input. -/
theorem newline_last (h : Attribution before cs ts) {front back : List Token} {t : Token}
    (split : ts = front ++ t :: back) (other : back.length ≠ 1) :
    ∀ p ∈ t.trailing.dropLast, p.kind ≠ .newline := by
  induction h generalizing front with
  | eof isEof leading trailing =>
    obtain ⟨rfl, same⟩ | ⟨us, rfl, nil⟩ := List.cons_eq_append_iff.mp split
    · cases same
      rw [trailing]
      exact nofun
    · simp at nil
  | @token before cs lexeme behind rest u us leading covers trails more ih =>
    obtain ⟨rfl, same⟩ | ⟨front, rfl, later⟩ := List.cons_eq_append_iff.mp split
    · cases same
      cases trails with
      | line line =>
        have last := Trivia.lineRun_dropLast behind
        rwa [line] at last
      | all =>
        obtain ⟨e, rfl⟩ := more.eq_eof rfl
        exact absurd rfl other
    · exact ih later

/-- The last token before the end of input has all the trivia behind it. -/
theorem last (h : Attribution before cs ts) {front : List Token} {t e : Token}
    (split : ts = front ++ [t, e]) :
    e.leading = [] ∧
      dropBytes t.span.stop (before ++ cs) = some (Trivia.chars t.trailing) := by
  induction h generalizing front with
  | eof => simpa using congrArg List.length split
  | @token before cs lexeme behind rest u us leading covers trails more ih =>
    have whole : before ++ cs = before ++ Trivia.chars u.leading ++ lexeme
        ++ Trivia.chars u.trailing ++ rest := by
      rw [Trivia.run_append leading, trails.append]
      simp
    obtain ⟨rfl, same⟩ | ⟨front, rfl, later⟩ := List.cons_eq_append_iff.mp split
    · cases same
      cases more with
      | eof isEof last trailing =>
        cases trails with
        | line line more => exact absurd (congrArg Prod.snd last) more
        | all run =>
          refine ⟨(congrArg Prod.fst last).symm, ?_⟩
          rw [whole, covers.span, List.append_nil, ← byteLength_append, dropBytes_append]
      | token _ _ _ more => cases more
    · rw [whole]
      exact ih later

theorem isEof_last (h : Attribution before cs ts) {t : Token} (member : t ∈ ts)
    (isEof : t.isEof = true) : ∃ front, ts = front ++ [t] := by
  induction h with
  | eof => exact ⟨[], by rw [List.mem_singleton.mp member]; rfl⟩
  | token leading covers trails more ih =>
    rcases List.mem_cons.mp member with rfl | later
    · rw [covers.isEof_eq] at isEof
      cases isEof
    · obtain ⟨front, rfl⟩ := ih later
      exact ⟨_ :: front, rfl⟩

end Attribution

/-- Tokens `ts` of a text whose trivia is attributed in the canonical way. -/
structure CanonicalTrivia (text : String) (ts : List Token) : Prop where
  /-- Every piece has a text of its kind. -/
  fits : ∀ t ∈ ts, (∀ p ∈ t.leading, p.Fits) ∧ ∀ p ∈ t.trailing, p.Fits
  /-- Neighbours are neither whitespace both nor the halves of a `\r\n`, also where a token ends. -/
  precedes : ∀ t ∈ ts, t.leading.IsChain Trivia.Precedes ∧ t.trailing.IsChain Trivia.Precedes
  between : ts.IsChain fun t u => (t.trailing ++ u.leading).IsChain Trivia.Precedes
  /-- Apart from the last token before the end of input, a newline is the last piece behind a token. -/
  newline : ∀ front t back, ts = front ++ t :: back → back.length ≠ 1 →
    ∀ p ∈ t.trailing.dropLast, p.kind ≠ .newline
  /-- Trivia stands in front of a token only at the start of a line or of the text. -/
  leading : ts.IsChain fun t u => ¬Trivia.EndsLine t.trailing → u.leading = []
  /-- What follows the last token before the end of input is its trailing trivia. -/
  last : ∀ front t e, ts = front ++ [t, e] →
    dropBytes t.span.stop text.toList = some (Trivia.chars t.trailing)
  /-- The end of input has trivia only if there is no other token. -/
  eof : ∀ t ∈ ts, t.isEof = true → t.leading ≠ [] → ts = [t]

/-- Trivia is divided among the tokens of a text in the canonical way. -/
theorem lex_canonicalTrivia (text : String) : CanonicalTrivia text (lex text) where
  fits := (lex_attribution text).fits
  precedes := (lex_attribution text).isChain
  between := (lex_attribution text).isChain_between.imp fun _ _ => And.left
  newline _ _ _ split other := (lex_attribution text).newline_last split other
  leading := (lex_attribution text).isChain_between.imp fun _ _ between open' =>
    between.2.resolve_left open'
  last _ _ _ split := ((lex_attribution text).last split).2
  eof t member isEof nonempty := by
    obtain ⟨front, split⟩ := (lex_attribution text).isEof_last member isEof
    rcases List.eq_nil_or_concat front with rfl | ⟨init, u, rfl⟩
    · exact split
    · rw [List.concat_append] at split
      exact absurd ((lex_attribution text).last split).1 nonempty

/-- A comment that holds a newline, a line that ends, and trivia at the end of the text. -/
example : (lex "a /*\n*/ -- x\r\n  b\n\n--").map (fun t => (t.leading.length, t.trailing.length)) =
    [(0, 5), (1, 3), (0, 0)] := by decide +kernel

end TransactSql
