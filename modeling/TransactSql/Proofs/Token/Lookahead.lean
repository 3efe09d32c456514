import TransactSql.Proofs.Token.Tiling

/-!
# How far the lexer looks ahead

A lexeme is measured with all of the text that follows in sight. What stands behind some of this
text may still be replaced by a space or by the end of the text, as long as the lexeme ends before:
no lexeme that is not a fault goes on with a space, and none ends because something other than a
space follows. The same holds of where trivia starts.
-/

namespace TransactSql

/-- The text ends here or goes on with a space. -/
def Apart (rest : List Char) : Prop := rest = [] ∨ ∃ cs, rest = ' ' :: cs

def Lexeme.isFault : Lexeme → Bool
  | .fault _ => true
  | _ => false

namespace Lexeme

/-- Of a lexeme that starts with `n` characters more than it is measured by: where it ends within
`x`, it is the same if what follows `x` is set apart. -/
def Settles (n : Nat) (measured : List Char → Lexeme × Nat) : Prop :=
  ∀ x r r' : List Char, Apart r' → (measured (x ++ r)).1.isFault = false →
    (measured (x ++ r)).2 ≤ n + x.length → measured (x ++ r') = measured (x ++ r)

/-! ### Runs -/

theorem runLength_cons (p : Char → Bool) (c : Char) (cs : List Char) :
    runLength p (c :: cs) = if p c then runLength p cs + 1 else 0 := by
  unfold runLength
  rw [List.takeWhile_cons]
  split <;> rfl

theorem runLength_apart {p : Char → Bool} (space : p ' ' = false) {r : List Char} (apart : Apart r) :
    runLength p r = 0 := by
  obtain rfl | ⟨cs, rfl⟩ := apart
  · rfl
  · rw [runLength_cons, space]
    rfl

theorem runLength_settles {p : Char → Bool} (space : p ' ' = false) {x r r' : List Char}
    (apart : Apart r') (within : runLength p (x ++ r) ≤ x.length) :
    runLength p (x ++ r') = runLength p (x ++ r) := by
  induction x with
  | nil =>
    have none : runLength p r = 0 := Nat.le_zero.mp within
    rw [List.nil_append, List.nil_append, none, runLength_apart space apart]
  | cons c x ih =>
    rw [List.cons_append, runLength_cons, List.length_cons] at within
    rw [List.cons_append, List.cons_append, runLength_cons, runLength_cons]
    split
    · next more =>
      rw [if_pos more] at within
      rw [ih (Nat.le_of_succ_le_succ within)]
    · rfl

theorem settles_run {p : Char → Bool} (space : p ' ' = false) (found : Lexeme) (n : Nat) :
    Settles n fun cs => (found, n + runLength p cs) := by
  intro x r r' apart _ within
  dsimp only at within ⊢
  rw [runLength_settles space apart (Nat.le_of_add_le_add_left within)]

theorem settles_const (n : Nat) (found : Lexeme × Nat) : Settles n fun _ => found :=
  fun _ _ _ _ _ _ => rfl

theorem Settles.cons {n : Nat} {measured : List Char → Lexeme × Nat} (h : Settles n measured)
    (c : Char) : Settles (n + 1) fun cs => measured (c :: cs) := by
  intro x r r' apart sound within
  refine h (c :: x) r r' apart sound (Nat.le_trans within ?_)
  rw [List.length_cons]
  omega

/-- A lexeme that looks at the next character. If that is not part of it, the lexeme is the same as
at the end of the text. -/
theorem Settles.of_next {n : Nat} {measured : List Char → Lexeme × Nat}
    (space : ∀ cs, measured (' ' :: cs) = measured [])
    (short : ∀ c cs, (measured (c :: cs)).1.isFault = false → (measured (c :: cs)).2 ≤ n →
      measured (c :: cs) = measured [])
    (others : ∀ c, Settles (n + 1) fun cs => measured (c :: cs)) : Settles n measured := by
  intro x r r' apart sound within
  cases x with
  | nil =>
    have replaced : measured r' = measured [] := by
      obtain rfl | ⟨cs, rfl⟩ := apart
      · rfl
      · exact space cs
    cases r with
    | nil => exact replaced
    | cons c r => exact replaced.trans (short c r sound within).symm
  | cons c x =>
    refine others c x r r' apart sound (Nat.le_trans within ?_)
    rw [List.length_cons]
    omega

/-- The next character decides. -/
theorem settles_pair {n : Nat} {measured : List Char → Lexeme × Nat} {f : Char → Lexeme × Nat}
    (next : ∀ c cs, measured (c :: cs) = f c) (space : f ' ' = measured [])
    (short : ∀ c, (f c).2 ≤ n → f c = measured []) : Settles n measured := by
  refine .of_next (fun cs => (next _ _).trans space) (fun c cs _ within => ?_) fun c => ?_
  · rw [next] at within ⊢
    exact short c within
  · simp only [next]
    exact settles_const _ _

/-! ### Delimited lexemes -/

theorem closingLength?_of_ne {closing c : Char} (other : c ≠ closing) (cs : List Char) :
    closingLength? closing (c :: cs) = (closingLength? closing cs).map (· + 1) := by
  cases cs with
  | nil => simp [closingLength?, other]
  | cons d cs => rw [closingLength?, if_neg other]

theorem closingLength?_doubled (closing : Char) (cs : List Char) :
    closingLength? closing (closing :: closing :: cs) = (closingLength? closing cs).map (· + 2) := by
  rw [closingLength?, if_pos rfl, if_pos rfl]

theorem closingLength?_closed {closing : Char} {cs : List Char} (ends : cs.head? ≠ some closing) :
    closingLength? closing (closing :: cs) = some 1 := by
  cases cs with
  | nil => simp [closingLength?]
  | cons d cs =>
    have other : d ≠ closing := by simpa using ends
    rw [closingLength?, if_pos rfl, if_neg other]

theorem head?_apart {c : Char} (space : c ≠ ' ') {r : List Char} (apart : Apart r) :
    r.head? ≠ some c := by
  obtain rfl | ⟨cs, rfl⟩ := apart
  · simp
  · simpa using Ne.symm space

theorem closingLength?_pos {closing : Char} {cs : List Char} {m : Nat}
    (h : closingLength? closing cs = some m) : 0 < m := by
  unfold closingLength? at h
  split at h
  · cases h
  · split at h <;> cases h
    exact Nat.one_pos
  · split at h
    · split at h
      · obtain ⟨n, _, rfl⟩ := Option.map_eq_some_iff.mp h
        exact Nat.succ_pos _
      · cases h
        exact Nat.one_pos
    · obtain ⟨n, _, rfl⟩ := Option.map_eq_some_iff.mp h
      exact Nat.succ_pos _

theorem closingLength?_settles {closing : Char} (space : closing ≠ ' ') {r r' : List Char}
    (apart : Apart r') : ∀ {x : List Char} {m : Nat}, closingLength? closing (x ++ r) = some m →
      m ≤ x.length → closingLength? closing (x ++ r') = some m
  | [], m, h, within => absurd (closingLength?_pos h) (by simpa using within)
  | [c], m, h, within => by
    have one : m = 1 := Nat.le_antisymm within (closingLength?_pos h)
    by_cases other : c = closing
    · subst other
      rw [List.cons_append, List.nil_append, closingLength?_closed (head?_apart space apart), one]
    · -- The lexeme is longer if its end is still to come.
      rw [List.cons_append, List.nil_append, closingLength?_of_ne other] at h
      obtain ⟨n, closes, rfl⟩ := Option.map_eq_some_iff.mp h
      have := closingLength?_pos closes
      omega
  | c :: d :: x, m, h, within => by
    simp only [List.cons_append, List.length_cons] at h within ⊢
    by_cases other : c = closing
    · subst other
      by_cases doubled : d = c
      · subst doubled
        rw [closingLength?_doubled] at h ⊢
        obtain ⟨n, closes, rfl⟩ := Option.map_eq_some_iff.mp h
        rw [closingLength?_settles space apart closes (by omega)]
        rfl
      · have ends : ∀ r : List Char, (d :: (x ++ r)).head? ≠ some c := by simp [doubled]
        rw [closingLength?_closed (ends r)] at h
        rw [closingLength?_closed (ends r'), h]
    · rw [closingLength?_of_ne other] at h ⊢
      obtain ⟨n, closes, rfl⟩ := Option.map_eq_some_iff.mp h
      have inner := closingLength?_settles space apart (x := d :: x) closes
        (by rw [List.length_cons]; omega)
      rw [← List.cons_append, inner]
      rfl

theorem settles_delimited {closing : Char} (space : closing ≠ ' ') (found : Lexeme) (what : String)
    (n : Nat) : Settles n (delimited found what closing n) := by
  intro x r r' apart sound within
  unfold delimited at sound within ⊢
  cases closes : closingLength? closing (x ++ r) with
  | none =>
    rw [closes] at sound
    cases sound
  | some m =>
    rw [closes] at within
    rw [closingLength?_settles space apart closes (Nat.le_of_add_le_add_left within)]

theorem le_delimited (found : Lexeme) (what : String) (closing : Char) (n : Nat) (cs : List Char) :
    n ≤ (delimited found what closing n cs).2 := by
  unfold delimited
  split <;> exact Nat.le_add_right _ _

theorem settles_either {second : Char} (space : second ≠ ' ') (long short : TokenKind) :
    Settles 1 (either second long short) := by
  refine settles_pair (f := fun c => if c = second then (.symbol long, 2) else (.symbol short, 1))
    (fun c cs => rfl) (if_neg (Ne.symm space)) fun c within => ?_
  split at within
  · exact absurd within (Nat.not_succ_le_self 1)
  · next other => exact if_neg other

/-! ### Numbers -/

/-- Whether an exponent starts with the two characters. -/
def startsExponent (e c : Char) : Bool :=
  (e == 'e' || e == 'E') && (c == '+' || c == '-' || c.isDigit)

theorem exponentLength_cons (e c : Char) (cs : List Char) : exponentLength (e :: c :: cs) =
    if startsExponent e c then runLength Char.isDigit cs + 2 else 0 := rfl

/-- An exponent of at most one character is none. -/
theorem exponentLength_short {cs : List Char} (short : exponentLength cs ≤ 1) :
    exponentLength cs = 0 := by
  fun_cases exponentLength cs <;> simp_all [exponentLength]

theorem exponentLength_settles {x r r' : List Char} (apart : Apart r')
    (within : exponentLength (x ++ r) ≤ x.length) :
    exponentLength (x ++ r') = exponentLength (x ++ r) := by
  match x with
  | [] =>
    rw [exponentLength_short (Nat.le_succ_of_le within)]
    obtain rfl | ⟨cs, rfl⟩ := apart
    · rfl
    · cases cs <;> rfl
  | [e] =>
    rw [exponentLength_short within]
    obtain rfl | ⟨cs, rfl⟩ := apart
    · rfl
    · have none : startsExponent e ' ' = false := by simp [startsExponent]
      rw [List.cons_append, List.nil_append, exponentLength_cons, none]
      rfl
  | e :: c :: x =>
    simp only [List.cons_append, exponentLength_cons, List.length_cons] at within ⊢
    split
    · next starts =>
      rw [if_pos starts] at within
      rw [runLength_settles (by decide) apart (Nat.le_of_add_le_add_right within)]
    · rfl

/-- What digits, of which there are `whole`, go on with: a point and more digits, or nothing. -/
def fractional (whole : Nat) : List Char → LiteralForm × Nat
  | '.' :: fraction => (.decimal, whole + 1 + runLength Char.isDigit fraction)
  | _ => (.integer, whole)

/-- The part of a number before the exponent. -/
def mantissa (cs : List Char) : LiteralForm × Nat :=
  fractional (runLength Char.isDigit cs) (cs.drop (runLength Char.isDigit cs))

theorem number_eq (cs : List Char) : number cs =
    match exponentLength (cs.drop (mantissa cs).2) with
    | 0 => mantissa cs
    | exponent => (.float, (mantissa cs).2 + exponent) := rfl

theorem mantissa_le_number (cs : List Char) : (mantissa cs).2 ≤ (number cs).2 := by
  rw [number_eq]
  split
  · exact Nat.le_refl _
  · exact Nat.le_add_right _ _

theorem le_fractional (whole : Nat) (cs : List Char) : whole ≤ (fractional whole cs).2 := by
  unfold fractional
  split
  · rw [Nat.add_assoc]
    exact Nat.le_add_right _ _
  · exact Nat.le_refl _

theorem fractional_of_ne {c : Char} (other : c ≠ '.') (whole : Nat) (cs : List Char) :
    fractional whole (c :: cs) = (.integer, whole) := by
  unfold fractional
  split
  · next point => exact absurd (List.cons.inj point).1 other
  · rfl

theorem fractional_settles {whole : Nat} {x r r' : List Char} (apart : Apart r')
    (within : (fractional whole (x ++ r)).2 ≤ whole + x.length) :
    fractional whole (x ++ r') = fractional whole (x ++ r) := by
  cases x with
  | nil =>
    have none : fractional whole r' = (.integer, whole) := by
      obtain rfl | ⟨cs, rfl⟩ := apart <;> rfl
    rw [List.nil_append, List.nil_append, none]
    cases r with
    | nil => rfl
    | cons d r =>
      by_cases point : d = '.'
      · -- A point behind `x` would belong to the number.
        subst point
        simp only [List.nil_append, fractional, List.length_nil] at within
        omega
      · rw [fractional_of_ne point]
  | cons c x =>
    by_cases point : c = '.'
    · subst point
      simp only [List.cons_append, fractional, List.length_cons] at within ⊢
      have inner : runLength Char.isDigit (x ++ r) ≤ x.length := by omega
      rw [runLength_settles (by decide) apart inner]
    · simp only [List.cons_append, fractional_of_ne point]

theorem mantissa_settles {x r r' : List Char} (apart : Apart r')
    (within : (mantissa (x ++ r)).2 ≤ x.length) : mantissa (x ++ r') = mantissa (x ++ r) := by
  -- The digits end within `x` since the number does, so the point is looked for at one place.
  have digits : runLength Char.isDigit (x ++ r) ≤ x.length :=
    Nat.le_trans (le_fractional _ _) within
  unfold mantissa at within ⊢
  rw [runLength_settles (by decide) apart digits]
  generalize runLength Char.isDigit (x ++ r) = whole at digits within ⊢
  rw [List.drop_append_of_le_length digits] at within ⊢
  rw [List.drop_append_of_le_length digits]
  refine fractional_settles apart (Nat.le_trans within ?_)
  rw [List.length_drop]
  omega

theorem number_settles {x r r' : List Char} (apart : Apart r')
    (within : (number (x ++ r)).2 ≤ x.length) : number (x ++ r') = number (x ++ r) := by
  -- First the part before the exponent, then the exponent where that part ends.
  have front := Nat.le_trans (mantissa_le_number (x ++ r)) within
  rw [number_eq] at within
  rw [number_eq, number_eq, mantissa_settles apart front]
  generalize mantissa (x ++ r) = m at front within ⊢
  rw [List.drop_append_of_le_length front] at within ⊢
  rw [List.drop_append_of_le_length front]
  have inner : exponentLength (x.drop m.2 ++ r) ≤ (x.drop m.2).length := by
    rw [List.length_drop]
    split at within
    · next none => rw [none]; exact Nat.zero_le _
    · exact Nat.le_sub_of_add_le (by rw [Nat.add_comm]; exact within)
  rw [exponentLength_settles apart inner]

theorem settles_numeric (c : Char) : Settles 1 (measure.numeric c) := by
  intro x r r' apart _ within
  have same : number (c :: x ++ r') = number (c :: x ++ r) :=
    number_settles apart (Nat.le_trans within (Nat.le_of_eq (Nat.add_comm 1 _)))
  unfold measure.numeric
  rw [← List.cons_append, ← List.cons_append, same]

/-! ### All lexemes -/

theorem isWordChar_space : isWordChar ' ' = false := by decide

theorem settles_wordLike : Settles 1 measure.wordLike := settles_run isWordChar_space .word 1

/-- The characters that tell a lexeme apart by themselves or with the next one. -/
def special : List Char :=
  ['(', ')', ',', ';', '~', '=', '+', '-', '*', '/', '%', '&', '|', '^', ':', '<', '>', '!', '\'',
   'N', 'n', '[', '"', '0', '.', '@']

theorem measure_of_not_special {c : Char} (plain : c ∉ special) (cs : List Char) : measure c cs =
    if c.isDigit then measure.numeric c cs
    else if isWordStart c then measure.wordLike cs else measure.unexpected c := by
  unfold measure
  split
  case h_34 => rfl
  all_goals exact absurd (by decide) plain

theorem settles_less : Settles 1 (measure '<') := by
  refine settles_pair (f := fun c =>
    if c = '=' then (.symbol (.comparison .ltEq), 2)
    else if c = '>' then (.symbol (.comparison .notEq), 2)
    else (.symbol (.comparison .lt), 1)) (fun c cs => ?_) rfl fun c within => ?_
  · unfold measure
    split <;> simp_all
  · have alone : measure '<' [] = (.symbol (.comparison .lt), 1) := rfl
    grind

theorem settles_exclamation : Settles 1 (measure '!') := by
  have alone : measure '!' [] = measure.unexpected '!' := by decide
  have noWord : isWordStart '!' = false := by decide
  refine settles_pair (f := fun c =>
    if c = '=' then (.symbol (.comparison .notEq), 2)
    else if c = '<' then (.symbol (.comparison .notLt), 2)
    else if c = '>' then (.symbol (.comparison .notGt), 2)
    else measure.unexpected '!') (fun c cs => ?_) alone.symm fun c within => ?_
  · unfold measure
    split <;> simp_all
  · grind

theorem wordLike_short {cs : List Char} (short : (measure.wordLike cs).2 ≤ 1) :
    measure.wordLike cs = (.word, 1) := by
  have none : runLength isWordChar cs = 0 := by
    simp only [measure.wordLike] at short
    omega
  rw [measure.wordLike, none]

/-- A letter that starts a word, or a string if a quote follows. -/
theorem settles_national {c : Char} (national : c = 'N' ∨ c = 'n') : Settles 1 (measure c) := by
  have next : ∀ d cs, measure c (d :: cs) =
      if d = '\'' then stringLiteral .nationalString 2 cs else measure.wordLike (d :: cs) := by
    intro d cs
    have word : isWordStart 'N' = true ∧ isWordStart 'n' = true := by decide
    obtain rfl | rfl := national
    all_goals
      unfold measure
      split <;> simp_all
  have alone : measure c [] = (.word, 1) := by
    obtain rfl | rfl := national <;> decide
  refine .of_next (fun cs => ?_) (fun d cs _ within => ?_) fun d => ?_
  · rw [next, alone, if_neg (by decide), measure.wordLike, runLength_cons, isWordChar_space]
    rfl
  · rw [next] at within ⊢
    rw [alone]
    split at within
    · have long := Nat.le_trans (le_delimited _ _ _ 2 cs) within
      omega
    · next word => rw [if_neg word, wordLike_short within]
  · simp only [next]
    split
    · exact settles_delimited (by decide) _ _ 2
    · exact settles_wordLike.cons d

/-- A digit that starts a number, or a binary literal if an `x` follows. -/
theorem settles_zero : Settles 1 (measure '0') := by
  have next : ∀ d cs, measure '0' (d :: cs) =
      if d = 'x' ∨ d = 'X' then (.symbol (.literal .binary), 2 + runLength isHexDigit cs)
      else measure.numeric '0' (d :: cs) := by
    intro d cs
    unfold measure
    split <;> simp_all
  have alone : measure '0' [] = measure.numeric '0' [] := rfl
  refine .of_next (fun cs => ?_) (fun d cs sound within => ?_) fun d => ?_
  · rw [next, alone]
    exact settles_numeric '0' [] [] _ (.inr ⟨cs, rfl⟩) rfl (by decide)
  · rw [next] at sound within ⊢
    rw [alone]
    split at within
    · dsimp only at within
      omega
    · next other =>
      rw [if_neg other] at sound ⊢
      exact (settles_numeric '0' [] _ [] (.inl rfl) sound within).symm
  · simp only [next]
    split
    · exact settles_run (by decide) _ 2
    · exact (settles_numeric '0').cons d

/-- A point stands alone, or starts a number if a digit follows. -/
theorem settles_point : Settles 1 (measure '.') := by
  have next : ∀ d cs, measure '.' (d :: cs) =
      if d.isDigit then measure.numeric '.' (d :: cs) else (.symbol .dot, 1) := fun _ _ => rfl
  refine .of_next (fun cs => rfl) (fun d cs sound within => ?_) fun d => ?_
  · rw [next] at within ⊢
    split at within
    · next digit =>
      have long : 2 ≤ (measure.numeric '.' (d :: cs)).2 := by
        have front : mantissa ('.' :: d :: cs) =
            (.decimal, 0 + 1 + runLength Char.isDigit (d :: cs)) := rfl
        have whole := mantissa_le_number ('.' :: d :: cs)
        rw [front, runLength_cons, if_pos digit] at whole
        exact Nat.le_trans (by omega) whole
      omega
    · next other => exact if_neg other
  · simp only [next]
    split
    · exact (settles_numeric '.').cons d
    · exact settles_const _ _

theorem settles_at : Settles 1 (measure '@') := by
  have next : ∀ d cs, measure '@' (d :: cs) =
      if isWordChar d then measure.wordLike (d :: cs) else measure.unexpected '@' := fun _ _ => rfl
  refine .of_next (fun cs => ?_) (fun d cs sound within => ?_) fun d => ?_
  · rw [next, isWordChar_space]
    rfl
  · rw [next] at sound within ⊢
    split at within
    · next word =>
      rw [measure.wordLike, runLength_cons, if_pos word] at within
      dsimp only at within
      omega
    · next other =>
      rw [if_neg other] at sound
      cases sound
  · simp only [next]
    split
    · exact settles_wordLike.cons d
    · exact settles_const _ _

theorem settles_special : ∀ c ∈ special, Settles 1 (measure c) := by
  simp only [special, List.forall_mem_cons]
  exact ⟨settles_const 1 (.symbol .leftParen, 1), settles_const 1 (.symbol .rightParen, 1),
    settles_const 1 (.symbol .comma, 1), settles_const 1 (.symbol .semicolon, 1),
    settles_const 1 (.symbol .tilde, 1), settles_const 1 (.symbol (.comparison .eq), 1),
    settles_either (by decide) _ _, settles_either (by decide) _ _, settles_either (by decide) _ _,
    settles_either (by decide) _ _, settles_either (by decide) _ _, settles_either (by decide) _ _,
    settles_either (by decide) _ _, settles_either (by decide) _ _, settles_either (by decide) _ _,
    settles_less, settles_either (by decide) _ _, settles_exclamation,
    settles_delimited (by decide) _ _ 1, settles_national (.inl rfl), settles_national (.inr rfl),
    settles_delimited (by decide) _ _ 1, settles_delimited (by decide) _ _ 1, settles_zero,
    settles_point, settles_at, List.forall_mem_nil _⟩

theorem settles_measure (c : Char) : Settles 1 (measure c) := by
  by_cases plain : c ∈ special
  · exact settles_special c plain
  · have measured : measure c = fun cs =>
        if c.isDigit then measure.numeric c cs
        else if isWordStart c then measure.wordLike cs else measure.unexpected c :=
      funext (measure_of_not_special plain)
    rw [measured]
    split
    · exact settles_numeric c
    · split
      · exact settles_wordLike
      · exact settles_const _ _

/-! ### Lexemes end within the text -/

theorem runLength_le (p : Char → Bool) (cs : List Char) : runLength p cs ≤ cs.length :=
  (List.takeWhile_sublist p).length_le

theorem closingLength?_le {closing : Char} {cs : List Char} {m : Nat}
    (h : closingLength? closing cs = some m) : m ≤ cs.length := by
  fun_induction closingLength? closing cs generalizing m with
  | case1 => cases h
  | case2 => cases h; exact Nat.le_refl _
  | case3 => cases h
  | case4 cs ih =>
    obtain ⟨n, closes, rfl⟩ := Option.map_eq_some_iff.mp h
    exact Nat.add_le_add_right (ih closes) 2
  | case5 =>
    cases h
    exact Nat.succ_pos _
  | case6 c d cs _ ih =>
    obtain ⟨n, closes, rfl⟩ := Option.map_eq_some_iff.mp h
    exact Nat.succ_le_succ (ih closes)

theorem delimited_le (found : Lexeme) (what : String) (closing : Char) (n : Nat) (cs : List Char) :
    (delimited found what closing n cs).2 ≤ n + cs.length := by
  unfold delimited
  split
  · next m closes => exact Nat.add_le_add_left (closingLength?_le closes) n
  · exact Nat.le_refl _

theorem either_le (second : Char) (long short : TokenKind) (cs : List Char) :
    (either second long short cs).2 ≤ 1 + cs.length := by
  unfold either
  split
  · split <;> simp only [List.length_cons] <;> omega
  · exact Nat.le_refl _

theorem exponentLength_le (cs : List Char) : exponentLength cs ≤ cs.length := by
  unfold exponentLength
  split
  · next e c cs =>
    have digits := runLength_le Char.isDigit cs
    simp only [List.length_cons]
    split <;> omega
  · exact Nat.zero_le _

theorem mantissa_le (cs : List Char) : (mantissa cs).2 ≤ cs.length := by
  have whole := runLength_le Char.isDigit cs
  unfold mantissa fractional
  split
  · next fraction rest =>
    have digits := runLength_le Char.isDigit fraction
    have sizes := congrArg List.length rest
    rw [List.length_drop, List.length_cons] at sizes
    dsimp only
    omega
  · exact whole

theorem number_le (cs : List Char) : (number cs).2 ≤ cs.length := by
  have front := mantissa_le cs
  have exponent := exponentLength_le (cs.drop (mantissa cs).2)
  rw [List.length_drop] at exponent
  rw [number_eq]
  split
  · exact front
  · dsimp only
    omega

theorem measure_le (c : Char) (cs : List Char) : (measure c cs).2 ≤ 1 + cs.length := by
  have number : (measure.numeric c cs).2 ≤ 1 + cs.length := by
    rw [Nat.add_comm]
    exact number_le (c :: cs)
  have word : (measure.wordLike cs).2 ≤ 1 + cs.length :=
    Nat.add_le_add_left (runLength_le isWordChar cs) 1
  have one : 1 ≤ 1 + cs.length := Nat.le_add_right 1 _
  have pair : ∀ (d : Char) (rest : List Char) {n : Nat}, n ≤ 2 + rest.length →
      n ≤ 1 + (d :: rest).length := by
    intro d rest n within
    rw [List.length_cons]
    omega
  unfold measure
  split
  case h_30 | h_32 => split <;> assumption
  case h_34 =>
    split
    · exact number
    · split
      · exact word
      · exact one
  all_goals first
    | exact one
    | exact either_le _ _ _ _
    | exact delimited_le _ _ _ 1 _
    | exact pair _ _ (Nat.le_add_right 2 _)
    | exact pair _ _ (delimited_le _ _ _ 2 _)
    | exact pair _ _ (Nat.add_le_add_left (runLength_le _ _) 2)

end Lexeme

/-! ### Trivia -/

namespace Trivia

theorem measure?_cons_eq_none {c : Char} {cs : List Char} : measure? (c :: cs) = none ↔
    Text.isBlank c = false ∧ (c = '-' → cs.head? ≠ some '-') ∧ (c = '/' → cs.head? ≠ some '*') := by
  have ends : Text.isBlank '\n' = true ∧ Text.isBlank '\r' = true := by decide
  unfold measure?
  split
  case h_7 line block same =>
    cases same
    have noLine : c = '-' → cs.head? ≠ some '-' := by
      intro first second
      obtain ⟨rest, behind⟩ := List.head?_eq_some_iff.mp second
      exact line rest first behind
    have noBlock : c = '/' → cs.head? ≠ some '*' := by
      intro first second
      obtain ⟨rest, behind⟩ := List.head?_eq_some_iff.mp second
      exact block rest first behind
    cases Text.isBlank c with
    | true => simp
    | false => simpa using ⟨noLine, noBlock⟩
  all_goals simp_all

theorem measure?_settles {c : Char} {x r r' : List Char} (apart : Apart r')
    (h : measure? (c :: x ++ r) = none) : measure? (c :: x ++ r') = none := by
  obtain ⟨blank, line, block⟩ := measure?_cons_eq_none.mp h
  cases x with
  | nil =>
    exact measure?_cons_eq_none.mpr ⟨blank, fun _ => Lexeme.head?_apart (by decide) apart,
      fun _ => Lexeme.head?_apart (by decide) apart⟩
  | cons d x => exact measure?_cons_eq_none.mpr ⟨blank, line, block⟩

end Trivia

end TransactSql
