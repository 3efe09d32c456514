import TransactSql.Grammar.RawStatement
import TransactSql.Proofs.Parser.Yield

/-!
# Levels of parentheses in token lists

`parenDepth?` follows the level of parentheses through tokens and fails where a `)` closes nothing.
Tokens are balanced if it comes back to where it began. The regions that are kept raw are measured
by other counters; here these are shown to agree with it.
-/

namespace TransactSql

/-! ### Levels -/

/-- The level behind a token, unless the token closes what was not opened. -/
def parenStep (depth : Nat) (t : Token) : Option Nat :=
  match t.kind, depth with
  | .leftParen, depth => some (depth + 1)
  | .rightParen, 0 => none
  | .rightParen, depth + 1 => some depth
  | _, depth => some depth

/-- The level behind tokens that begin at a level. -/
def parenDepth? (depth : Nat) (ts : List Token) : Option Nat := ts.foldlM parenStep depth

/-- Tokens that close only what they opened. -/
def Upright (ts : List Token) : Prop := ∃ k, parenDepth? 0 ts = some k

theorem parenStep_leftParen {t : Token} (h : t.kind = .leftParen) (k : Nat) :
    parenStep k t = some (k + 1) := by
  simp [parenStep, h]

theorem parenStep_rightParen {t : Token} (h : t.kind = .rightParen) (k : Nat) :
    parenStep (k + 1) t = some k := by
  simp [parenStep, h]

theorem parenStep_zero {t : Token} (h : t.kind = .rightParen) : parenStep 0 t = none := by
  simp [parenStep, h]

/-- Whether the token is a parenthesis. -/
def Token.isParen (t : Token) : Bool := t.kind == .leftParen || t.kind == .rightParen

theorem parenStep_of_not_isParen {t : Token} (h : t.isParen = false) (k : Nat) :
    parenStep k t = some k := by
  simp only [Token.isParen, Bool.or_eq_false_iff, beq_eq_false_iff_ne, ne_eq] at h
  unfold parenStep
  split <;> simp_all

@[simp]
theorem parenDepth?_nil (k : Nat) : parenDepth? k [] = some k := rfl

@[simp]
theorem parenDepth?_cons (k : Nat) (t : Token) (ts : List Token) :
    parenDepth? k (t :: ts) = (parenStep k t).bind (parenDepth? · ts) := by
  rw [parenDepth?, List.foldlM_cons]
  rfl

theorem parenDepth?_append (k : Nat) (ts us : List Token) :
    parenDepth? k (ts ++ us) = (parenDepth? k ts).bind (parenDepth? · us) := by
  rw [parenDepth?, List.foldlM_append]
  rfl

theorem parenDepth?_append_of {k m : Nat} {ts : List Token} (h : parenDepth? k ts = some m)
    (us : List Token) : parenDepth? k (ts ++ us) = parenDepth? m us := by
  rw [parenDepth?_append, h]
  rfl

theorem parenStep_add {k m : Nat} {t : Token} (h : parenStep k t = some m) (j : Nat) :
    parenStep (k + j) t = some (m + j) := by
  by_cases left : t.kind = .leftParen
  · rw [parenStep_leftParen left] at h ⊢
    obtain rfl := Option.some.inj h
    congr 1
    omega
  · by_cases right : t.kind = .rightParen
    · cases k with
      | zero =>
        rw [parenStep_zero right] at h
        cases h
      | succ k =>
        rw [parenStep_rightParen right] at h
        obtain rfl := Option.some.inj h
        rw [Nat.add_right_comm, parenStep_rightParen right]
    · have plain : t.isParen = false := by simp [Token.isParen, left, right]
      rw [parenStep_of_not_isParen plain] at h ⊢
      obtain rfl := Option.some.inj h
      rfl

/-- What is read at a level is read alike at every higher one. -/
theorem parenDepth?_add {k m : Nat} {ts : List Token} (h : parenDepth? k ts = some m) (j : Nat) :
    parenDepth? (k + j) ts = some (m + j) := by
  induction ts generalizing k with
  | nil =>
    obtain rfl := Option.some.inj h
    rfl
  | cons t ts ih =>
    rw [parenDepth?_cons] at h ⊢
    obtain ⟨l, step, rest⟩ := Option.bind_eq_some_iff.mp h
    rw [parenStep_add step]
    exact ih rest

theorem parenDepth?_of_plain {ts : List Token} (plain : ∀ t ∈ ts, t.isParen = false) (k : Nat) :
    parenDepth? k ts = some k := by
  induction ts with
  | nil => rfl
  | cons t ts ih =>
    simp only [List.forall_mem_cons] at plain
    rw [parenDepth?_cons, parenStep_of_not_isParen plain.1]
    exact ih plain.2

theorem Upright.of_prefix {ts us : List Token} (h : Upright ts) (front : us <+: ts) :
    Upright us := by
  obtain ⟨rest, rfl⟩ := front
  obtain ⟨k, depth⟩ := h
  rw [parenDepth?_append] at depth
  obtain ⟨m, before, _⟩ := Option.bind_eq_some_iff.mp depth
  exact ⟨m, before⟩

/-- How the grammar reads `=` changes no level. -/
theorem parenDepth?_of_readAs {raw ts : List Token} (read : List.Forall₂ Token.ReadAs raw ts)
    (k : Nat) : parenDepth? k ts = parenDepth? k raw := by
  induction read generalizing k with
  | nil => rfl
  | @cons t u ts us first rest ih =>
    have same : parenStep k u = parenStep k t := by
      rcases first with rfl | rfl
      · rfl
      · unfold Token.asAssignment
        split
        · next isEq =>
          rw [parenStep_of_not_isParen (by simp [Token.isParen]),
            parenStep_of_not_isParen (by simp [Token.isParen, isEq])]
        · rfl
    rw [parenDepth?_cons, parenDepth?_cons, same]
    exact congrArg _ (funext fun k => ih k)

/-! ### Balanced tokens -/

/-- The number of `(` among tokens. -/
def opens (ts : List Token) : Nat := ts.countP (·.kind == .leftParen)

/-- The number of `)` among tokens. -/
def closes (ts : List Token) : Nat := ts.countP (·.kind == .rightParen)

/-- As many parentheses are closed as are opened, and nowhere before more. -/
structure Balanced (ts : List Token) : Prop where
  upright : ∀ {front : List Token}, front <+: ts → closes front ≤ opens front
  closed : opens ts = closes ts

theorem parenDepth?_eq_some_iff {k m : Nat} {ts : List Token} :
    parenDepth? k ts = some m ↔
      (∀ front, front <+: ts → closes front ≤ k + opens front) ∧ m + closes ts = k + opens ts := by
  induction ts generalizing k with
  | nil =>
    simp only [parenDepth?_nil, Option.some.injEq, List.prefix_nil, forall_eq]
    simp [opens, closes, eq_comm]
  | cons t ts ih =>
    have fronts : ∀ {P : List Token → Prop},
        (∀ front, front <+: t :: ts → P front) ↔ P [] ∧ ∀ front, front <+: ts → P (t :: front) := by
      intro P
      constructor
      · intro all
        exact ⟨all [] (List.nil_prefix), fun front h => all _ (List.cons_prefix_cons.mpr ⟨rfl, h⟩)⟩
      · rintro ⟨empty, more⟩ front h
        rcases List.prefix_cons_iff.mp h with rfl | ⟨tail, rfl, inside⟩
        · exact empty
        · exact more tail inside
    have empty : closes [] ≤ k + opens [] := Nat.zero_le _
    rw [parenDepth?_cons, fronts]
    simp only [empty, true_and]
    by_cases left : t.kind = .leftParen
    · have opening : ∀ us, opens (t :: us) = opens us + 1 ∧ closes (t :: us) = closes us := by
        simp [opens, closes, left]
      rw [parenStep_leftParen left, Option.bind_some, ih]
      simp only [opening]
      constructor
      · rintro ⟨all, total⟩
        exact ⟨fun front h => by have := all front h; omega, by omega⟩
      · rintro ⟨all, total⟩
        exact ⟨fun front h => by have := all front h; omega, by omega⟩
    · by_cases right : t.kind = .rightParen
      · have closing : ∀ us, opens (t :: us) = opens us ∧ closes (t :: us) = closes us + 1 := by
          simp [opens, closes, right]
        simp only [closing]
        cases k with
        | zero =>
          rw [parenStep_zero right]
          constructor
          · exact nofun
          · rintro ⟨all, _⟩
            have none := all [] List.nil_prefix
            simp [opens] at none
        | succ k =>
          rw [parenStep_rightParen right, Option.bind_some, ih]
          constructor
          · rintro ⟨all, total⟩
            exact ⟨fun front h => by have := all front h; omega, by omega⟩
          · rintro ⟨all, total⟩
            exact ⟨fun front h => by have := all front h; omega, by omega⟩
      · have plain : ∀ us, opens (t :: us) = opens us ∧ closes (t :: us) = closes us := by
          simp [opens, closes, left, right]
        have neither : t.isParen = false := by simp [Token.isParen, left, right]
        rw [parenStep_of_not_isParen neither, Option.bind_some, ih]
        simp only [plain]

theorem balanced_iff {ts : List Token} : Balanced ts ↔ parenDepth? 0 ts = some 0 := by
  rw [parenDepth?_eq_some_iff]
  constructor
  · rintro ⟨upright, closed⟩
    exact ⟨fun front h => by have := upright h; omega, by omega⟩
  · rintro ⟨upright, closed⟩
    exact ⟨fun {front} h => by have := upright front h; omega, by omega⟩

/-! ### Matching parentheses -/

/-- Tokens that close only what they opened do not go beyond a `)` that balanced tokens leave to be
closed. -/
theorem Upright.length_le {raw behind body rest : List Token} {rparen : Token} (upright : Upright raw)
    (balanced : parenDepth? 0 body = some 0) (isClosing : rparen.kind = .rightParen)
    (same : raw ++ behind = body ++ rparen :: rest) : raw.length ≤ body.length := by
  by_contra longer
  have front : body ++ [rparen] <+: raw := by
    have whole : body ++ [rparen] <+: raw ++ behind := by
      rw [same]
      exact ⟨rest, by simp⟩
    refine List.prefix_of_prefix_length_le whole (List.prefix_append raw behind) ?_
    simp only [List.length_append, List.length_singleton]
    omega
  obtain ⟨k, depth⟩ := upright.of_prefix front
  rw [parenDepth?_append_of balanced, parenDepth?_cons, parenStep_zero isClosing] at depth
  cases depth

/-- There is one `)` that closes a parenthesis. -/
theorem eq_of_balanced {body inner rest more : List Token} {rparen t : Token}
    (balanced : parenDepth? 0 body = some 0) (isClosing : rparen.kind = .rightParen)
    (balanced' : parenDepth? 0 inner = some 0) (isClosing' : t.kind = .rightParen)
    (same : inner ++ t :: more = body ++ rparen :: rest) :
    inner = body ∧ t = rparen ∧ more = rest := by
  have shorter := Upright.length_le ⟨0, balanced'⟩ balanced isClosing same
  have longer := Upright.length_le ⟨0, balanced⟩ balanced' isClosing' same.symm
  obtain ⟨rfl, rest⟩ := List.append_inj same (by omega)
  obtain ⟨rfl, rfl⟩ := List.cons.inj rest
  exact ⟨rfl, rfl, rfl⟩

/-! ### Regions kept raw -/

theorem openParens_eq {ts : List Token} {m : Nat} (h : parenDepth? 0 ts = some m) :
    openParens ts = m := by
  unfold openParens
  generalize (0 : Nat) = k at h ⊢
  induction ts generalizing k with
  | nil => exact Option.some.inj h
  | cons t ts ih =>
    rw [parenDepth?_cons] at h
    obtain ⟨l, step, rest⟩ := Option.bind_eq_some_iff.mp h
    rw [List.foldl_cons]
    convert ih l rest using 2
    by_cases right : t.kind = .rightParen
    · cases k with
      | zero =>
        rw [parenStep_zero right] at step
        cases step
      | succ k => simpa [parenStep, right] using step
    · cases kind : t.kind <;> simp_all [parenStep]

theorem closingDistance?_depth {k n : Nat} {ts : List Token} (h : closingDistance? k ts = some n) :
    parenDepth? k (ts.take n) = some 0 := by
  fun_induction closingDistance? k ts generalizing n with
  | case1 => cases h
  | case2 t ts closing =>
    cases h
    rfl
  | case3 t ts k closing ih =>
    obtain ⟨m, found, rfl⟩ := Option.map_eq_some_iff.mp h
    rw [List.take_succ_cons, parenDepth?_cons, parenStep_rightParen closing]
    exact ih found
  | case4 t ts k opening ih =>
    obtain ⟨m, found, rfl⟩ := Option.map_eq_some_iff.mp h
    rw [List.take_succ_cons, parenDepth?_cons, parenStep_leftParen opening]
    exact ih found
  | case5 t ts k closed closes opening ih =>
    obtain ⟨m, found, rfl⟩ := Option.map_eq_some_iff.mp h
    have plain : t.isParen = false := by
      cases k <;> simp_all [Token.isParen]
    rw [List.take_succ_cons, parenDepth?_cons, parenStep_of_not_isParen plain]
    exact ih found

theorem exists_depth_of_closingDistance? {k : Nat} {ts : List Token}
    (h : closingDistance? k ts = none) : ∃ m, parenDepth? k ts = some m := by
  fun_induction closingDistance? k ts with
  | case1 k => exact ⟨k, rfl⟩
  | case2 => cases h
  | case3 t ts k closing ih =>
    rw [parenDepth?_cons, parenStep_rightParen closing]
    exact ih (Option.map_eq_none_iff.mp h)
  | case4 t ts k opening ih =>
    rw [parenDepth?_cons, parenStep_leftParen opening]
    exact ih (Option.map_eq_none_iff.mp h)
  | case5 t ts k closed closes opening ih =>
    have plain : t.isParen = false := by
      cases k <;> simp_all [Token.isParen]
    rw [parenDepth?_cons, parenStep_of_not_isParen plain]
    exact ih (Option.map_eq_none_iff.mp h)

/-- Nothing is left to read, or a token that is an error. -/
def Blocked (ts : List Token) : Prop := ∀ t ∈ ts.head?, t.isError = true

/-- The first `n` tokens close only what is open, and what they leave open has no end. -/
def Unended (k n : Nat) (ts : List Token) : Prop :=
  ∃ m, parenDepth? k (ts.take n) = some m ∧ (m ≠ 0 → Blocked (ts.drop n))

theorem Unended.cons {k l n : Nat} {t : Token} {ts : List Token} (step : parenStep k t = some l)
    (h : Unended l n ts) : Unended k (n + 1) (t :: ts) := by
  obtain ⟨m, depth, blocked⟩ := h
  refine ⟨m, ?_, blocked⟩
  rw [List.take_succ_cons, parenDepth?_cons, step]
  exact depth

theorem statementExtent_unended (before : List Token) (k n : Nat) (ts : List Token) :
    Unended k (Grammar.statementExtent before k n ts) ts := by
  have word : ∀ {t : Token} {w : Word}, t.kind = .word w → t.isParen = false := by
    intro t w kind
    simp [Token.isParen, kind]
  induction ts generalizing before k n with
  | nil => exact ⟨k, by simp [Grammar.statementExtent], fun _ => by simp [Blocked]⟩
  | cons t ts ih =>
    unfold Grammar.statementExtent
    split
    next message kind =>
      refine ⟨_, rfl, fun _ u first => ?_⟩
      cases first
      simp [Token.isError, TokenKind.isError, kind]
    next => exact ⟨0, rfl, fun more => absurd rfl more⟩
    next kind => exact (ih _ _ _).cons (parenStep_leftParen kind _)
    next => exact ⟨0, rfl, fun more => absurd rfl more⟩
    next k kind => exact (ih _ _ _).cons (parenStep_rightParen kind k)
    next kind => exact (ih _ _ _).cons (parenStep_of_not_isParen (word kind) 0)
    next kind => exact (ih _ _ _).cons (parenStep_of_not_isParen (word kind) 0)
    next kind =>
      split
      · exact ⟨0, rfl, fun more => absurd rfl more⟩
      · exact (ih _ _ _).cons (parenStep_of_not_isParen (word kind) 0)
    next k _ _ _ _ _ notLeft _ atBase above _ _ _ =>
      have plain : t.isParen = false := by
        cases k <;> simp_all [Token.isParen]
      exact (ih _ _ _).cons (parenStep_of_not_isParen plain k)

end TransactSql
