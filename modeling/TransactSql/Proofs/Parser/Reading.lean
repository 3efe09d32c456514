import Mathlib.Data.List.Forall2
import TransactSql.Expr.Tree
import TransactSql.Proofs.Parser.Frame
import TransactSql.Proofs.Token.Tiling

/-!
# Reading tokens into slots

A parser that succeeds puts every token it passes over into a slot of its value, in order.
`Cursor.Reads` says so of a part of a run, `Parser.Yields` of all successful runs of a parser.
-/

namespace TransactSql

namespace Token

/-- Whether the token stands for text of its own. -/
def isSource (t : Token) : Bool := t.kind.isSource

/-- How the grammar may read a token: `=` may have become an assignment. -/
def ReadAs (raw t : Token) : Prop := t = raw ∨ t = raw.asAssignment

theorem keyword?_eq_some_iff {t : Token} {k : Keyword} :
    t.keyword? = some k ↔ t.kind = .word (.keyword k) := by
  unfold keyword?
  cases t.kind with
  | word w => cases w <;> simp [TokenKind.keyword?, Word.keyword?]
  | _ => simp [TokenKind.keyword?]

theorem isKeyword_iff {t : Token} {k : Keyword} :
    t.isKeyword k = true ↔ t.kind = .word (.keyword k) := by
  rw [isKeyword, beq_iff_eq, keyword?_eq_some_iff]

theorem isSource_of_isKeyword {t : Token} {k : Keyword} (h : t.isKeyword k = true) :
    t.isSource = true := by
  unfold isKeyword keyword? at h
  unfold isSource
  cases hk : t.kind <;> simp_all [TokenKind.keyword?, TokenKind.isSource]

theorem isSource_of_keyword? {t : Token} {k : Keyword} (h : t.keyword? = some k) : t.isSource = true :=
  isSource_of_isKeyword (k := k) (by simp [isKeyword, h])

theorem isSource_of_isAnyKeyword {t : Token} {ks : List Keyword} (h : t.isAnyKeyword ks = true) :
    t.isSource = true := by
  unfold isAnyKeyword keyword? at h
  unfold isSource
  cases hk : t.kind <;> simp_all [TokenKind.keyword?, TokenKind.isSource]

theorem isSource_of_isWord {t : Token} (h : t.isWord = true) : t.isSource = true := by
  unfold isWord at h
  unfold isSource
  cases hk : t.kind <;> simp_all [TokenKind.isWord, TokenKind.isSource]

theorem isSource_of_isVariable {t : Token} (h : t.isVariable = true) : t.isSource = true := by
  unfold isVariable hasFlag at h
  unfold isSource
  cases hk : t.kind <;> simp_all [TokenKind.isSource]

theorem isSource_of_isPlainIdentifier {t : Token} (h : t.isPlainIdentifier = true) :
    t.isSource = true := by
  unfold isPlainIdentifier at h
  rw [Bool.and_eq_true, Bool.and_eq_true] at h
  exact isSource_of_isWord h.1.1

theorem isSource_of_kind_eq {t : Token} {k : TokenKind} (source : k.isSource = true) (h : t.kind = k) :
    t.isSource = true := by
  unfold isSource
  rw [h]
  exact source

theorem isSource_of_kind {t : Token} {k : TokenKind} (source : k.isSource = true)
    (h : (t.kind == k) = true) : t.isSource = true := isSource_of_kind_eq source (eq_of_beq h)

theorem not_isEof_of_isSource {t : Token} (h : t.isSource = true) : t.isEof = false := by
  unfold isSource at h
  unfold isEof
  cases hk : t.kind <;> simp_all [TokenKind.isSource]

theorem isPlaceholder_of_isSource {t : Token} (h : t.isSource = true) : t.isPlaceholder = false := by
  unfold isSource at h
  unfold isPlaceholder
  cases hk : t.kind <;> simp_all [TokenKind.isSource]

theorem isError_of_isSource {t : Token} (h : t.isSource = true) : t.isError = false := by
  unfold isSource at h
  unfold isError
  cases hk : t.kind <;> simp_all [TokenKind.isSource, TokenKind.isError]

end Token

/-! ### Tokens of slots -/

namespace Tree

@[simp]
theorem tokens_node (kind : NodeKind) (slots : List Tree) : (node kind slots).tokens = tokensOf slots := by
  rw [tokens]

@[simp]
theorem tokensOf_nil : tokensOf [] = [] := by rw [tokensOf]

@[simp]
theorem tokensOf_cons (slot : Tree) (slots : List Tree) :
    tokensOf (slot :: slots) = slot.tokens ++ tokensOf slots := by
  rw [tokensOf]

@[simp]
theorem tokensOf_append (slots more : List Tree) :
    tokensOf (slots ++ more) = tokensOf slots ++ tokensOf more := by
  induction slots with
  | nil => simp
  | cons slot slots ih => simp [ih]

theorem tokens_token {t : Token} (h : t.isSource = true) : (token t).tokens = [t] := by
  rw [tokens, Token.isPlaceholder_of_isSource h]
  rfl

@[simp]
theorem tokens_placeholder : (token .placeholder).tokens = [] := by
  rw [tokens]
  rfl

theorem tokensOf_tokenSlots {ts : List Token} (h : ∀ t ∈ ts, t.isSource = true) :
    tokensOf (tokenSlots ts) = ts := by
  induction ts with
  | nil => rfl
  | cons t ts ih =>
    have tail := ih fun u member => h u (List.mem_cons_of_mem t member)
    rw [tokenSlots] at tail ⊢
    rw [List.map_cons, tokensOf_cons, tail, tokens_token (h t List.mem_cons_self)]
    rfl

end Tree

/-! ### Reading -/

namespace Cursor

/-- A cursor without a fault whose end of input is one. -/
structure Ready (c : Cursor) : Prop where
  fault : c.fault = none
  eof : c.eof.isEof = true

/-- From one cursor to another by reading the tokens that stand in `slots`. -/
structure Reads (c : Cursor) (slots : List Tree) (d : Cursor) : Prop where
  moved : ∃ raw, c.Moved raw d ∧ List.Forall₂ Token.ReadAs raw (Tree.tokensOf slots)
  source : ∀ t ∈ Tree.tokensOf slots, t.isSource = true
  ready : d.Ready

namespace Reads

variable {b c d : Cursor} {slots more : List Tree}

theorem start (ready : c.Ready) : c.Reads [] c := by
  refine ⟨⟨[], .refl c, ?_⟩, ?_, ready⟩
  · rw [Tree.tokensOf_nil]
    exact .nil
  · simp

theorem trans (r : b.Reads slots c) (r' : c.Reads more d) : b.Reads (slots ++ more) d := by
  obtain ⟨raw, moved, read⟩ := r.moved
  obtain ⟨raw', moved', read'⟩ := r'.moved
  refine ⟨⟨raw ++ raw', moved.trans moved', ?_⟩, ?_, r'.ready⟩
  · rw [Tree.tokensOf_append]
    exact List.rel_append read read'
  · intro t member
    rw [Tree.tokensOf_append] at member
    rcases List.mem_append.mp member with before | after
    · exact r.source t before
    · exact r'.source t after

theorem of_tokens (r : c.Reads slots d) (same : Tree.tokensOf more = Tree.tokensOf slots) :
    c.Reads more d := by
  obtain ⟨moved, source, ready⟩ := r
  rw [← same] at moved source
  exact ⟨moved, source, ready⟩

theorem node {kind : NodeKind} (r : c.Reads slots d) : c.Reads [.node kind slots] d :=
  r.of_tokens (by simp)

end Reads

/-! ### The current token -/

variable {c d : Cursor}

theorem current_eq (ready : c.Ready) : c.current = c.normalize c.rawCurrent := by
  rw [current, ready.fault]

theorem isSource_normalize (c : Cursor) (t : Token) : (c.normalize t).isSource = t.isSource := by
  unfold normalize Token.asAssignment
  split
  · split
    · next eq => simp [Token.isSource, eq, TokenKind.isSource]
    · rfl
  · rfl

theorem readAs_normalize (c : Cursor) (t : Token) : t.ReadAs (c.normalize t) := by
  unfold normalize
  split
  · exact Or.inr rfl
  · exact Or.inl rfl

/-- The current token is one of those ahead if it stands for text. -/
theorem exists_cons_of_isSource (ready : c.Ready) (source : c.current.isSource = true) :
    ∃ t rest, c.ahead = t :: rest ∧ c.current = c.normalize t := by
  rw [current_eq ready] at source ⊢
  rw [isSource_normalize] at source
  cases ahead : c.ahead with
  | nil =>
    have eof : c.rawCurrent = c.eof := by simp [rawCurrent, ahead]
    rw [eof] at source
    have notEof := Token.not_isEof_of_isSource source
    rw [ready.eof] at notEof
    cases notEof
  | cons t rest => exact ⟨t, rest, rfl, by simp [rawCurrent, ahead]⟩

theorem advance_eq {t : Token} {rest : List Token} (ready : c.Ready) (ahead : c.ahead = t :: rest) :
    c.advance = { c with ahead := rest, recordings := c.recordings.map (· ++ [t]) } := by
  simp [advance, advance?, skip, ready.fault, ahead]

theorem reads_advance (ready : c.Ready) (source : c.current.isSource = true) :
    c.Reads [.token c.current] c.advance := by
  obtain ⟨t, rest, ahead, current⟩ := exists_cons_of_isSource ready source
  have tokens : Tree.tokensOf [.token c.current] = [c.current] := by
    simp [Tree.tokens_token source]
  rw [advance_eq ready ahead]
  refine ⟨⟨[t], ⟨ahead, rfl, rfl, rfl⟩, ?_⟩, ?_, ready.fault, ready.eof⟩
  · rw [tokens, current]
    exact .cons (readAs_normalize c t) .nil
  · rw [tokens]
    intro u member
    rw [List.mem_singleton.mp member]
    exact source

end Cursor

/-! ### Inversion of runs -/

namespace Parser

theorem bind_ok {p : Parser α} {f : α → Parser β} {c d : Cursor} {b : β} (h : (p >>= f) c = .ok b d) :
    ∃ a e, p c = .ok a e ∧ f a e = .ok b d := by
  cases run : p c with
  | ok a e =>
    refine ⟨a, e, rfl, ?_⟩
    simpa [Bind.bind, EStateM.bind, run] using h
  | error x e => simp [Bind.bind, EStateM.bind, run] at h

theorem pure_ok {a b : α} {c d : Cursor} (h : (pure a : Parser α) c = .ok b d) : a = b ∧ c = d := by
  cases h
  exact ⟨rfl, rfl⟩

theorem throw_ok {e : Failure} {a : α} {c d : Cursor} : ¬ (throw e : Parser α) c = .ok a d := by
  intro h
  cases h

theorem fail_ok {f : Fault} {a : α} {c d : Cursor} : ¬ (fail f : Parser α) c = .ok a d := by
  intro h
  cases h

theorem failExpected_ok {what : String} {a : α} {c d : Cursor} :
    ¬ (failExpected what : Parser α) c = .ok a d := by
  intro h
  cases h

theorem failAtError_ok {a : α} {c d : Cursor} : ¬ (failAtError : Parser α) c = .ok a d := by
  intro h
  unfold failAtError at h
  obtain ⟨s, e, _, h⟩ := bind_ok h
  cases fault : s.fault with
  | some x =>
    rw [fault] at h
    exact throw_ok h
  | none =>
    rw [fault] at h
    obtain ⟨_, _, _, h⟩ := bind_ok h
    exact fail_ok h

/-- A token that is eaten is the current one. -/
theorem eat_ok {p : Token → Bool} {found : Option Token} {c d : Cursor} (h : eat p c = .ok found d) :
    (found = some c.current ∧ p c.current = true ∧ d = c.advance)
      ∨ (found = none ∧ d = c ∧ (c.fault = none → p c.current = false)) := by
  have run : (found, d) = c.expect p "" false := by
    cases h
    rfl
  unfold Cursor.expect at run
  split at run
  · next accepted =>
    cases run
    rw [Bool.and_eq_true] at accepted
    exact .inl ⟨rfl, accepted.2, rfl⟩
  · next refused =>
    cases run
    refine .inr ⟨rfl, rfl, fun fault => ?_⟩
    simpa [fault] using refused

/-- A token that was required is the current one. -/
theorem require_ok {p : Token → Bool} {what : String} {t : Token} {c d : Cursor}
    (h : require p what c = .ok t d) : t = c.current ∧ p c.current = true ∧ d = c.advance := by
  unfold require Cursor.expect at h
  split at h
  · next accepted =>
    split at accepted
    · next held =>
      cases accepted
      cases h
      rw [Bool.and_eq_true] at held
      exact ⟨rfl, held.2, rfl⟩
    · cases accepted
  · cases h

@[simp]
theorem get_bind (f : Cursor → Parser α) (c : Cursor) : (get >>= f) c = f c c := rfl

@[simp]
theorem modify_bind (f : Cursor → Cursor) (k : PUnit → Parser α) (c : Cursor) :
    (modify f >>= k) c = k ⟨⟩ (f c) := rfl

@[simp]
theorem take_bind (k : Token → Parser α) (c : Cursor) :
    (take >>= k) c = k c.current c.advance := rfl

@[simp]
theorem current_bind (f : Token → Parser α) (c : Cursor) : (current >>= f) c = f c.current c := rfl

@[simp]
theorem rawCurrent_bind (f : Token → Parser α) (c : Cursor) :
    (rawCurrent >>= f) c = f c.rawCurrent c := rfl

@[simp]
theorem lookahead_bind (f : Token → Parser α) (c : Cursor) :
    (lookahead >>= f) c = f c.lookahead c := rfl

@[simp]
theorem atKind_bind (k : TokenKind) (f : Bool → Parser α) (c : Cursor) :
    (atKind k >>= f) c = f (c.current.kind == k) c := rfl

@[simp]
theorem atKeyword_bind (k : Keyword) (f : Bool → Parser α) (c : Cursor) :
    (atKeyword k >>= f) c = f (c.current.isKeyword k) c := rfl

@[simp]
theorem atKeywords_bind (k l : Keyword) (f : Bool → Parser α) (c : Cursor) :
    (atKeywords k l >>= f) c = f (c.current.isKeyword k && c.lookahead.isKeyword l) c := rfl

@[simp]
theorem atEnd_bind (f : Bool → Parser α) (c : Cursor) : (atEnd >>= f) c = f c.current.isEof c := rfl

@[simp]
theorem pure_bind' (a : α) (f : α → Parser β) (c : Cursor) : (pure a >>= f) c = f a c := rfl

theorem bind_of_ok {p : Parser α} {c d : Cursor} {a : α} (k : α → Parser β) (h : p c = .ok a d) :
    (p >>= k) c = k a d := by
  simp [Bind.bind, EStateM.bind, h]

theorem bind_of_error {p : Parser α} {c d : Cursor} {e : Failure} (k : α → Parser β)
    (h : p c = .error e d) : (p >>= k) c = .error e d := by
  simp [Bind.bind, EStateM.bind, h]

theorem eat_of_refused {p : Token → Bool} {c : Cursor} (refused : p c.current = false) :
    eat p c = .ok none c := by
  change EStateM.Result.ok (c.expect p "" false).1 (c.expect p "" false).2 = _
  simp [Cursor.expect, refused]

end Parser

end TransactSql
