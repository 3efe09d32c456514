import TransactSql.Proofs.Binding.Arrival
import TransactSql.Session

/-!
# Bound expressions are read back

Written as its tokens, a bound scalar expression is read as itself. What the powers do not decide is
which of two `LIKE`s an `ESCAPE` belongs to; the grammar gives it to the nearer one.
-/

namespace TransactSql

namespace Expr

theorem Everywhere.and {P Q : Expr → Prop} {e : Expr} (h : e.Everywhere P) (h' : e.Everywhere Q) :
    e.Everywhere fun x => P x ∧ Q x := by
  induction h with
  | @intro e here below ih => exact .intro ⟨here, h'.here⟩ fun x member => ih x member (h'.child x member)

theorem length_pos_of_scalar {e : Expr} (scalar : e.Everywhere IsScalar) : 0 < e.tree.tokens.length := by
  obtain ⟨t, ts, starts, _⟩ := starts_of_scalar scalar
  rw [starts]
  exact Nat.succ_pos _

theorem length_le_itemTokens {items : List Expr} {separators : List Token} {x : Expr}
    (paired : separators.length = items.length) (member : x ∈ items) :
    x.tree.tokens.length < (itemTokens separators items).length := by
  induction separators generalizing items with
  | nil =>
    obtain rfl := List.length_eq_zero_iff.mp paired.symm
    cases member
  | cons s separators ih =>
    cases items with
    | nil => cases paired
    | cons y items =>
      simp only [itemTokens, List.cons_append, List.length_cons, List.length_append]
      rcases List.mem_cons.mp member with rfl | later
      · omega
      · have shorter := ih (Nat.succ.inj paired) later
        omega

end Expr

namespace Grammar

open TransactSql.Parser

/-- The depth that the tokens of an expression need is their number. -/
theorem arrives_of_readable {e : Expr} (readable : e.Everywhere Expr.Readable) {depth : Nat}
    (deep : e.tree.tokens.length ≤ depth + 1) : Arrives (Parser.expr depth) e := by
  induction readable generalizing depth with
  | @intro e here below ih =>
    have scalar : ∀ x ∈ e.children, x.Everywhere Expr.IsScalar := fun x member =>
      (below x member).mono fun _ readable => readable.scalar
    have recovers : ∀ x ∈ e.children, x.tree.tokens.length ≤ depth →
        Recovers (Parser.expr depth) x := by
      intro x member enough
      cases depth with
      | zero =>
        have some := Expr.length_pos_of_scalar (scalar x member)
        omega
      | succ depth => exact (ih x member enough).recovers
    rw [Expr.tokens_eq_layout here.scalar] at deep
    -- The left operand is read by the same loop, so `ih` serves at the same depth. All other parts
    -- are read one level deeper, and at least one token stands before each of them.
    cases e with
    | literal t => exact literal_arrives here
    | name n => exact name_arrives here
    | unary op e =>
      simp only [Expr.layout, List.length_cons] at deep
      exact unary_arrives here (recovers e (by simp [Expr.children]) (by omega))
    | binary l op r =>
      simp only [Expr.layout, List.length_append, List.length_cons] at deep
      exact binary_arrives here (ih l (by simp [Expr.children]) (by omega))
        (recovers r (by simp [Expr.children]) (by omega))
    | isNull e isToken not null =>
      simp only [Expr.layout, List.length_append, List.length_cons] at deep
      exact isNull_arrives here (ih e (by simp [Expr.children]) (by omega))
    | like e not keyword pattern escape =>
      cases escape with
      | absent =>
        simp only [Expr.layout, List.length_append, List.length_cons] at deep
        exact like_arrives here (ih e (by simp [Expr.children]) (by omega))
          (recovers pattern (by simp [Expr.children]) (by omega)) (by simp [Tail.value?])
      | present escape value =>
        simp only [Expr.layout, List.length_append, List.length_cons] at deep
        refine like_arrives here (ih e (by simp [Expr.children]) (by omega))
          (recovers pattern (by simp [Expr.children]) (by omega)) ?_
        rintro x ⟨⟩
        exact recovers value (by simp [Expr.children, Tail.value?]) (by omega)
    | between e not keyword low and high =>
      simp only [Expr.layout, List.length_append, List.length_cons] at deep
      have bound : low.Everywhere Expr.Bound :=
        (below low (by simp [Expr.children])).mono fun _ readable => readable.bound
      exact between_arrives here bound (ih e (by simp [Expr.children]) (by omega))
        (recovers low (by simp [Expr.children]) (by omega))
        (recovers high (by simp [Expr.children]) (by omega))
    | isIn e not keyword lparen values rparen =>
      simp only [Expr.layout, List.length_append, List.length_cons] at deep
      exact isIn_arrives here (scalar values (by simp [Expr.children]))
        (ih e (by simp [Expr.children]) (by omega))
        (recovers values (by simp [Expr.children]) (by omega))
    | paren lparen e rparen =>
      simp only [Expr.layout, List.length_append, List.length_cons] at deep
      exact paren_arrives here (scalar e (by simp [Expr.children]))
        (recovers e (by simp [Expr.children]) (by omega))
    | call callee lparen args rparen =>
      have callee' := (below callee (by simp [Expr.children])).here.scalar
      cases args with
      | none =>
        simp only [Expr.layout, List.length_append, List.length_cons] at deep
        exact call_arrives here callee' (ih callee (by simp [Expr.children]) (by omega)) (by simp)
      | some args =>
        simp only [Expr.layout, List.length_append, List.length_cons] at deep
        refine call_arrives here callee' (ih callee (by simp [Expr.children]) (by omega)) ?_
        rintro x ⟨⟩
        exact ⟨scalar args (by simp [Expr.children]), recovers args (by simp [Expr.children]) (by omega)⟩
    | collate e keyword collation =>
      simp only [Expr.layout, List.length_append, List.length_cons] at deep
      exact collate_arrives here (ih e (by simp [Expr.children]) (by omega))
    | list items separators =>
      obtain ⟨_, _, _, paired, _⟩ := Expr.list_slots here.scalar
      cases items with
      | nil => cases paired
      | cons first items =>
        simp only [Expr.layout, List.length_append] at deep
        refine list_arrives here ?_ ?_ ?_
        · exact fun x member => (below x member).mono fun _ readable => readable.sound
        · rintro x ⟨⟩
          exact ih first (by simp [Expr.children]) (by omega)
        · intro x member
          have shorter := Expr.length_le_itemTokens (Nat.succ.inj paired) member
          exact recovers x (List.mem_cons_of_mem first member) (by omega)
    | _ => cases here.scalar

end Grammar

/-- A bound scalar expression is read back from its tokens, to the last one, if every `ESCAPE`
stands at the nearest `LIKE`. -/
theorem Session.run_reads_back {e : Expr} {depth : Nat} (scalar : e.Everywhere Expr.IsScalar)
    (bound : e.Everywhere Expr.Bound) (nearest : e.Everywhere Expr.EscapesNearest)
    (deep : e.tree.tokens.length < depth) :
    Session.run depth [.expr .none, .expectEnd] (.ofTokens e.tree.tokens)
      = [.ok (.expr e), .ok .finished] := by
  have readable : e.Everywhere Expr.Readable :=
    (scalar.and (bound.and nearest)).mono fun _ both => ⟨both.1, both.2.1, both.2.2⟩
  obtain ⟨d, passes, ended⟩ := Cursor.passes_ofTokens (Expr.isSource_of_scalar scalar)
  have eof : d.current.kind = .eof := eq_of_beq ended
  have read : Parser.expr depth .none (.ofTokens e.tree.tokens) = .ok e d := by
    cases depth with
    | zero => cases deep
    | succ depth =>
      have recovers := (Grammar.arrives_of_readable readable (Nat.le_of_lt deep)).recovers
      refine recovers (Expr.above_none scalar) passes ?_ ?_
      · exact Grammar.follows_of_kind eof rfl (by decide) (by decide)
      · rw [Token.precedence_eq eof]
        exact Precedence.none_le _
  have first : (Session.Step.expr .none).parser depth (.ofTokens e.tree.tokens) = .ok (.expr e) d :=
    Parser.bind_of_ok _ read
  have second : Session.Step.expectEnd.parser depth d = .ok .finished d := by
    unfold Session.Step.parser Parser.expectEnd
    simp [ended]
    rfl
  unfold Session.run
  rw [first]
  simp only
  unfold Session.run
  rw [second]
  rfl

/-! ### Two readings of an `ESCAPE` -/

namespace Expr

def singleWord (text : String) : Expr := .name ⟨[.word text .zero]⟩

/-- `b LIKE c`, with what follows. -/
def innerLike (tail : Tail) : Expr :=
  .like (singleWord "b") none (.word "LIKE" .zero) (singleWord "c") tail

/-- `a LIKE NOT b LIKE c`, with what follows each `LIKE`. -/
def twoLikes (outer inner : Tail) : Expr :=
  .like (singleWord "a") none (.word "LIKE" .zero) (.unary (.word "NOT" .zero) (innerLike inner)) outer

/-- `ESCAPE d`. -/
def escapeTail : Tail := .present (.word "ESCAPE" .zero) (singleWord "d")

theorem everywhere_twoLikes {P : Expr → Prop} {outer inner : Tail}
    (words : ∀ text ∈ ["a", "b", "c", "d"], P (singleWord text))
    (tails : ∀ tail ∈ [outer, inner], ∀ x ∈ tail.value?, x = singleWord "d")
    (second : P (innerLike inner)) (negated : P (.unary (.word "NOT" .zero) (innerLike inner)))
    (first : P (twoLikes outer inner)) : (twoLikes outer inner).Everywhere P := by
  have word : ∀ text ∈ ["a", "b", "c", "d"], (singleWord text).Everywhere P := fun text member =>
    .intro (words text member) (by simp [singleWord, children])
  have escape : ∀ tail ∈ [outer, inner], ∀ x ∈ tail.value?, x.Everywhere P := by
    intro tail given x member
    rw [tails tail given x member]
    exact word "d" (by simp)
  have inside : (innerLike inner).Everywhere P := by
    refine .intro second ?_
    simpa [innerLike, children] using
      ⟨word "b" (by simp), word "c" (by simp), escape inner (by simp)⟩
  have below : (Expr.unary (.word "NOT" .zero) (innerLike inner)).Everywhere P :=
    .intro negated (by simpa [children] using inside)
  refine .intro first ?_
  simpa [twoLikes, children] using ⟨word "a" (by simp), below, escape outer (by simp)⟩

end Expr

def Session.Reply.isUnescaped : Session.Reply → Bool
  | .expr e => e.isUnescaped
  | _ => false

/-- The powers alone do not decide: the `ESCAPE` that the first `LIKE` has in the expression, the
second one has in what is read. -/
theorem Session.run_moves_escape :
    (Expr.twoLikes Expr.escapeTail .absent).Everywhere Expr.IsScalar ∧
      (Expr.twoLikes Expr.escapeTail .absent).Everywhere Expr.Bound ∧
      (Expr.twoLikes Expr.escapeTail .absent).tree.tokens.length < 9 ∧
      Session.run 9 [.expr .none, .expectEnd]
          (.ofTokens (Expr.twoLikes Expr.escapeTail .absent).tree.tokens)
        ≠ [.ok (.expr (Expr.twoLikes Expr.escapeTail .absent)), .ok .finished] := by
  refine ⟨?_, ?_, by decide +kernel, ?_⟩
  · exact Expr.everywhere_twoLikes (by decide +kernel) (by simp [Expr.escapeTail, Tail.value?])
      (by decide +kernel) (by decide +kernel) (by decide +kernel)
  · exact Expr.everywhere_twoLikes (by decide +kernel) (by simp [Expr.escapeTail, Tail.value?])
      (by decide +kernel) (by decide +kernel) (by decide +kernel)
  · intro same
    have unescaped : (Session.run 9 [.expr .none, .expectEnd]
        (.ofTokens (Expr.twoLikes Expr.escapeTail .absent).tree.tokens)).any
          (·.toOption.any Session.Reply.isUnescaped) = true := by
      decide +kernel
    rw [same] at unescaped
    cases unescaped

/-- With the `ESCAPE` at the second `LIKE` the same tokens are read back. -/
theorem Session.run_reads_back_nearest :
    (Expr.twoLikes .absent Expr.escapeTail).tree.tokens.length < 9 ∧
      Session.run 9 [.expr .none, .expectEnd]
          (.ofTokens (Expr.twoLikes .absent Expr.escapeTail).tree.tokens)
        = [.ok (.expr (Expr.twoLikes .absent Expr.escapeTail)), .ok .finished] := by
  have scalar : (Expr.twoLikes .absent Expr.escapeTail).Everywhere Expr.IsScalar :=
    Expr.everywhere_twoLikes (by decide +kernel) (by simp [Expr.escapeTail, Tail.value?])
      (by decide +kernel) (by decide +kernel) (by decide +kernel)
  have bound : (Expr.twoLikes .absent Expr.escapeTail).Everywhere Expr.Bound :=
    Expr.everywhere_twoLikes (by decide +kernel) (by simp [Expr.escapeTail, Tail.value?])
      (by decide +kernel) (by decide +kernel) (by decide +kernel)
  have nearest : (Expr.twoLikes .absent Expr.escapeTail).Everywhere Expr.EscapesNearest :=
    Expr.everywhere_twoLikes (fun _ _ => trivial) (by simp [Expr.escapeTail, Tail.value?])
      (by simp [Expr.innerLike, Expr.escapeTail, Expr.EscapesNearest, Expr.singleWord, Expr.rightSpine,
        Expr.isUnescaped]) trivial trivial
  have deep : (Expr.twoLikes .absent Expr.escapeTail).tree.tokens.length < 9 := by decide +kernel
  exact ⟨deep, Session.run_reads_back scalar bound nearest deep⟩

end TransactSql
