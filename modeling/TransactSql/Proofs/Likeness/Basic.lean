import Mathlib.Data.List.Forall2
import TransactSql.Statement.Tree
import TransactSql.Token.Precedence

/-!
# What the grammar sees of tokens

A correspondence pairs tokens that the grammar cannot tell apart: their kinds agree, but for the
message of an error. It carries over to lists, options, pairs and trees of tokens, and what is
asked of related values has the same answer. `Related` is a class so that what is made of related
parts is related by inference.
-/

namespace TransactSql

/-- The kind without the message of an error. -/
def TokenKind.silent : TokenKind → TokenKind
  | .error _ => .error ""
  | k => k

/-- Kinds that differ at most in the message of an error. -/
theorem TokenKind.eq_or_error {k l : TokenKind} (h : k.silent = l.silent) :
    k = l ∨ ∃ m n, k = .error m ∧ l = .error n := by
  cases k <;> cases l <;> simp_all [silent]

/-- Tokens and spans of two inputs that stand for one another. -/
structure Correspondence where
  tokens : Token → Token → Prop
  spans : Span → Span → Prop
  kind : ∀ {t u : Token}, tokens t u → t.kind.silent = u.kind.silent
  assignment : ∀ {t u : Token}, tokens t u → tokens t.asAssignment u.asAssignment
  placeholder : tokens .placeholder .placeholder

/-- The same nodes, with related tokens in the same slots. -/
inductive Tree.Alike (R : Token → Token → Prop) : Tree → Tree → Prop
  | token {t u : Token} : R t u → Alike R (.token t) (.token u)
  | node {k : NodeKind} {slots slots' : List Tree} :
    List.Forall₂ (Alike R) slots slots' → Alike R (.node k slots) (.node k slots')

theorem Tree.alike_node {R : Token → Token → Prop} {k k' : NodeKind} {slots slots' : List Tree}
    (h : Alike R (.node k slots) (.node k' slots')) :
    k = k' ∧ List.Forall₂ (Alike R) slots slots' := by
  cases h with
  | node alike => exact ⟨rfl, alike⟩

/-- Types whose values have tokens in them. -/
class Relatable (α : Type) where
  rel : Correspondence → α → α → Prop

/-- The values differ in tokens at most, and these correspond. -/
class Related (R : Correspondence) [Relatable α] (a b : α) : Prop where
  rel : Relatable.rel R a b

variable {R : Correspondence}

instance : Relatable Token := ⟨fun R => R.tokens⟩

instance : Relatable Tree := ⟨fun R => Tree.Alike R.tokens⟩

instance : Relatable Bool := ⟨fun _ => Eq⟩

instance : Relatable Unit := ⟨fun _ => Eq⟩

instance : Relatable Precedence := ⟨fun _ => Eq⟩

instance [Relatable α] : Relatable (Option α) := ⟨fun R => Option.Rel (Relatable.rel R)⟩

instance [Relatable α] : Relatable (List α) := ⟨fun R => List.Forall₂ (Relatable.rel R)⟩

instance [Relatable α] [Relatable β] : Relatable (α × β) :=
  ⟨fun R x y => Relatable.rel R x.1 y.1 ∧ Relatable.rel R x.2 y.2⟩

theorem Bool.eq_of_related {b c : Bool} (h : Related R b c) : b = c := h.rel

/-! ### Data -/

section Data

variable [Relatable α] [Relatable β]

instance (b : Bool) : Related R b b := ⟨rfl⟩

instance (u v : Unit) : Related R u v := ⟨rfl⟩

instance {b c : Bool} [h : Related R b c] : Related R (!b) (!c) := ⟨congrArg _ h.rel⟩

instance {b c b' c' : Bool} [h : Related R b c] [h' : Related R b' c'] :
    Related R (b && b') (c && c') := ⟨congrArg₂ _ h.rel h'.rel⟩

instance {b c b' c' : Bool} [h : Related R b c] [h' : Related R b' c'] :
    Related R (b || b') (c || c') := ⟨congrArg₂ _ h.rel h'.rel⟩

theorem Related.ite {p q : Prop} [Decidable p] [Decidable q] {x x' y y' : α} (same : p ↔ q)
    (first : Related R x x') (second : Related R y y') :
    Related R (if p then x else y) (if q then x' else y') := by
  by_cases hq : q
  · rw [if_pos hq, if_pos (same.mpr hq)]
    exact first
  · rw [if_neg hq, if_neg (mt same.mp hq)]
    exact second

theorem Related.cond {b c : Bool} {x x' y y' : α} [Decidable (b = true)] [Decidable (c = true)]
    (h : Related R b c) (first : Related R x x') (second : Related R y y') :
    Related R (if b = true then x else y) (if c = true then x' else y') :=
  .ite (by rw [Bool.eq_of_related h]) first second

instance {b c : Bool} {x x' y y' : α} [Decidable (b = true)] [Decidable (c = true)]
    [h : Related R b c] [first : Related R x x'] [second : Related R y y'] :
    Related R (if b = true then x else y) (if c = true then x' else y') := h.cond first second

instance : Related R (none : Option α) none := ⟨.none⟩

instance {a b : α} [h : Related R a b] : Related R (some a) (some b) := ⟨.some h.rel⟩

instance {a c : α} {b d : β} [h : Related R a c] [h' : Related R b d] :
    Related R (a, b) (c, d) := ⟨h.rel, h'.rel⟩

theorem Related.pair {x y : α × β} (h : Related R x y) :
    ∃ a b c d, x = (a, b) ∧ y = (c, d) ∧ Related R a c ∧ Related R b d :=
  ⟨_, _, _, _, rfl, rfl, ⟨h.rel.1⟩, ⟨h.rel.2⟩⟩

instance {x y : α × β} [h : Related R x y] : Related R x.1 y.1 := ⟨h.rel.1⟩

instance {x y : α × β} [h : Related R x y] : Related R x.2 y.2 := ⟨h.rel.2⟩

theorem Related.option {x y : Option α} (h : Related R x y) :
    (x = none ∧ y = none) ∨ ∃ a b, x = some a ∧ y = some b ∧ Related R a b := by
  have related := h.rel
  cases related with
  | none => exact .inl ⟨rfl, rfl⟩
  | some inner => exact .inr ⟨_, _, rfl, rfl, ⟨inner⟩⟩

instance {x y : Option α} [h : Related R x y] : Related R x.isNone y.isNone := by
  obtain ⟨rfl, rfl⟩ | ⟨a, b, rfl, rfl, _⟩ := h.option <;> exact ⟨rfl⟩

instance {x y : Option α} [h : Related R x y] : Related R x.isSome y.isSome := by
  obtain ⟨rfl, rfl⟩ | ⟨a, b, rfl, rfl, _⟩ := h.option <;> exact ⟨rfl⟩

instance {x y : Option α} {a b : α} [h : Related R x y] [Related R a b] :
    Related R (x.getD a) (y.getD b) := by
  obtain ⟨rfl, rfl⟩ | ⟨c, d, rfl, rfl, _⟩ := h.option
  · assumption
  · assumption

theorem Related.any {x y : Option α} (h : Related R x y) {p q : α → Bool}
    (same : ∀ a b, Related R a b → Related R (p a) (q b)) : Related R (x.any p) (y.any q) := by
  obtain ⟨rfl, rfl⟩ | ⟨a, b, rfl, rfl, inner⟩ := h.option
  · exact ⟨rfl⟩
  · exact same a b inner

theorem Related.all {x y : Option α} (h : Related R x y) {p q : α → Bool}
    (same : ∀ a b, Related R a b → Related R (p a) (q b)) : Related R (x.all p) (y.all q) := by
  obtain ⟨rfl, rfl⟩ | ⟨a, b, rfl, rfl, inner⟩ := h.option
  · exact ⟨rfl⟩
  · exact same a b inner

theorem Related.optionMap {x y : Option α} (h : Related R x y) {f g : α → β}
    (same : ∀ a b, Related R a b → Related R (f a) (g b)) : Related R (x.map f) (y.map g) := by
  obtain ⟨rfl, rfl⟩ | ⟨a, b, rfl, rfl, inner⟩ := h.option
  · exact ⟨.none⟩
  · exact ⟨.some (same a b inner).rel⟩

/-! ### Lists -/

instance : Related R ([] : List α) [] := ⟨.nil⟩

instance {a b : α} {as bs : List α} [h : Related R a b] [t : Related R as bs] :
    Related R (a :: as) (b :: bs) := ⟨.cons h.rel t.rel⟩

theorem Related.list {as bs : List α} (h : Related R as bs) :
    (as = [] ∧ bs = []) ∨
      ∃ a as' b bs', as = a :: as' ∧ bs = b :: bs' ∧ Related R a b ∧ Related R as' bs' := by
  have related := h.rel
  cases related with
  | nil => exact .inl ⟨rfl, rfl⟩
  | cons first rest => exact .inr ⟨_, _, _, _, rfl, rfl, ⟨first⟩, ⟨rest⟩⟩

instance {as bs as' bs' : List α} [h : Related R as bs] [t : Related R as' bs'] :
    Related R (as ++ as') (bs ++ bs') := ⟨List.rel_append h.rel t.rel⟩

instance {as bs : List α} [h : Related R as bs] (n : Nat) : Related R (as.take n) (bs.take n) :=
  ⟨List.forall₂_take n h.rel⟩

instance {as bs : List α} [h : Related R as bs] (n : Nat) : Related R (as.drop n) (bs.drop n) :=
  ⟨List.forall₂_drop n h.rel⟩

theorem Related.length_eq {as bs : List α} (h : Related R as bs) : as.length = bs.length :=
  List.Forall₂.length_eq h.rel

instance {as bs : List α} [h : Related R as bs] : Related R as.isEmpty bs.isEmpty := by
  obtain ⟨rfl, rfl⟩ | ⟨a, as', b, bs', rfl, rfl, _, _⟩ := h.list <;> exact ⟨rfl⟩

instance {as bs : List α} [h : Related R as bs] : Related R as.head? bs.head? := by
  obtain ⟨rfl, rfl⟩ | ⟨a, as', b, bs', rfl, rfl, _, _⟩ := h.list <;>
    dsimp only [List.head?] <;> infer_instance

instance {as bs : List α} [h : Related R as bs] : Related R as.tail bs.tail := by
  obtain ⟨rfl, rfl⟩ | ⟨a, as', b, bs', rfl, rfl, _, _⟩ := h.list <;>
    dsimp only [List.tail] <;> infer_instance

instance {as bs : List α} [h : Related R as bs] : Related R as.reverse bs.reverse :=
  ⟨List.rel_reverse h.rel⟩

instance {as bs : List α} [Related R as bs] : Related R as.getLast? bs.getLast? := by
  rw [List.getLast?_eq_head?_reverse, List.getLast?_eq_head?_reverse]
  infer_instance

instance {as bs : List α} [Related R as bs] : Related R as.dropLast bs.dropLast := by
  rw [← List.reverse_reverse as, ← List.reverse_reverse bs, List.dropLast_reverse,
    List.dropLast_reverse]
  infer_instance

instance {x y : Option α} [h : Related R x y] : Related R x.toList y.toList := by
  obtain ⟨rfl, rfl⟩ | ⟨a, b, rfl, rfl, _⟩ := h.option <;>
    dsimp only [Option.toList] <;> infer_instance

theorem Related.length_takeWhile {as bs : List α} (h : Related R as bs) {p q : α → Bool}
    (same : ∀ a b, Related R a b → Related R (p a) (q b)) :
    (as.takeWhile p).length = (bs.takeWhile q).length := by
  have related := h.rel
  clear h
  induction related with
  | nil => rfl
  | cons first _ rest =>
    rw [List.takeWhile_cons, List.takeWhile_cons, Bool.eq_of_related (same _ _ ⟨first⟩)]
    split
    · exact congrArg (· + 1) rest
    · rfl

theorem Related.map {as bs : List α} (h : Related R as bs) {f g : α → β}
    (same : ∀ a b, Related R a b → Related R (f a) (g b)) : Related R (as.map f) (bs.map g) := by
  have related := h.rel
  refine ⟨List.rel_map (R := Relatable.rel R) ?_ related⟩
  exact fun a b rel => (same a b ⟨rel⟩).rel

end Data

/-! ### Tokens -/

namespace Token

/-- What depends on the kind and not on the message of an error. -/
theorem same_of_related {t u : Token} (h : Related R t u) {f : TokenKind → α}
    (quiet : ∀ m, f (.error m) = f (.error "")) : f t.kind = f u.kind := by
  have silent : ∀ k, f k.silent = f k := by
    intro k
    cases k with
    | error m => exact (quiet m).symm
    | _ => rfl
  have kinds := R.kind h.rel
  rw [← silent t.kind, kinds, silent]

theorem keyword?_of_related {t u : Token} (h : Related R t u) : t.keyword? = u.keyword? :=
  same_of_related (f := TokenKind.keyword?) h fun _ => rfl

theorem kind_of_related {t u : Token} (h : Related R t u) :
    t.kind = u.kind ∨ ∃ m n, t.kind = .error m ∧ u.kind = .error n :=
  TokenKind.eq_or_error (R.kind h.rel)

variable {t u : Token} [h : Related R t u]

instance (k : Keyword) : Related R (t.isKeyword k) (u.isKeyword k) :=
  ⟨same_of_related (f := fun x => x.keyword? == some k) h fun _ => rfl⟩

instance (ks : List Keyword) : Related R (t.isAnyKeyword ks) (u.isAnyKeyword ks) :=
  ⟨same_of_related (f := fun x => x.keyword?.any ks.contains) h fun _ => rfl⟩

instance : Related R t.isWord u.isWord := ⟨same_of_related h fun _ => rfl⟩

instance : Related R t.kind.isLiteral u.kind.isLiteral := ⟨same_of_related h fun _ => rfl⟩

instance : Related R t.kind.isArithmetic u.kind.isArithmetic := ⟨same_of_related h fun _ => rfl⟩

instance : Related R t.kind.isComparison u.kind.isComparison := ⟨same_of_related h fun _ => rfl⟩

instance : Related R t.kind.isAssignment u.kind.isAssignment := ⟨same_of_related h fun _ => rfl⟩

instance : Related R t.isError u.isError := ⟨same_of_related h fun _ => rfl⟩

instance : Related R t.precedence u.precedence := ⟨same_of_related h fun _ => rfl⟩

instance : Related R t.isReserved u.isReserved := by
  unfold isReserved hasFlag
  exact ⟨same_of_related (f := fun x => match x with | .word w => w.isReserved | _ => false) h
    fun _ => rfl⟩

instance : Related R t.isVariable u.isVariable := by
  unfold isVariable hasFlag
  exact ⟨same_of_related (f := fun x => match x with | .word w => w.isVariable | _ => false) h
    fun _ => rfl⟩

instance : Related R t.isPlainIdentifier u.isPlainIdentifier := by
  unfold isPlainIdentifier; infer_instance

instance : Related R t.startsExpression u.startsExpression := by
  obtain same | ⟨m, n, ht, hu⟩ := kind_of_related h
  · unfold startsExpression
    rw [same]
    exact ⟨rfl⟩
  · unfold startsExpression
    rw [ht, hu]
    exact ⟨rfl⟩

instance : Related R t.asAssignment u.asAssignment := ⟨R.assignment h.rel⟩

instance : Related R placeholder placeholder := ⟨R.placeholder⟩

end Token

/-- The kind is not that of an error. -/
class TokenKind.Quiet (k : TokenKind) : Prop where
  isError : k.isError = false

namespace TokenKind

instance : Quiet .leftParen := ⟨rfl⟩

instance : Quiet .rightParen := ⟨rfl⟩

instance : Quiet .comma := ⟨rfl⟩

instance : Quiet .semicolon := ⟨rfl⟩

instance : Quiet .dot := ⟨rfl⟩

instance : Quiet .colon := ⟨rfl⟩

instance : Quiet .tilde := ⟨rfl⟩

instance : Quiet .placeholder := ⟨rfl⟩

instance : Quiet .eof := ⟨rfl⟩

instance (form : LiteralForm) : Quiet (.literal form) := ⟨rfl⟩

instance (op : Arithmetic) : Quiet (.arithmetic op) := ⟨rfl⟩

instance (op : Comparison) : Quiet (.comparison op) := ⟨rfl⟩

instance (compound : Option Arithmetic) : Quiet (.assignment compound) := ⟨rfl⟩

theorem error_ne (k : TokenKind) [quiet : Quiet k] (m : String) : TokenKind.error m ≠ k := by
  rintro rfl
  cases quiet.isError

end TokenKind

namespace Token

variable {t u : Token} [h : Related R t u]

instance (k : TokenKind) [k.Quiet] : Related R (t.kind == k) (u.kind == k) := by
  refine ⟨same_of_related (f := (· == k)) h fun m => ?_⟩
  simp [k.error_ne]

omit h in
theorem kind_eq_iff (h : Related R t u) (k : TokenKind) [k.Quiet] : t.kind = k ↔ u.kind = k := by
  have same : (t.kind == k) = (u.kind == k) := Bool.eq_of_related (R := R) inferInstance
  rw [← beq_iff_eq, same, beq_iff_eq]

instance (k : TokenKind) [k.Quiet] : Related R (t.kind != k) (u.kind != k) := by
  unfold bne; infer_instance

instance : Related R t.isEof u.isEof := by unfold isEof; infer_instance

instance : Related R t.isPlaceholder u.isPlaceholder := by unfold isPlaceholder; infer_instance

end Token

/-! ### Trees -/

namespace Tree

variable {t u : Token}

instance [h : Related R t u] : Related R (Tree.token t) (Tree.token u) := ⟨.token h.rel⟩

instance {k : NodeKind} {slots slots' : List Tree} [h : Related R slots slots'] :
    Related R (Tree.node k slots) (Tree.node k slots') := ⟨.node h.rel⟩

instance {ts us : List Token} [Related R ts us] : Related R (tokenSlots ts) (tokenSlots us) :=
  Related.map inferInstance fun _ _ _ => inferInstance

instance {x y : Option Token} [h : Related R x y] : Related R (optionalToken x) (optionalToken y) := by
  obtain ⟨rfl, rfl⟩ | ⟨t, u, rfl, rfl, _⟩ := h.option
  · exact ⟨.nil⟩
  · show Related R [Tree.token t] [Tree.token u]
    infer_instance

instance {x y : Token × Token} [Related R x y] : Related R (tokenPair x) (tokenPair y) := by
  unfold tokenPair; infer_instance

theorem related_interleave : ∀ {items items' : List Tree} {ss ss' : List Token},
    Related R items items' → Related R ss ss' →
    Related R (interleave items ss) (interleave items' ss')
  | [], _, _, _, h, _ => by
    obtain ⟨_, rfl⟩ | ⟨_, _, _, _, impossible, _⟩ := h.list
    · exact ⟨.nil⟩
    · cases impossible
  | [item], _, _, _, h, _ => by
    have related := h.rel
    cases related with
    | cons first rest =>
      cases rest
      exact ⟨.cons first .nil⟩
  | item :: next :: items, _, ss, _, h, h' => by
    have related := h.rel
    cases related with
    | cons first rest =>
      cases rest with
      | cons second rest =>
        obtain ⟨rfl, rfl⟩ | ⟨s, ss, s', ss', rfl, rfl, sep, seps⟩ := h'.list
        · exact ⟨.cons first (.cons second rest)⟩
        · have inner := related_interleave ⟨.cons second rest⟩ seps
          exact ⟨.cons first (.cons (.token sep.rel) inner.rel)⟩

/-- Related slots of tokens hold related tokens. -/
theorem tokens_of_slots {ts us : List Token} (h : Related R (tokenSlots ts) (tokenSlots us)) :
    Related R ts us := by
  have alike : List.Forall₂ (Alike R.tokens) (ts.map .token) (us.map .token) := h.rel
  rw [List.forall₂_map_left_iff, List.forall₂_map_right_iff] at alike
  refine ⟨alike.imp fun t u slot => ?_⟩
  cases slot with
  | token related => exact related

instance {items items' : List Tree} {ss ss' : List Token} [h : Related R items items']
    [h' : Related R ss ss'] : Related R (interleave items ss) (interleave items' ss') :=
  related_interleave h h'

end Tree

end TransactSql
