import Mathlib.Data.Option.Basic
import TransactSql.Expr.Basic
import TransactSql.Token.Precedence

/-!
# How operators bind

An infix node has a power by which it takes its left operand, a node that is open to the right
one by which it takes its right operands. In a bound expression no operator on the left edge of a
right operand is as weak as the node above it, and none on the right edge of a left operand is
weaker.
-/

namespace TransactSql

namespace Precedence

theorem lt_of_le_of_lt {p q r : Precedence} (h : p ≤ q) (h' : q < r) : p < r :=
  Nat.lt_of_le_of_lt h h'

theorem le_of_lt {p q : Precedence} (h : p < q) : p ≤ q := Nat.le_of_lt h

theorem not_lt {p q : Precedence} : ¬ p < q ↔ q ≤ p := Nat.not_lt

theorem none_le (p : Precedence) : none ≤ p := Nat.zero_le _

end Precedence

namespace Expr

/-! ### Powers and operands -/

/-- The power by which an infix node takes its left operand. -/
def infixPower? : Expr → Option Precedence
  | .binary _ operator _ => some operator.precedence
  | .assignment .. => some .assignment
  | .isNull .. => some .comparison
  | .like .. | .between .. | .isIn .. => some .pattern
  | .call .. | .window .. | .collate .. => some .postfixed
  | .list .. => some .comma
  | _ => none

def leftOperand? : Expr → Option Expr
  | .binary left .. => some left
  | .assignment target .. => some target
  | .isNull e .. | .like e .. | .between e .. | .isIn e .. | .call e .. | .window e _
  | .collate e .. => some e
  | .list items _ => items.head?
  | _ => none

/-- The power by which a node takes its right operands. -/
def rightPower? : Expr → Option Precedence
  | .binary _ operator _ => some operator.precedence
  | .assignment .. => some .assignment
  | .like .. | .between .. => some .pattern
  | .list .. => some .comma
  | .unary operator _ => some (if operator.isKeyword .NOT then .not else .unary)
  | _ => none

def rightOperands : Expr → List Expr
  | .binary _ _ right => [right]
  | .assignment _ _ value => [value]
  | .like _ _ _ pattern escape => pattern :: escape.value?.toList
  | .between _ _ _ low _ high => [low, high]
  | .list items _ => items.tail
  | .unary _ e => [e]
  | _ => []

/-! ### Edges -/

mutual

/-- The expression, its left operand, and so on. -/
def leftSpine : Expr → List Expr
  | .binary l operator r => .binary l operator r :: l.leftSpine
  | .assignment l operator r => .assignment l operator r :: l.leftSpine
  | .isNull l isToken not null => .isNull l isToken not null :: l.leftSpine
  | .like l not keyword pattern escape => .like l not keyword pattern escape :: l.leftSpine
  | .between l not keyword low and high => .between l not keyword low and high :: l.leftSpine
  | .isIn l not keyword lparen values rparen =>
    .isIn l not keyword lparen values rparen :: l.leftSpine
  | .call l lparen args rparen => .call l lparen args rparen :: l.leftSpine
  | .window l overClause => .window l overClause :: l.leftSpine
  | .collate l keyword collation => .collate l keyword collation :: l.leftSpine
  | .list items separators => .list items separators :: leftSpineOf items
  | e => [e]

def leftSpineOf : List Expr → List Expr
  | [] => []
  | first :: _ => first.leftSpine

end

mutual

/-- The expression, its last right operand, and so on. -/
def rightSpine : Expr → List Expr
  | .binary l operator r => .binary l operator r :: r.rightSpine
  | .assignment l operator r => .assignment l operator r :: r.rightSpine
  | .like l not keyword pattern escape =>
    .like l not keyword pattern escape :: rightSpineOr pattern.rightSpine escape
  | .between l not keyword low and high => .between l not keyword low and high :: high.rightSpine
  | .list (first :: rest) separators => .list (first :: rest) separators :: rightSpineOf rest
  | .unary operator e => .unary operator e :: e.rightSpine
  | e => [e]

def rightSpineOr (otherwise : List Expr) : Tail → List Expr
  | .absent => otherwise
  | .present _ e => e.rightSpine

def rightSpineOf : List Expr → List Expr
  | [] => []
  | [last] => last.rightSpine
  | _ :: rest => rightSpineOf rest

end

theorem leftSpine_eq (e : Expr) : e.leftSpine = e :: (e.leftOperand?.map leftSpine).getD [] := by
  cases e with
  | list items separators => cases items <;> simp [leftSpine, leftSpineOf, leftOperand?]
  | _ => simp [leftSpine, leftOperand?]

theorem rightSpineOf_eq (items : List Expr) :
    rightSpineOf items = (items.getLast?.map rightSpine).getD [] := by
  induction items with
  | nil => simp [rightSpineOf]
  | cons first rest ih =>
    cases rest with
    | nil => simp [rightSpineOf]
    | cons next rest =>
      rw [rightSpineOf, ih, List.getLast?_cons_cons]
      simp

theorem rightSpine_eq (e : Expr) :
    e.rightSpine = e :: (e.rightOperands.getLast?.map rightSpine).getD [] := by
  cases e with
  | list items separators =>
    cases items with
    | nil => simp [rightSpine, rightOperands]
    | cons first rest => simp [rightSpine, rightOperands, rightSpineOf_eq]
  | like l not keyword pattern escape =>
    cases escape <;> simp [rightSpine, rightSpineOr, rightOperands, Tail.value?]
  | _ => simp [rightSpine, rightOperands]

/-- The infix nodes on the left edge take their operands with more than `min`. -/
def Above (min : Precedence) (e : Expr) : Prop := ∀ x ∈ e.leftSpine, ∀ p ∈ x.infixPower?, min < p

/-- The nodes on the right edge take their operands with at least `p`. -/
def Holds (p : Precedence) (e : Expr) : Prop := ∀ x ∈ e.rightSpine, ∀ q ∈ x.rightPower?, p ≤ q

/-- A node that takes its operands as the powers say. -/
structure Bound (e : Expr) : Prop where
  right : ∀ q ∈ e.rightPower?, ∀ r ∈ e.rightOperands, r.Above q
  left : ∀ p ∈ e.infixPower?, ∀ l ∈ e.leftOperand?, l.Holds p

instance (min : Precedence) (e : Expr) : Decidable (e.Above min) :=
  inferInstanceAs (Decidable (∀ x ∈ e.leftSpine, ∀ p ∈ x.infixPower?, min < p))

instance (p : Precedence) (e : Expr) : Decidable (e.Holds p) :=
  inferInstanceAs (Decidable (∀ x ∈ e.rightSpine, ∀ q ∈ x.rightPower?, p ≤ q))

instance (e : Expr) : Decidable e.Bound :=
  decidable_of_iff ((∀ q ∈ e.rightPower?, ∀ r ∈ e.rightOperands, r.Above q) ∧
      ∀ p ∈ e.infixPower?, ∀ l ∈ e.leftOperand?, l.Holds p)
    ⟨fun h => ⟨h.1, h.2⟩, fun h => ⟨h.right, h.left⟩⟩

/-! ### Sub-expressions -/

end Expr

def Clause.exprs (c : Option Clause) : List Expr := (c.map Clause.body).toList

def DataType.exprs : DataType → List Expr
  | .named _ _ args _ => args.toList
  | .table _ => []

def SelectClauses.exprs (c : SelectClauses) : List Expr :=
  Clause.exprs c.into ++ Clause.exprs c.source ++ Clause.exprs c.condition
    ++ Clause.exprs c.grouping ++ Clause.exprs c.having

def OffsetFetch.exprs (o : OffsetFetch) : List Expr :=
  o.count :: (o.fetch.map FetchClause.count).toList

namespace Expr

/-- The expressions right below an expression, in source order. -/
def children : Expr → List Expr
  | .literal _ | .name _ | .raw _ => []
  | .unary _ e | .isNull e .. | .paren _ e _ | .collate e .. | .aliased e .. | .sort e _
  | .queryOption e .. => [e]
  | .binary left _ right => [left, right]
  | .assignment target _ value => [target, value]
  | .like e _ _ pattern escape => e :: pattern :: escape.value?.toList
  | .between e _ _ low _ high => [e, low, high]
  | .isIn e _ _ _ values _ => [e, values]
  | .call callee _ args _ => callee :: args.toList
  | .window function clause => function :: (Clause.exprs clause.partition ++ Clause.exprs clause.order)
  | .cast _ _ e _ type _ => e :: type.exprs
  | .case _ operand whens otherwise _ =>
    operand.toList ++ whens.flatMap (fun w => [w.condition, w.result]) ++ otherwise.value?.toList
  | .list items _ => items
  | .join left _ right on => left :: right :: on.value?.toList
  | .tableHint table _ _ hints _ => [table, hints]
  | .select _ _ top columns clauses =>
    (top.map TopClause.count).toList ++ columns :: clauses.exprs
  | .setOperation left _ _ right => [left, right]
  | .orderBy query order offset =>
    query :: order.body :: (offset.map OffsetFetch.exprs).getD []

/-- What holds of the expression and of everything in it. -/
inductive Everywhere (P : Expr → Prop) : Expr → Prop
  | intro {e : Expr} (here : P e) (below : ∀ x ∈ e.children, Everywhere P x) : Everywhere P e

namespace Everywhere

variable {P Q : Expr → Prop} {e : Expr}

theorem here (h : e.Everywhere P) : P e := by
  cases h with
  | intro here below => exact here

theorem child (h : e.Everywhere P) : ∀ x ∈ e.children, x.Everywhere P := by
  cases h with
  | intro here below => exact below

theorem mono (weaker : ∀ x, P x → Q x) (h : e.Everywhere P) : e.Everywhere Q := by
  induction h with
  | intro here below ih => exact .intro (weaker _ here) ih

theorem rightOperand_mem_children {r : Expr} (h : r ∈ e.rightOperands) : r ∈ e.children := by
  cases e <;> simp_all [rightOperands, children]
  exact List.mem_of_mem_tail h

theorem leftOperand_mem_children {left : Expr} (operand : e.leftOperand? = some left) : left ∈ e.children := by
  cases e <;> simp_all [leftOperand?, children]
  exact List.mem_of_mem_head? operand

theorem leftSpine (h : e.Everywhere P) : ∀ x ∈ e.leftSpine, P x := by
  induction h with
  | @intro e here below ih =>
    intro x member
    rw [leftSpine_eq] at member
    rcases List.mem_cons.mp member with rfl | deeper
    · exact here
    · cases operand : e.leftOperand? with
      | none =>
        rw [operand] at deeper
        cases deeper
      | some left =>
        rw [operand] at deeper
        exact ih left (leftOperand_mem_children operand) x deeper

theorem rightSpine (h : e.Everywhere P) : ∀ x ∈ e.rightSpine, P x := by
  induction h with
  | @intro e here below ih =>
    intro x member
    rw [rightSpine_eq] at member
    rcases List.mem_cons.mp member with rfl | deeper
    · exact here
    · cases last : e.rightOperands.getLast? with
      | none =>
        rw [last] at deeper
        cases deeper
      | some r =>
        rw [last] at deeper
        exact ih r (rightOperand_mem_children (List.mem_of_getLast? last)) x deeper

end Everywhere

/-! ### Expressions behind operators -/

/-- A bound node that, if open to the right, takes its operands with at least the power of a
comma. -/
structure Sound (e : Expr) : Prop where
  bound : e.Bound
  strong : ∀ q ∈ e.rightPower?, .comma ≤ q

/-- A sound expression that can stand behind a node that takes it with the power `min`. -/
structure Fits (min : Precedence) (e : Expr) : Prop where
  sound : e.Everywhere Sound
  above : e.Above min

variable {e left r : Expr} {min p q : Precedence}

theorem leftOperand?_eq_none (closed : e.infixPower? = none) : e.leftOperand? = none := by
  cases e <;> simp_all [infixPower?, leftOperand?]

theorem rightOperands_eq_nil (closed : e.rightPower? = none) : e.rightOperands = [] := by
  cases e <;> simp_all [rightPower?, rightOperands]

theorem holds_of_closed (closed : e.rightPower? = none) : e.Holds p := by
  intro x member
  rw [rightSpine_eq, rightOperands_eq_nil closed] at member
  rw [List.mem_singleton.mp member, closed]
  simp

theorem above_of_closed (closed : e.infixPower? = none) : e.Above min := by
  intro x member
  rw [leftSpine_eq, leftOperand?_eq_none closed] at member
  rw [List.mem_singleton.mp member, closed]
  simp

/-- Only the power of the node itself and the right edge of its last operand count. -/
theorem holds_of_last (power : e.rightPower? = some q) (last : e.rightOperands.getLast? = some r)
    (weaker : p ≤ q) (holds : r.Holds p) : e.Holds p := by
  intro x member
  rw [rightSpine_eq, last] at member
  rcases List.mem_cons.mp member with rfl | deeper
  · simpa [power] using weaker
  · exact holds x deeper

theorem above_of_left (power : e.infixPower? = some p) (operand : e.leftOperand? = some left)
    (weaker : min < p) (above : left.Above min) : e.Above min := by
  intro x member
  rw [leftSpine_eq, operand] at member
  rcases List.mem_cons.mp member with rfl | deeper
  · simpa [power] using weaker
  · exact above x deeper

theorem Above.power (above : e.Above min) (power : e.infixPower? = some p) : min < p :=
  above e (by simp [leftSpine_eq]) p power

theorem Above.operand (above : e.Above min) (operand : e.leftOperand? = some left) : left.Above min := by
  intro x member
  refine above x ?_
  rw [leftSpine_eq, operand]
  exact List.mem_cons_of_mem e member

theorem Holds.power (holds : e.Holds p) (power : e.rightPower? = some q) : p ≤ q :=
  holds e (by simp [rightSpine_eq]) q power

theorem mem_rightSpine_of_last {x : Expr} (last : e.rightOperands.getLast? = some r)
    (member : x ∈ r.rightSpine) : x ∈ e.rightSpine := by
  rw [rightSpine_eq, last]
  exact List.mem_cons_of_mem e member

theorem rightPower_cases (power : e.rightPower? = some q) :
    e.infixPower? = some q ∨ .not ≤ q := by
  cases e with
  | unary op operand =>
    simp only [rightPower?, Option.some.injEq] at power
    rw [← power]
    right
    split <;> decide
  | binary | assignment | like | between | list => exact .inl power
  | _ => cases power

/-- What stands behind an operator at least as strong as `NOT` takes nothing weaker. -/
theorem holds_of_above (bound : e.Everywhere Bound) (above : e.Above min) (strong : .not ≤ min) :
    e.Holds .not := by
  induction bound generalizing min with
  | @intro e here below ih =>
    cases power : e.rightPower? with
    | none => exact holds_of_closed power
    | some q =>
      have strong' : .not ≤ q := by
        rcases rightPower_cases power with infix' | strong'
        · exact Nat.le_trans strong (Precedence.le_of_lt (above.power infix'))
        · exact strong'
      cases last : e.rightOperands.getLast? with
      | none =>
        intro x member
        rw [rightSpine_eq, last] at member
        rw [List.mem_singleton.mp member, power]
        simpa using strong'
      | some r =>
        have member := List.mem_of_getLast? last
        exact holds_of_last power last strong'
          (ih r (Everywhere.rightOperand_mem_children member) (here.right q power r member) strong')

theorem holds_comma (sound : e.Everywhere Sound) : e.Holds .comma := fun x member =>
  (sound.rightSpine x member).strong

theorem Fits.mono {min' : Precedence} (weaker : min' ≤ min) (fits : e.Fits min) : e.Fits min' :=
  ⟨fits.sound, fun x member p power => Precedence.lt_of_le_of_lt weaker (fits.above x member p power)⟩

/-- A node that binds nothing to its left or right, with sound parts. -/
structure Closed (e : Expr) : Prop where
  left : e.infixPower? = none
  right : e.rightPower? = none
  parts : ∀ x ∈ e.children, x.Everywhere Sound

/-- A closed node fits everywhere. -/
theorem Closed.fits (closed : e.Closed) : e.Fits min := by
  refine ⟨.intro ⟨⟨?_, ?_⟩, ?_⟩ closed.parts, above_of_closed closed.left⟩
  · simp [closed.right]
  · simp [closed.left]
  · simp [closed.right]

/-- An infix node fits where its left operand does, if it binds tighter than asked for. -/
theorem fits_of_infix (power : e.infixPower? = some p) (operand : e.leftOperand? = some left)
    (tighter : min < p) (above : left.Above min) (holds : left.Holds p)
    (right : ∀ q ∈ e.rightPower?, .comma ≤ q ∧ ∀ r ∈ e.rightOperands, r.Above q)
    (parts : ∀ x ∈ e.children, x.Everywhere Sound) : e.Fits min := by
  refine ⟨.intro ⟨⟨fun q h => (right q h).2, ?_⟩, fun q h => (right q h).1⟩ parts, ?_⟩
  · simpa [power, operand] using holds
  · exact above_of_left power operand tighter above

/-- Items behind commas fit a list that starts with an expression which fits. -/
theorem fits_list {items : List Expr} {separators : List Token} (weak : min < .comma)
    (first : left.Fits min) (rest : ∀ x ∈ items, x.Fits .comma) :
    (Expr.list (left :: items) separators).Fits min := by
  refine fits_of_infix rfl rfl weak first.above (holds_comma first.sound) ?_ ?_
  · intro q power
    cases power
    exact ⟨Nat.le_refl _, fun r member => (rest r member).above⟩
  · intro x member
    rcases List.mem_cons.mp member with rfl | later
    · exact first.sound
    · exact (rest x later).sound

end Expr

end TransactSql
