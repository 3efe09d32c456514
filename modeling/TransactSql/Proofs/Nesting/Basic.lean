import TransactSql.Proofs.Parser.Yield
import TransactSql.Statement.Tree

/-!
# Parentheses on the paths of a tree

`parens` counts the parentheses that stand inside one another. `nesting` leaves out those around
table sources, as in `FROM (a CROSS JOIN b)`: they are told from the parentheses of an expression
by the token behind the `(`, as the grammar does. `Within` bounds the nesting of whatever has trees
in it, and is a class so that what is made of bounded parts is bounded by inference.
-/

namespace TransactSql

namespace Tree

mutual

/-- The most parentheses on a path from the root. -/
def parens : Tree → Nat
  | .token _ => 0
  | .node kind slots => parensOf slots + if kind = .paren then 1 else 0

def parensOf : List Tree → Nat
  | [] => 0
  | slot :: slots => max slot.parens (parensOf slots)

end

def isToken : Tree → Bool
  | .token _ => true
  | .node .. => false

/-- How many nodes in a node that is a table source are table sources too, from the left. -/
def sourceParts (kind : NodeKind) (slots : List Tree) : Nat :=
  match kind with
  | .exprList => slots.length
  | .join => 2
  | .aliased | .tableHint => 1
  | _ => 0

/-- Whether a `(` among the first slots has another one or a `SELECT` behind it. -/
def opensExpression (slots : List Tree) : Bool :=
  (tokensOf slots)[1]?.any fun t => t.kind == .leftParen || t.isKeyword .SELECT

/-- Whether the first slot is a `FROM`. -/
def startsWithFrom : List Tree → Bool
  | .token t :: _ => t.isKeyword .FROM
  | _ => false

mutual

/-- The most parentheses on a path from the root, without those around table sources. `source` tells
whether the tree is a table source itself. -/
def nesting (source : Bool) : Tree → Nat
  | .token _ => 0
  | .node .paren slots =>
    if source && !opensExpression slots then nestingOf 1 slots else nestingOf 0 slots + 1
  | .node .clause slots => nestingOf (if startsWithFrom slots then 1 else 0) slots
  | .node kind slots => nestingOf (if source then sourceParts kind slots else 0) slots

/-- The same for slots, where as many nodes as `sources` tells are table sources. -/
def nestingOf (sources : Nat) : List Tree → Nat
  | [] => 0
  | slot :: slots =>
    max (slot.nesting (0 < sources)) (nestingOf (if slot.isToken then sources else sources - 1) slots)

end

theorem nesting_token (source : Bool) (t : Token) : (token t).nesting source = 0 := by rw [nesting]

mutual

/-- Fewer parentheses count in a table source. -/
theorem nesting_le (source : Bool) : ∀ t : Tree, t.nesting source ≤ t.nesting false
  | .token _ => by rw [nesting_token]; exact Nat.zero_le _
  | .node kind slots => by
    have fewer := nestingOf_le 1 slots
    have parts := nestingOf_le (if source then sourceParts kind slots else 0) slots
    cases kind
    case paren =>
      simp only [nesting, Bool.false_and, Bool.false_eq_true, if_false]
      split <;> omega
    case clause => simp only [nesting, Nat.le_refl]
    all_goals simpa only [nesting, Bool.false_eq_true, if_false] using parts

theorem nestingOf_le (sources : Nat) : ∀ slots : List Tree, nestingOf sources slots ≤ nestingOf 0 slots
  | [] => by simp only [nestingOf, Nat.le_refl]
  | slot :: slots => by
    have first := nesting_le (0 < sources) slot
    have rest := nestingOf_le (if slot.isToken then sources else sources - 1) slots
    simp only [nestingOf, Nat.lt_irrefl, decide_false, Nat.zero_sub, ite_self]
    omega

end

/-- The slots of a node that is no parenthesis hold all that counts in it. -/
theorem nesting_node_le {kind : NodeKind} (other : kind ≠ .paren) (source : Bool) (slots : List Tree) :
    (node kind slots).nesting source ≤ nestingOf 0 slots := by
  have parts := nestingOf_le (if source then sourceParts kind slots else 0) slots
  cases kind
  case paren => exact absurd rfl other
  case clause =>
    simp only [nesting]
    exact nestingOf_le _ slots
  all_goals simpa only [nesting] using parts

theorem nesting_paren_le (source : Bool) (slots : List Tree) :
    (node .paren slots).nesting source ≤ nestingOf 0 slots + 1 := by
  have fewer := nestingOf_le 1 slots
  simp only [nesting]
  split <;> omega

theorem nestingOf_zero_le_iff {n : Nat} {slots : List Tree} :
    nestingOf 0 slots ≤ n ↔ ∀ t ∈ slots, t.nesting false ≤ n := by
  induction slots with
  | nil => simp [nestingOf]
  | cons slot slots ih =>
    rw [nestingOf, Nat.max_le, ite_self, ih]
    simp

theorem mem_interleave {items : List Tree} {separators : List Token} {t : Tree}
    (member : t ∈ interleave items separators) : t ∈ items ∨ ∃ s, t = .token s := by
  fun_induction interleave items separators with
  | case1 item next items s ss ih =>
    rcases List.mem_cons.mp member with rfl | later
    · exact .inl List.mem_cons_self
    · rcases List.mem_cons.mp later with rfl | later
      · exact .inr ⟨s, rfl⟩
      · exact (ih later).imp_left (List.mem_cons_of_mem item)
  | case2 => exact .inl member

end Tree

open TransactSql.Tree

/-! ### Values with trees in them -/

/-- Types whose values have trees in them. -/
class Slotted (α : Type) where
  slots : α → List Tree

/-- The trees in the value are nested at most `n` deep. -/
class Within (n : Nat) [Slotted α] (a : α) : Prop where
  all : ∀ t ∈ Slotted.slots a, t.nesting false ≤ n

/-- Types whose values have no nodes that count, such as tokens. -/
class Plain (α : Type) [Slotted α] : Prop where
  none : ∀ a : α, Slotted.slots a = []

theorem Within.mono [Slotted α] {n m : Nat} {a : α} (h : Within n a) (le : n ≤ m) : Within m a :=
  ⟨fun t member => Nat.le_trans (h.all t member) le⟩

variable {n : Nat}

/-- A bounded value carries the proof that it is. -/
instance [Slotted α] (a : {a : α // Within n a}) : Within n a.1 := a.2

theorem Within.of_none [Slotted α] {a : α} (none : Slotted.slots a = []) : Within n a := by
  refine ⟨?_⟩
  rw [none]
  exact nofun

instance [Slotted α] [Plain α] (a : α) : Within n a := .of_none (Plain.none a)

section Containers

variable [Slotted α] [Slotted β]

instance : Slotted (List α) := ⟨fun as => as.flatMap Slotted.slots⟩

instance : Slotted (Option α) := ⟨fun a => a.toList.flatMap Slotted.slots⟩

instance : Slotted (α × β) := ⟨fun x => Slotted.slots x.1 ++ Slotted.slots x.2⟩

instance [Plain α] : Plain (List α) :=
  ⟨fun _ => List.flatMap_eq_nil_iff.mpr fun a _ => Plain.none a⟩

instance [Plain α] : Plain (Option α) :=
  ⟨fun _ => List.flatMap_eq_nil_iff.mpr fun a _ => Plain.none a⟩

instance [Plain α] [Plain β] : Plain (α × β) :=
  ⟨fun x => List.append_eq_nil_iff.mpr ⟨Plain.none x.1, Plain.none x.2⟩⟩

/-- A list is bounded as its members are. -/
theorem Within.list_iff {as : List α} : Within n as ↔ ∀ a ∈ as, Within n a := by
  constructor
  · intro h a member
    exact ⟨fun t found => h.all t (List.mem_flatMap.mpr ⟨a, member, found⟩)⟩
  · intro all
    refine ⟨fun t member => ?_⟩
    obtain ⟨a, found, inside⟩ := List.mem_flatMap.mp member
    exact (all a found).all t inside

instance : Within n ([] : List α) := Within.list_iff.mpr nofun

instance {a : α} {as : List α} [first : Within n a] [rest : Within n as] : Within n (a :: as) :=
  Within.list_iff.mpr (List.forall_mem_cons.mpr ⟨first, Within.list_iff.mp rest⟩)

instance {as bs : List α} [first : Within n as] [rest : Within n bs] : Within n (as ++ bs) :=
  Within.list_iff.mpr (List.forall_mem_append.mpr ⟨Within.list_iff.mp first, Within.list_iff.mp rest⟩)

instance : Within n (none : Option α) := .of_none rfl

theorem Within.some_iff {a : α} : Within n (some a) ↔ Within n a := by
  have slots : Slotted.slots (some a) = Slotted.slots a := List.append_nil _
  constructor
  · intro h
    exact ⟨slots ▸ h.all⟩
  · intro h
    exact ⟨slots ▸ h.all⟩

instance {a : α} [h : Within n a] : Within n (some a) := Within.some_iff.mpr h

theorem Within.pair_iff {x : α × β} : Within n x ↔ Within n x.1 ∧ Within n x.2 := by
  constructor
  · intro h
    have all := List.forall_mem_append.mp h.all
    exact ⟨⟨all.1⟩, ⟨all.2⟩⟩
  · rintro ⟨first, second⟩
    exact ⟨List.forall_mem_append.mpr ⟨first.all, second.all⟩⟩

instance {a : α} {b : β} [first : Within n a] [second : Within n b] : Within n (a, b) :=
  Within.pair_iff.mpr ⟨first, second⟩

instance {x : α × β} [h : Within n x] : Within n x.1 := (Within.pair_iff.mp h).1

instance {x : α × β} [h : Within n x] : Within n x.2 := (Within.pair_iff.mp h).2

end Containers

/-! ### Trees -/

instance : Slotted Tree := ⟨fun t => [t]⟩

theorem Tree.within_iff {t : Tree} : Within n t ↔ t.nesting false ≤ n :=
  ⟨fun h => h.all t List.mem_cons_self, fun le => ⟨fun _ member => List.mem_singleton.mp member ▸ le⟩⟩

instance (t : Token) : Within n (Tree.token t) :=
  within_iff.mpr (by rw [nesting_token]; exact Nat.zero_le n)

theorem Tree.within_slots {slots : List Tree} (h : Within n slots) : nestingOf 0 slots ≤ n :=
  nestingOf_zero_le_iff.mpr fun t member => within_iff.mp (Within.list_iff.mp h t member)

/-- A node that is no parenthesis is nested as deep as its slots. -/
theorem Tree.within_node {kind : NodeKind} {slots : List Tree} (other : kind ≠ .paren)
    [h : Within n slots] : Within n (node kind slots) :=
  within_iff.mpr (Nat.le_trans (nesting_node_le other false slots) (within_slots h))

instance (ts : List Token) : Within n (tokenSlots ts) := by
  refine Within.list_iff.mpr fun t member => ?_
  obtain ⟨u, _, rfl⟩ := List.mem_map.mp member
  infer_instance

instance (t : Option Token) : Within n (optionalToken t) := by
  cases t with
  | none => exact inferInstanceAs (Within n ([] : List Tree))
  | some t => exact inferInstanceAs (Within n [Tree.token t])

instance (pair : Token × Token) : Within n (tokenPair pair) :=
  inferInstanceAs (Within n [Tree.token pair.1, .token pair.2])

instance {items : List Tree} [h : Within n items] (separators : List Token) :
    Within n (interleave items separators) := by
  refine Within.list_iff.mpr fun t member => ?_
  rcases mem_interleave member with item | ⟨s, rfl⟩
  · exact Within.list_iff.mp h t item
  · infer_instance

instance (name : Name) : Within n name.tree := within_node nofun

instance (r : RawTokens) : Within n r.tree := within_node nofun

instance (t : TableType) : Within n t.tree := within_node nofun

instance (o : RoutineOptions) : Within n o.tree := within_node nofun

/-! ### Values without nodes -/

instance : Slotted Token := ⟨fun _ => []⟩

instance : Slotted Bool := ⟨fun _ => []⟩

instance : Slotted Unit := ⟨fun _ => []⟩

instance : Slotted Name := ⟨fun _ => []⟩

instance : Slotted RawTokens := ⟨fun _ => []⟩

instance : Slotted TableType := ⟨fun _ => []⟩

instance : Slotted RoutineOptions := ⟨fun _ => []⟩

instance : Plain Token := ⟨fun _ => rfl⟩

instance : Plain Bool := ⟨fun _ => rfl⟩

instance : Plain Unit := ⟨fun _ => rfl⟩

instance : Plain Name := ⟨fun _ => rfl⟩

instance : Plain RawTokens := ⟨fun _ => rfl⟩

instance : Plain TableType := ⟨fun _ => rfl⟩

instance : Plain RoutineOptions := ⟨fun _ => rfl⟩

end TransactSql
