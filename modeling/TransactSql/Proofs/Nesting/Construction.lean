import TransactSql.Proofs.Grammar.QueryYield
import TransactSql.Proofs.Nesting.Basic

/-!
# The nesting of what is made

A node that is no parenthesis is nested as deep as its parts. In a table source the parts that are
sources count as such, so parentheses around them add nothing.
-/

namespace TransactSql

open TransactSql.Tree

variable {n : Nat}

/-! ### Parts of expressions -/

instance : Slotted Expr := ⟨fun e => [e.tree]⟩

instance : Slotted Tail := ⟨Tail.slots⟩

instance : Slotted DataType := ⟨fun d => [d.tree]⟩

instance : Slotted WhenClause := ⟨fun w => [w.tree]⟩

instance : Slotted Clause := ⟨fun c => [c.tree]⟩

instance : Slotted TopClause := ⟨fun t => [t.tree]⟩

instance : Slotted SelectClauses := ⟨SelectClauses.slots⟩

instance : Slotted OverClause := ⟨fun o => [o.tree]⟩

instance : Slotted FetchClause := ⟨fun f => FetchClause.optionalSlots (some f)⟩

instance : Slotted OffsetFetch := ⟨fun o => [o.tree]⟩

/-- The one tree of a value. -/
theorem Within.tree [Slotted α] {a : α} [h : Within n a] {t : Tree} (slots : Slotted.slots a = [t]) :
    Within n t :=
  within_iff.mpr (h.all t (slots ▸ List.mem_cons_self))

/-- A value that is one node, other than a parenthesis, is nested as deep as its slots. -/
theorem Within.of_node [Slotted α] {a : α} {kind : NodeKind} {slots : List Tree}
    (tree : Slotted.slots a = [.node kind slots]) (other : kind ≠ .paren) [h : Within n slots] :
    Within n a :=
  ⟨tree ▸ (within_node other : Within n (node kind slots)).all⟩

instance (e : Expr) [Within n e] : Within n e.tree := .tree (a := e) rfl

instance (d : DataType) [Within n d] : Within n d.tree := .tree (a := d) rfl

instance (c : Clause) [Within n c] : Within n c.tree := .tree (a := c) rfl

instance (o : OverClause) [Within n o] : Within n o.tree := .tree (a := o) rfl

theorem Within.of_slots [Slotted α] {a : α} (h : Within n (Slotted.slots a)) : Within n a :=
  ⟨fun t member => within_iff.mp (Within.list_iff.mp h t member)⟩

theorem Within.slots [Slotted α] {a : α} (h : Within n a) : Within n (Slotted.slots a) :=
  Within.list_iff.mpr fun t member => within_iff.mpr (h.all t member)

instance (t : Tail) [h : Within n t] : Within n t.slots := h.slots

instance (c : SelectClauses) [h : Within n c] : Within n c.slots := h.slots

/-- An optional value has the slots of the value, if there is one. -/
theorem Within.optional [Slotted α] {a : Option α} [h : Within n a] {slots : Option α → List Tree}
    (none : slots .none = []) (some : ∀ b, slots (.some b) = Slotted.slots b) : Within n (slots a) := by
  cases a with
  | none =>
    rw [none]
    infer_instance
  | some b =>
    rw [some]
    exact (Within.some_iff.mp h).slots

instance (e : Option Expr) [Within n e] : Within n (Expr.optionalSlot e) := .optional rfl fun _ => rfl

instance (c : Option Clause) [Within n c] : Within n (Clause.optionalSlot c) := .optional rfl fun _ => rfl

instance (t : Option TopClause) [Within n t] : Within n (TopClause.optionalSlot t) :=
  .optional rfl fun _ => rfl

instance (o : Option OffsetFetch) [Within n o] : Within n (OffsetFetch.optionalSlot o) :=
  .optional rfl fun _ => rfl

instance (f : Option FetchClause) [Within n f] : Within n (FetchClause.optionalSlots f) :=
  .optional rfl fun _ => rfl

instance (r : Option RawTokens) : Within n (r.map RawTokens.tree).toList := by
  cases r with
  | none => exact inferInstanceAs (Within n ([] : List Tree))
  | some r => exact inferInstanceAs (Within n [r.tree])

/-- The slots of a list are those of its items. -/
theorem Within.list [Slotted α] {as : List α} [h : Within n as] {slotsOf : List α → List Tree}
    (nil : slotsOf [] = []) (cons : ∀ a as, slotsOf (a :: as) = Slotted.slots a ++ slotsOf as) :
    Within n (slotsOf as) := by
  have members := Within.list_iff.mp h
  clear h
  induction as with
  | nil =>
    rw [nil]
    infer_instance
  | cons a as ih =>
    rw [List.forall_mem_cons] at members
    have first := members.1.slots
    have rest := ih members.2
    rw [cons]
    infer_instance

instance (es : List Expr) [Within n es] : Within n (Expr.slotsOf es) := .list rfl fun _ _ => rfl

instance (ws : List WhenClause) [Within n ws] : Within n (WhenClause.slotsOf ws) :=
  .list rfl fun _ _ => rfl

/-! ### Expressions -/

section

variable (s t u v w : Token) (e f g : Expr) [Within n e] [Within n f] [Within n g]

instance : Within n (Expr.literal t) := .of_node rfl nofun

instance (name : Name) : Within n (Expr.name name) := .of_node rfl nofun

instance (r : RawTokens) : Within n (Expr.raw r) := .of_node rfl nofun

instance : Within n (Expr.unary t e) := .of_node rfl nofun

instance : Within n (Expr.binary e t f) := .of_node rfl nofun

instance : Within n (Expr.assignment e t f) := .of_node rfl nofun

instance (not : Option Token) : Within n (Expr.isNull e t not u) := .of_node rfl nofun

instance (not : Option Token) (escape : Tail) [Within n escape] :
    Within n (Expr.like e not t f escape) := .of_node rfl nofun

instance (not : Option Token) : Within n (Expr.between e not t f u g) := .of_node rfl nofun

instance (not : Option Token) : Within n (Expr.isIn e not t u f v) := .of_node rfl nofun

instance (args : Option Expr) [Within n args] : Within n (Expr.call e t args u) := .of_node rfl nofun

instance (o : OverClause) [Within n o] : Within n (Expr.window e o) := .of_node rfl nofun

instance (type : DataType) [Within n type] : Within n (Expr.cast t u e v type w) := .of_node rfl nofun

instance (operand : Option Expr) (whens : List WhenClause) (otherwise : Tail) [Within n operand]
    [Within n whens] [Within n otherwise] : Within n (Expr.case t operand whens otherwise u) :=
  .of_node rfl nofun

instance : Within n (Expr.collate e t u) := .of_node rfl nofun

instance (items : List Expr) (separators : List Token) [Within n items] :
    Within n (Expr.list items separators) := .of_node rfl nofun

instance : Within n (Expr.aliased e t u) := .of_node rfl nofun

instance : Within n (Expr.sort e t) := .of_node rfl nofun

instance (quantifier : Option Token) (top : Option TopClause) (clauses : SelectClauses) [Within n top]
    [Within n clauses] : Within n (Expr.select t quantifier top e clauses) := .of_node rfl nofun

instance (all : Option Token) : Within n (Expr.setOperation e t all f) := .of_node rfl nofun

instance (order : Clause) (offset : Option OffsetFetch) [Within n order] [Within n offset] :
    Within n (Expr.orderBy e order offset) := .of_node rfl nofun

instance (options : RawTokens) : Within n (Expr.queryOption e t options) := .of_node rfl nofun

instance : Within n Tail.absent := .of_none rfl

instance : Within n (Tail.present t e) :=
  .of_slots (inferInstanceAs (Within n [Tree.token t, e.tree]))

instance (name : Name) (args : Option Expr) [Within n args] : Within n (DataType.named name t args u) :=
  .of_node rfl nofun

instance (type : TableType) : Within n (DataType.table type) := .of_node rfl nofun

instance : Within n (WhenClause.mk t e u f) := .of_node rfl nofun

instance (keywords : List Token) : Within n (Clause.mk keywords e) := .of_node rfl nofun

instance (percent : Option Token) (withTies : Option (Token × Token)) :
    Within n (TopClause.mk t u e v percent withTies) := by
  cases withTies with
  | none =>
    have slots : Within n (.token t :: .token u :: e.tree :: .token v :: optionalToken percent ++ []) :=
      inferInstance
    exact .of_node (h := slots) rfl nofun
  | some ties =>
    have slots : Within n (.token t :: .token u :: e.tree :: .token v :: optionalToken percent
        ++ [Tree.token ties.1, .token ties.2]) := inferInstance
    exact .of_node (h := slots) rfl nofun

instance (into source condition grouping having : Option Clause) [Within n into] [Within n source]
    [Within n condition] [Within n grouping] [Within n having] :
    Within n (SelectClauses.mk into source condition grouping having) :=
  .of_slots (inferInstanceAs (Within n (Clause.optionalSlot into ++ Clause.optionalSlot source ++
    Clause.optionalSlot condition ++ Clause.optionalSlot grouping ++ Clause.optionalSlot having)))

instance (partition order : Option Clause) (frame : Option RawTokens) [Within n partition]
    [Within n order] : Within n (OverClause.mk t u partition order frame v) := .of_node rfl nofun

instance : Within n (FetchClause.mk t u e v w) :=
  .of_slots (inferInstanceAs (Within n [Tree.token t, .token u, e.tree, .token v, .token w]))

instance (fetch : Option FetchClause) [Within n fetch] : Within n (OffsetFetch.mk t e u fetch) :=
  .of_node rfl nofun

/-- Parentheses add a level. -/
theorem Expr.within_paren : Within (n + 1) (Expr.paren t e u) := by
  have inside : Within n [Tree.token t, e.tree, .token u] := inferInstance
  have bound := Nat.le_trans (nesting_paren_le false _) (Nat.succ_le_succ (within_slots inside))
  exact .of_slots (Within.list_iff.mpr (List.forall_mem_singleton.mpr (within_iff.mpr bound)))

end

/-! ### Table sources -/

namespace Tree

@[simp]
theorem nestingOf_nil (sources : Nat) : nestingOf sources [] = 0 := by rw [nestingOf]

@[simp]
theorem nestingOf_token (sources : Nat) (t : Token) (slots : List Tree) :
    nestingOf sources (.token t :: slots) = nestingOf sources slots := by
  rw [nestingOf, nesting_token]
  simp [isToken]

@[simp]
theorem nestingOf_tokenSlots (sources : Nat) (ts : List Token) (slots : List Tree) :
    nestingOf sources (tokenSlots ts ++ slots) = nestingOf sources slots := by
  induction ts with
  | nil => rfl
  | cons t ts ih =>
    rw [← ih]
    exact nestingOf_token sources t _

/-- The next node is a table source, and the others count in full at most. -/
theorem nestingOf_source_le {sources : Nat} {slot : Tree} {slots : List Tree}
    (source : slot.nesting true ≤ n) (rest : nestingOf 0 slots ≤ n) :
    nestingOf (sources + 1) (slot :: slots) ≤ n := by
  have fewer := nestingOf_le (if slot.isToken then sources + 1 else sources + 1 - 1) slots
  rw [nestingOf, Nat.max_le]
  exact ⟨by simpa using source, Nat.le_trans fewer rest⟩

theorem nestingOf_sources_le {sources : Nat} {slots : List Tree} (enough : slots.length ≤ sources)
    (all : ∀ t ∈ slots, t.nesting true ≤ n) : nestingOf sources slots ≤ n := by
  induction slots generalizing sources with
  | nil => simp
  | cons slot slots ih =>
    rw [List.forall_mem_cons] at all
    rw [List.length_cons] at enough
    have first : decide (0 < sources) = true := decide_eq_true (by omega)
    have rest : slots.length ≤ if slot.isToken then sources else sources - 1 := by
      split <;> omega
    rw [nestingOf, first, Nat.max_le]
    exact ⟨all.1, ih rest all.2⟩

end Tree

namespace Expr

variable {t u v : Token} {e f : Expr}

/-- What counts in an expression is no less than what counts in it as a table source. -/
theorem source_le (e : Expr) [Within n e] : e.tree.nesting true ≤ n :=
  Nat.le_trans (nesting_le true e.tree) (within_iff.mp inferInstance)

theorem source_aliased (source : e.tree.nesting true ≤ n) :
    (aliased e t u).tree.nesting true ≤ n := by
  simp only [tree, nesting, sourceParts, if_true]
  exact nestingOf_source_le source (by simp)

theorem source_tableHint (source : e.tree.nesting true ≤ n) [Within n f] :
    (tableHint e t u f v).tree.nesting true ≤ n := by
  simp only [tree, nesting, sourceParts, if_true]
  exact nestingOf_source_le source (within_slots inferInstance)

theorem source_join {operator : List Token} {on : Tail} (left : e.tree.nesting true ≤ n)
    (right : f.tree.nesting true ≤ n) [Within n on] :
    (join e operator f on).tree.nesting true ≤ n := by
  simp only [tree, nesting, sourceParts, if_true, List.cons_append]
  have condition : nestingOf 0 on.slots ≤ n := within_slots inferInstance
  -- Whether the left side is a node or not, the right side is still a source.
  have rest : ∀ k, nestingOf (k + 1) (tokenSlots operator ++ f.tree :: on.slots) ≤ n := by
    intro k
    rw [nestingOf_tokenSlots]
    exact nestingOf_source_le right condition
  rw [nestingOf, Nat.max_le]
  refine ⟨left, ?_⟩
  split
  · exact rest 1
  · exact rest 0

theorem source_list {items : List Expr} {separators : List Token}
    (sources : ∀ e ∈ items, e.tree.nesting true ≤ n) :
    (list items separators).tree.nesting true ≤ n := by
  simp only [tree, nesting, sourceParts, if_true]
  refine nestingOf_sources_le (Nat.le_refl _) fun t member => ?_
  rcases mem_interleave member with item | ⟨s, rfl⟩
  · rw [slotsOf_eq] at item
    obtain ⟨e, found, rfl⟩ := List.mem_map.mp item
    exact sources e found
  · simp [nesting_token]

/-- Parentheses around table sources add nothing. -/
theorem source_paren (source : e.tree.nesting true ≤ n)
    (behind : opensExpression [.token t, e.tree, .token u] = false) :
    (paren t e u).tree.nesting true ≤ n := by
  simp only [tree, nesting, behind, Bool.not_false, Bool.and_self, if_true, nestingOf_token]
  exact nestingOf_source_le source (by simp)

end Expr

theorem Clause.within_from {t : Token} {e : Expr} (source : e.tree.nesting true ≤ n)
    (fromToken : t.isKeyword .FROM = true) : Within n (Clause.mk [t] e) := by
  have bound : (Clause.mk [t] e).tree.nesting false ≤ n := by
    simp only [tree, tokenSlots, List.map_cons, List.map_nil, List.cons_append, List.nil_append,
      nesting, startsWithFrom, fromToken, if_true, nestingOf_token]
    exact nestingOf_source_le source (by simp)
  exact .of_slots (Within.list_iff.mpr (List.forall_mem_singleton.mpr (within_iff.mpr bound)))

end TransactSql
