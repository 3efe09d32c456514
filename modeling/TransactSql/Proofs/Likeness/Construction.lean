import TransactSql.Proofs.Likeness.Basic
import TransactSql.Statement.Checked

/-!
# Related parts make related nodes

Expressions and statements are related as their trees are. What a checked construction asks of its
parts has the same answer for related parts, so it accepts both or refuses both.
-/

namespace TransactSql

variable {R : Correspondence}

/-! ### Parts of expressions -/

instance : Relatable Name := ⟨fun R n m => Relatable.rel R n.parts m.parts⟩

instance : Relatable RawTokens := ⟨fun R r s => Relatable.rel R r.tokens s.tokens⟩

instance : Relatable TableType := ⟨fun R t u => Relatable.rel R t.tree u.tree⟩

instance : Relatable Expr := ⟨fun R e f => Relatable.rel R e.tree f.tree⟩

instance : Relatable DataType := ⟨fun R t u => Relatable.rel R t.tree u.tree⟩

instance : Relatable WhenClause := ⟨fun R w x => Relatable.rel R w.tree x.tree⟩

instance : Relatable TopClause := ⟨fun R t u => Relatable.rel R t.tree u.tree⟩

instance : Relatable OverClause := ⟨fun R o p => Relatable.rel R o.tree p.tree⟩

instance : Relatable OffsetFetch := ⟨fun R o p => Relatable.rel R o.tree p.tree⟩

instance : Relatable FetchClause :=
  ⟨fun R f g =>
    Relatable.rel R (FetchClause.optionalSlots (some f)) (FetchClause.optionalSlots (some g))⟩

instance : Relatable Clause :=
  ⟨fun R c d => Relatable.rel R c.keywords d.keywords ∧ Relatable.rel R c.body d.body⟩

/-- Both are absent, or both present and related. -/
inductive Tail.Alike (R : Correspondence) : Tail → Tail → Prop
  | absent : Alike R .absent .absent
  | present {t u : Token} {e f : Expr} : Related R t u → Related R e f →
    Alike R (.present t e) (.present u f)

instance : Relatable Tail := ⟨Tail.Alike⟩

/-- The same clauses are present, and these are related. -/
structure SelectClauses.Alike (R : Correspondence) (c d : SelectClauses) : Prop where
  into : Related R c.into d.into
  source : Related R c.source d.source
  condition : Related R c.condition d.condition
  grouping : Related R c.grouping d.grouping
  having : Related R c.having d.having

instance : Relatable SelectClauses := ⟨SelectClauses.Alike⟩

section Slots

instance {n m : Name} [h : Related R n m] : Related R n.parts m.parts := ⟨h.rel⟩

instance {ts us : List Token} [h : Related R ts us] : Related R (Name.mk ts) (Name.mk us) := ⟨h.rel⟩

instance {n m : Name} [Related R n m] : Related R n.tree m.tree := by
  unfold Name.tree; infer_instance

instance {r s : RawTokens} [h : Related R r s] : Related R r.tokens s.tokens := ⟨h.rel⟩

instance {ts us : List Token} [h : Related R ts us] :
    Related R (RawTokens.mk ts) (RawTokens.mk us) := ⟨h.rel⟩

instance {r s : RawTokens} [Related R r s] : Related R r.tree s.tree := by
  unfold RawTokens.tree; infer_instance

instance {r s : Option RawTokens} [Related R r s] :
    Related R (r.map RawTokens.tree).toList (s.map RawTokens.tree).toList := by
  have trees : Related R (r.map RawTokens.tree) (s.map RawTokens.tree) :=
    .optionMap inferInstance fun _ _ _ => inferInstance
  infer_instance

instance {t u : TableType} [h : Related R t u] : Related R t.tree u.tree := ⟨h.rel⟩

instance {e f : Expr} [h : Related R e f] : Related R e.tree f.tree := ⟨h.rel⟩

instance {t u : DataType} [h : Related R t u] : Related R t.tree u.tree := ⟨h.rel⟩

instance {o p : OverClause} [h : Related R o p] : Related R o.tree p.tree := ⟨h.rel⟩

instance {c d : Clause} [h : Related R c d] : Related R c.tree d.tree := by
  obtain ⟨keywords, body⟩ := c
  obtain ⟨keywords', body'⟩ := d
  have words : Related R keywords keywords' := ⟨h.rel.1⟩
  have bodies : Related R body body' := ⟨h.rel.2⟩
  simp only [Clause.tree]
  infer_instance

instance {x y : Option Expr} [h : Related R x y] :
    Related R (Expr.optionalSlot x) (Expr.optionalSlot y) := by
  obtain ⟨rfl, rfl⟩ | ⟨a, b, rfl, rfl, _⟩ := h.option <;>
    simp only [Expr.optionalSlot] <;> infer_instance

instance {x y : Option Clause} [h : Related R x y] :
    Related R (Clause.optionalSlot x) (Clause.optionalSlot y) := by
  obtain ⟨rfl, rfl⟩ | ⟨a, b, rfl, rfl, _⟩ := h.option <;>
    simp only [Clause.optionalSlot] <;> infer_instance

instance {x y : Option TopClause} [h : Related R x y] :
    Related R (TopClause.optionalSlot x) (TopClause.optionalSlot y) := by
  obtain ⟨rfl, rfl⟩ | ⟨a, b, rfl, rfl, inner⟩ := h.option
  · simp only [TopClause.optionalSlot]
    infer_instance
  · simp only [TopClause.optionalSlot]
    exact ⟨.cons inner.rel .nil⟩

instance {x y : Option OffsetFetch} [h : Related R x y] :
    Related R (OffsetFetch.optionalSlot x) (OffsetFetch.optionalSlot y) := by
  obtain ⟨rfl, rfl⟩ | ⟨a, b, rfl, rfl, inner⟩ := h.option
  · simp only [OffsetFetch.optionalSlot]
    infer_instance
  · simp only [OffsetFetch.optionalSlot]
    exact ⟨.cons inner.rel .nil⟩

instance {x y : Option FetchClause} [h : Related R x y] :
    Related R (FetchClause.optionalSlots x) (FetchClause.optionalSlots y) := by
  obtain ⟨rfl, rfl⟩ | ⟨a, b, rfl, rfl, inner⟩ := h.option
  · simp only [FetchClause.optionalSlots]
    infer_instance
  · exact ⟨inner.rel⟩

instance {es fs : List Expr} [h : Related R es fs] :
    Related R (Expr.slotsOf es) (Expr.slotsOf fs) := by
  have related := h.rel
  clear h
  induction related with
  | nil =>
    simp only [Expr.slotsOf]
    infer_instance
  | cons first _ rest =>
    simp only [Expr.slotsOf]
    exact ⟨.cons first rest.rel⟩

instance {ws xs : List WhenClause} [h : Related R ws xs] :
    Related R (WhenClause.slotsOf ws) (WhenClause.slotsOf xs) := by
  have related := h.rel
  clear h
  induction related with
  | nil =>
    simp only [WhenClause.slotsOf]
    infer_instance
  | cons first _ rest =>
    simp only [WhenClause.slotsOf]
    exact ⟨.cons first rest.rel⟩

instance : Related R Tail.absent Tail.absent := ⟨.absent⟩

instance {t u : Token} {e f : Expr} [h : Related R t u] [h' : Related R e f] :
    Related R (Tail.present t e) (Tail.present u f) := ⟨.present h h'⟩

theorem Tail.cases_of_related {t u : Tail} (h : Related R t u) :
    (t = .absent ∧ u = .absent) ∨ ∃ k k' e f, t = .present k e ∧ u = .present k' f ∧
      Related R k k' ∧ Related R e f := by
  have related := h.rel
  cases related with
  | absent => exact .inl ⟨rfl, rfl⟩
  | present keyword value => exact .inr ⟨_, _, _, _, rfl, rfl, keyword, value⟩

instance {t u : Tail} [h : Related R t u] : Related R t.slots u.slots := by
  obtain ⟨rfl, rfl⟩ | ⟨k, k', e, f, rfl, rfl, _, _⟩ := Tail.cases_of_related h <;>
    simp only [Tail.slots] <;> infer_instance

instance {t u : Tail} [h : Related R t u] : Related R t.value? u.value? := by
  obtain ⟨rfl, rfl⟩ | ⟨k, k', e, f, rfl, rfl, _, _⟩ := Tail.cases_of_related h <;>
    simp only [Tail.value?] <;> infer_instance

instance {c d : SelectClauses} [h : Related R c d] : Related R c.slots d.slots := by
  obtain ⟨into, source, condition, grouping, having⟩ := c
  obtain ⟨into', source', condition', grouping', having'⟩ := d
  obtain ⟨_, _, _, _, _⟩ : SelectClauses.Alike R _ _ := h.rel
  simp only [SelectClauses.slots]
  infer_instance

end Slots

/-! ### Checks -/

instance [Relatable α] : Relatable (Shaped α) :=
  ⟨fun R x y => match x, y with
    | .ok a, .ok b => Relatable.rel R a b
    | .error _, .error _ => True
    | _, _ => False⟩

namespace Shaped

theorem cases_of_related [Relatable α] {x y : Shaped α} (h : Related R x y) :
    (∃ a b, x = .ok a ∧ y = .ok b ∧ Related R a b) ∨ ∃ e e', x = .error e ∧ y = .error e' := by
  have related := h.rel
  cases x with
  | ok a =>
    cases y with
    | ok b => exact .inl ⟨a, b, rfl, rfl, ⟨related⟩⟩
    | error e => exact related.elim
  | error e =>
    cases y with
    | ok b => exact related.elim
    | error e' => exact .inr ⟨e, e', rfl, rfl⟩

theorem related_bind [Relatable α] [Relatable β] {x y : Shaped α} {f g : α → Shaped β}
    (h : Related R x y) (rest : ∀ a b, Related R a b → Related R (f a) (g b)) :
    Related R (x >>= f) (y >>= g) := by
  obtain ⟨a, b, rfl, rfl, inner⟩ | ⟨e, e', rfl, rfl⟩ := cases_of_related h
  · exact rest a b inner
  · exact ⟨trivial⟩

variable [Relatable α]

instance {a b : α} [h : Related R a b] : Related R (pure a : Shaped α) (pure b) := ⟨h.rel⟩

instance {a b : α} [h : Related R a b] : Related R (.ok a : Shaped α) (.ok b) := ⟨h.rel⟩

instance {e e' : ShapeError} : Related R (.error e : Shaped α) (.error e') := ⟨trivial⟩

instance {x y : Shaped Unit} {f g : Unit → Shaped α} [h : Related R x y]
    [h' : Related R (f ()) (g ())] : Related R (x >>= f) (y >>= g) :=
  related_bind h fun _ _ _ => h'

theorem related_forM [Relatable β] {as bs : List β} {f g : β → Shaped Unit} (h : Related R as bs)
    (each : ∀ a b, Related R a b → Related R (f a) (g b)) :
    Related R (as.forM f) (bs.forM g) := by
  have related := h.rel
  clear h
  induction related with
  | nil => exact ⟨rfl⟩
  | cons first _ rest => exact related_bind (each _ _ ⟨first⟩) fun _ _ _ => rest

end Shaped

namespace Check

variable (node : NodeKind) (slot : String) {t t' u u' : Token}

instance {expected : String} {b c : Bool} [Related R b c] :
    Related R (token node slot t expected b) (token node slot t' expected c) := by
  unfold token; infer_instance

variable [Related R t t'] [Related R u u']

instance (k : Keyword) : Related R (keyword node slot t k) (keyword node slot t' k) := by
  unfold keyword; infer_instance

instance (k : Keyword) {x y : Option Token} [h : Related R x y] :
    Related R (keyword? node slot x k) (keyword? node slot y k) := by
  obtain ⟨rfl, rfl⟩ | ⟨t, u, rfl, rfl, _⟩ := h.option <;> unfold keyword? <;> infer_instance

instance (k : TokenKind) [k.Quiet] (expected : String) :
    Related R (kind node slot t k expected) (kind node slot t' k expected) := by
  unfold kind; infer_instance

instance (k : TokenKind) [k.Quiet] (expected : String) :
    Related R (optionalKind node slot t k expected) (optionalKind node slot t' k expected) := by
  unfold optionalKind; infer_instance

instance : Related R (parens node t u) (parens node t' u') := by unfold parens; infer_instance

instance : Related R (terminator node t) (terminator node t') := by
  unfold terminator; infer_instance

instance : Related R (identifier node slot t) (identifier node slot t') := by
  unfold identifier; infer_instance

instance : Related R (variableName node slot t) (variableName node slot t') := by
  unfold variableName; infer_instance

instance : Related R (optionalAs node t) (optionalAs node t') := by
  unfold optionalAs; infer_instance

instance : Related R (parenPair node t u) (parenPair node t' u') := by
  have left : t.isPlaceholder = t'.isPlaceholder := Bool.eq_of_related (R := R) inferInstance
  have right : u.isPlaceholder = u'.isPlaceholder := Bool.eq_of_related (R := R) inferInstance
  unfold parenPair
  rw [left, right]
  infer_instance

end Check


/-! ### Expressions -/

section Nodes

variable {t t' u u' v v' w w' : Token} {e e' f f' g g' : Expr} {n n' : Name} {r r' : RawTokens}
  {x x' : Option Token} {a a' : Option Expr} {ts ts' : List Token} {es es' : List Expr}
  {tail tail' : Tail} {type type' : DataType} {c c' : Clause} {partition partition' : OverClause}
  {whens whens' : List WhenClause} {top top' : Option TopClause} {clauses clauses' : SelectClauses}
  {offset offset' : Option OffsetFetch} {p p' q q' : Option Clause} {frame frame' : Option RawTokens}
  {next next' : Option FetchClause} {ties ties' : Option (Token × Token)}

variable [Related R t t'] [Related R u u'] [Related R v v'] [Related R w w'] [Related R e e']
  [Related R f f'] [Related R g g'] [Related R n n'] [Related R r r'] [Related R x x']
  [Related R a a'] [Related R ts ts'] [Related R es es'] [Related R tail tail']
  [Related R type type'] [Related R c c'] [Related R partition partition'] [Related R whens whens']
  [Related R top top'] [Related R clauses clauses'] [Related R offset offset']
  [Related R p p'] [Related R q q'] [Related R frame frame'] [Related R next next']
  [hties : Related R ties ties']

theorem Expr.related_of_tree {e f : Expr} (h : Related R e.tree f.tree) : Related R e f := ⟨h.rel⟩

instance : Related R (Expr.literal t) (Expr.literal t') :=
  Expr.related_of_tree (by simp only [Expr.tree]; infer_instance)

instance : Related R (Expr.name n) (Expr.name n') :=
  Expr.related_of_tree (by simp only [Expr.tree]; infer_instance)

instance : Related R (Expr.unary t e) (Expr.unary t' e') :=
  Expr.related_of_tree (by simp only [Expr.tree]; infer_instance)

instance : Related R (Expr.binary e t f) (Expr.binary e' t' f') :=
  Expr.related_of_tree (by simp only [Expr.tree]; infer_instance)

instance : Related R (Expr.assignment e t f) (Expr.assignment e' t' f') :=
  Expr.related_of_tree (by simp only [Expr.tree]; infer_instance)

instance : Related R (Expr.isNull e t x u) (Expr.isNull e' t' x' u') :=
  Expr.related_of_tree (by simp only [Expr.tree]; infer_instance)

instance : Related R (Expr.like e x t f tail) (Expr.like e' x' t' f' tail') :=
  Expr.related_of_tree (by simp only [Expr.tree]; infer_instance)

instance : Related R (Expr.between e x t f u g) (Expr.between e' x' t' f' u' g') :=
  Expr.related_of_tree (by simp only [Expr.tree]; infer_instance)

instance : Related R (Expr.isIn e x t u f v) (Expr.isIn e' x' t' u' f' v') :=
  Expr.related_of_tree (by simp only [Expr.tree]; infer_instance)

instance : Related R (Expr.paren t e u) (Expr.paren t' e' u') :=
  Expr.related_of_tree (by simp only [Expr.tree]; infer_instance)

instance : Related R (Expr.call e t a u) (Expr.call e' t' a' u') :=
  Expr.related_of_tree (by simp only [Expr.tree]; infer_instance)

instance : Related R (Expr.window e partition) (Expr.window e' partition') :=
  Expr.related_of_tree (by simp only [Expr.tree]; infer_instance)

instance : Related R (Expr.cast t u e v type w) (Expr.cast t' u' e' v' type' w') :=
  Expr.related_of_tree (by simp only [Expr.tree]; infer_instance)

instance : Related R (Expr.case t a whens tail u) (Expr.case t' a' whens' tail' u') :=
  Expr.related_of_tree (by simp only [Expr.tree]; infer_instance)

instance : Related R (Expr.collate e t u) (Expr.collate e' t' u') :=
  Expr.related_of_tree (by simp only [Expr.tree]; infer_instance)

instance : Related R (Expr.list es ts) (Expr.list es' ts') :=
  Expr.related_of_tree (by simp only [Expr.tree]; infer_instance)

instance : Related R (Expr.aliased e t u) (Expr.aliased e' t' u') :=
  Expr.related_of_tree (by simp only [Expr.tree]; infer_instance)

instance : Related R (Expr.sort e t) (Expr.sort e' t') :=
  Expr.related_of_tree (by simp only [Expr.tree]; infer_instance)

instance : Related R (Expr.join e ts f tail) (Expr.join e' ts' f' tail') :=
  Expr.related_of_tree (by simp only [Expr.tree]; infer_instance)

instance : Related R (Expr.tableHint e t u f v) (Expr.tableHint e' t' u' f' v') :=
  Expr.related_of_tree (by simp only [Expr.tree]; infer_instance)

instance : Related R (Expr.select t x top e clauses) (Expr.select t' x' top' e' clauses') :=
  Expr.related_of_tree (by simp only [Expr.tree]; infer_instance)

instance : Related R (Expr.setOperation e t x f) (Expr.setOperation e' t' x' f') :=
  Expr.related_of_tree (by simp only [Expr.tree]; infer_instance)

instance : Related R (Expr.orderBy e c offset) (Expr.orderBy e' c' offset') :=
  Expr.related_of_tree (by simp only [Expr.tree]; infer_instance)

instance : Related R (Expr.queryOption e t r) (Expr.queryOption e' t' r') :=
  Expr.related_of_tree (by simp only [Expr.tree]; infer_instance)

instance : Related R (Expr.raw r) (Expr.raw r') :=
  Expr.related_of_tree (by simp only [Expr.tree]; infer_instance)

instance : Related R (OverClause.mk t u p q frame v) (OverClause.mk t' u' p' q' frame' v') := by
  have trees : Related R (OverClause.mk t u p q frame v).tree
      (OverClause.mk t' u' p' q' frame' v').tree := by
    simp only [OverClause.tree]
    infer_instance
  exact ⟨trees.rel⟩

instance : Related R (WhenClause.mk t e u f) (WhenClause.mk t' e' u' f') := by
  have trees : Related R (WhenClause.mk t e u f).tree (WhenClause.mk t' e' u' f').tree := by
    simp only [WhenClause.tree]
    infer_instance
  exact ⟨trees.rel⟩

instance : Related R (DataType.named n t a u) (DataType.named n' t' a' u') := by
  have trees : Related R (DataType.named n t a u).tree (DataType.named n' t' a' u').tree := by
    simp only [DataType.tree]
    infer_instance
  exact ⟨trees.rel⟩

instance : Related R (TableType.mk t u r v) (TableType.mk t' u' r' v') := by
  have trees : Related R (TableType.mk t u r v).tree (TableType.mk t' u' r' v').tree := by
    simp only [TableType.tree]
    infer_instance
  exact ⟨trees.rel⟩

instance {type type' : TableType} [Related R type type'] :
    Related R (DataType.table type) (DataType.table type') := by
  have trees : Related R (DataType.table type).tree (DataType.table type').tree := by
    simp only [DataType.tree]
    infer_instance
  exact ⟨trees.rel⟩

instance : Related R (TopClause.mk t u e v x ties) (TopClause.mk t' u' e' v' x' ties') := by
  have trees : Related R (TopClause.mk t u e v x ties).tree
      (TopClause.mk t' u' e' v' x' ties').tree := by
    simp only [TopClause.tree]
    obtain ⟨rfl, rfl⟩ | ⟨⟨a, b⟩, ⟨c, d⟩, rfl, rfl, pairs⟩ := hties.option
    · dsimp only [Option.map, Option.getD]
      infer_instance
    · obtain ⟨_, _, _, _, ⟨⟩, ⟨⟩, _, _⟩ := pairs.pair
      dsimp only [Option.map, Option.getD]
      infer_instance
  exact ⟨trees.rel⟩

instance : Related R (FetchClause.mk t u e v w) (FetchClause.mk t' u' e' v' w') := by
  have slots : Related R (FetchClause.optionalSlots (some ⟨t, u, e, v, w⟩))
      (FetchClause.optionalSlots (some ⟨t', u', e', v', w'⟩)) := by
    simp only [FetchClause.optionalSlots]
    infer_instance
  exact ⟨slots.rel⟩

instance : Related R (OffsetFetch.mk t e u next) (OffsetFetch.mk t' e' u' next') := by
  have trees : Related R (OffsetFetch.mk t e u next).tree (OffsetFetch.mk t' e' u' next').tree := by
    simp only [OffsetFetch.tree]
    infer_instance
  exact ⟨trees.rel⟩

end Nodes

end TransactSql
