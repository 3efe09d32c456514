import TransactSql.Proofs.Edit.StatementWalks

/-!
# Replacing a kind of expressions twice

The editor reads no state, so it does the same each time it meets a node. A node that was refused is
kept as it was, and the second pass refuses it again.
-/

namespace TransactSql

/-- Puts `new` in the place of every expression of the kind, and changes nothing else. -/
def Editor.replacingKind (kind : NodeKind) (new : Expr) : Editor σ where
  expr e walk := if e.kind = kind then return some new else walk

/-- The edit of `a` gives the same from every state. A second edit does not change what the first
one gives, if `given` holds, and the first one does not change what lacks the kind. -/
def Stabilizes (kind : NodeKind) (given : Prop) (A : Aspect α) (edit : α → StateM σ (Edited α))
    (a : α) : Prop :=
  ∃ r, edit a = pure r ∧ A.Like r.value a ∧ (given → edit r.value = pure ⟨r.value, false⟩) ∧
    (A.Lacks kind a → r = ⟨a, false⟩)

namespace Stabilizes

variable {kind : NodeKind} {given : Prop} {A : Aspect α} {B : Aspect β} {a : α} {b : β}
  {f : α → StateM σ (Edited α)} {edit : β → StateM σ (Edited β)} {g : α → β}

theorem same (unchanged : edit b = pure ⟨b, false⟩) : Stabilizes kind given B edit b :=
  ⟨⟨b, false⟩, unchanged, B.like_refl b, fun _ => unchanged, fun _ => rfl⟩

theorem both (first : Stabilizes kind given A f a) (second : Stabilizes kind given B edit b) :
    Stabilizes kind given (A.both B) (Edited.both f edit) (a, b) := by
  obtain ⟨x, run, like, again, free⟩ := first
  obtain ⟨y, run', like', again', free'⟩ := second
  refine ⟨Prod.mk <$> x <*> y, ?_, ⟨like, like'⟩, fun h => ?_, fun lacks => ?_⟩
  · simp only [Edited.both, run, run', pure_bind]
  · have again := again h
    have again' := again' h
    simp only [Edited.both, Edited.map_eq, Edited.seq_eq, again, again', pure_bind, Bool.or_false]
  · obtain ⟨left, right⟩ := List.forall_mem_append.mp lacks
    rw [free left, free' right]
    rfl

theorem map (encloses : Encloses A B g a) (parts : Stabilizes kind given A f a)
    (eq : ∀ a, edit (g a) = do return g <$> (← f a)) : Stabilizes kind given B edit (g a) := by
  obtain ⟨x, run, like, again, free⟩ := parts
  refine ⟨g <$> x, ?_, encloses.like _ like, fun h => ?_, fun lacks => ?_⟩
  · rw [eq, run, pure_bind]
  · rw [Edited.map_eq, eq, again h, pure_bind, Edited.map_eq]
  · rw [free (encloses.slots.1 kind lacks)]
    rfl

theorem node (encloses : Encloses A B g a) (parts : Stabilizes kind given A f a)
    (eq : ∀ a, edit (g a) = do return .ofEdit (g a) (g <$> (← f a)).toEdit) :
    Stabilizes kind given B edit (g a) := by
  obtain ⟨⟨x, changed⟩, run, like, again, free⟩ := parts
  cases changed with
  | false => exact .same (by rw [eq, run, pure_bind]; rfl)
  | true =>
    refine ⟨⟨g x, true⟩, ?_, encloses.like x like, fun h => ?_, fun lacks => ?_⟩
    · rw [eq, run, pure_bind]
      rfl
    · rw [eq, again h, pure_bind]
      rfl
    · cases free (encloses.slots.1 kind lacks)

theorem checked {make : α → Shaped β} (encloses : Encloses (A.checked make) B g a)
    (parts : Stabilizes kind given A f a) (makes : ∀ a, Shaped.Makes (make a) (g a))
    (eq : ∀ a, edit (g a) = do return .ofEdit (g a) (make <$> (← f a)).toCheckedEdit) :
    Stabilizes kind given B edit (g a) := by
  obtain ⟨⟨x, changed⟩, run, like, again, free⟩ := parts
  have outcome : edit (g a) =
      pure (if changed && (make x).isOk then ⟨g x, true⟩ else ⟨g a, false⟩) := by
    rw [eq, run, pure_bind, Edited.map_eq, Edited.ofEdit_toCheckedEdit _ (makes x)]
  by_cases accepted : (changed && (make x).isOk) = true
  · rw [if_pos accepted] at outcome
    refine ⟨⟨g x, true⟩, outcome, encloses.like x like, fun h => ?_, fun lacks => ?_⟩
    · rw [eq, again h, pure_bind]
      rfl
    · cases free (encloses.slots.1 kind lacks)
      cases accepted
  · rw [if_neg accepted] at outcome
    exact .same outcome

end Stabilizes

/-! ### The walk -/

namespace Editor

variable {kind : NodeKind} {new : Expr}

theorem editExpr_other {e : Expr} (other : e.kind ≠ kind) :
    (replacingKind kind new : Editor σ).editExpr e =
      Edited.orOld (replacingKind kind new).walkExpr e := by
  simp [editExpr, visitExpr, replacingKind, other, Hook.descend, Edited.orOld]

end Editor

theorem Expr.kind_mem_kinds (e : Expr) : e.kind ∈ e.tree.kinds := by
  cases e <;> simp [Expr.tree, Name.tree, RawTokens.tree, Tree.kinds_node, Expr.kind]

open Editor in
theorem Walks.stabilizes {kind : NodeKind} {new : Expr} {A : Aspect α}
    {edit : α → StateM σ (Edited α)} {a : α}
    (walked : Walks (replacingKind kind new) False A edit a) :
    Stabilizes kind ((replacingKind kind new : Editor σ).editExpr new = pure ⟨new, false⟩) A edit
      a := by
  induction walked with
  | unchanged run => exact .same run
  | both _ _ first second => exact .both first second
  | map encloses _ run here parts =>
    subst here
    exact .map encloses parts run
  | node encloses _ run here parts =>
    subst here
    exact .node encloses parts run
  | checked encloses _ _ makes run here parts =>
    subst here
    exact .checked encloses parts makes run
  | @expr e _ walked =>
    by_cases same : e.kind = kind
    · refine ⟨⟨new, true⟩, ?_, False.elim, fun stays => stays, fun lacks => ?_⟩
      · simp [editExpr, visitExpr, replacingKind, same, Edited.ofEdit]
      · have lacks : kind ∉ e.tree.kinds := by simpa [Aspect.Lacks] using lacks
        exact absurd (same ▸ e.kind_mem_kinds) lacks
    · have other : (replacingKind kind new : Editor σ).editExpr e =
          Edited.orOld (replacingKind kind new).walkExpr e := editExpr_other same
      by_cases inner : e.kind = .literal
      · obtain ⟨t, rfl⟩ := Expr.exists_of_literal inner
        exact .same (by rw [other, Edited.orOld, walkExpr]; rfl)
      · obtain ⟨r, run, like, again, free⟩ := walked inner
        refine ⟨r, other.trans run, False.elim, fun h => ?_, free⟩
        rw [editExpr_other (like.1 ▸ same), again h]
  | dataType _ walked => exact walked
  | statement _ walked => exact walked
  | statements _ walked => exact .node (.refl _ _) walked fun _ => rfl
  | body _ walked => exact .node (.refl _ _) walked fun b => visitBody_of_descend _ rfl b _

/-- A new expression without nodes of the kind is not edited itself. -/
theorem Editor.editExpr_new {kind : NodeKind} {new : Expr} (lacks : kind ∉ new.tree.kinds) :
    (replacingKind kind new : Editor σ).editExpr new = pure ⟨new, false⟩ := by
  obtain ⟨r, run, -, -, free⟩ := (Walks.expr (walkExpr_walks new)).stabilizes
  rw [run, free (by simp [Aspect.Lacks, lacks])]

/-- Putting an expression in the place of all those of a kind, which it holds none of, leaves
nothing to do for a second run, whatever has been refused in the first one. -/
theorem Document.edit_replacingKind_again {kind : NodeKind} {new : Expr}
    (lacks : kind ∉ new.tree.kinds) (d : Document) (s s' : σ) :
    let v : Editor σ := .replacingKind kind new
    let once := (d.edit v s).1.value
    once.edit v s' = (⟨once, false⟩, s') := by
  intro v once
  obtain ⟨r, run, -, again, -⟩ := (edit_walks d : Walks v False .document _ d).stabilizes
  have value : once = r.value := congrArg (fun m => (m s).1.value) run
  rw [value]
  exact congrFun (again (Editor.editExpr_new lacks)) s'

/-- Names become `0`, but for the one that is assigned to, since its assignment is refused then. -/
theorem Document.edit_replacingKind_again_names :
    ∃ d new, Document.parse .expression "SELECT @x = a, f(b) FROM t" = .ok d ∧
      parseExpression "0" = .ok new ∧ NodeKind.name ∉ new.tree.kinds ∧
      let v : Editor Unit := .replacingKind .name new
      let once := (d.edit v ()).1
      once.changed = true ∧ NodeKind.name ∈ once.value.tree.kinds ∧
        once.value.edit v () = (⟨once.value, false⟩, ()) := by
  obtain ⟨d, parsed⟩ := exists_of_isOk
    (x := Document.parse .expression "SELECT @x = a, f(b) FROM t") (by decide +kernel)
  obtain ⟨new, parsed'⟩ := exists_of_isOk (x := parseExpression "0") (by decide +kernel)
  have evaluated : (Document.parse .expression "SELECT @x = a, f(b) FROM t").toOption.all (fun d =>
      (parseExpression "0").toOption.all fun new =>
        let once := (d.edit (.replacingKind .name new : Editor Unit) ()).1
        !new.tree.kinds.contains .name && once.changed && once.value.tree.kinds.contains .name)
      = true := by
    decide +kernel
  rw [parsed, parsed'] at evaluated
  simp only [Except.toOption, Option.all_some, Bool.and_eq_true, Bool.not_eq_true',
    List.contains_eq_mem, decide_eq_true_eq, decide_eq_false_iff_not] at evaluated
  obtain ⟨⟨lacks, changed⟩, kept⟩ := evaluated
  exact ⟨d, new, parsed, parsed', lacks, changed, kept, edit_replacingKind_again lacks d () ()⟩

end TransactSql
