import TransactSql.Proofs.Edit.StatementWalks

/-!
# Editing literals

An editor that only answers at literals does to a document what the answers do to its outline: every
literal is asked for once, in source order, and nothing but the tokens of the answered literals
changes. The kinds of the nodes stay, so no rebuilt node is refused.
-/

namespace TransactSql

/-- Asks `f` for a new token at every literal, and changes nothing else. -/
def Editor.literals (f : Token → StateM σ (Option Token)) : Editor σ where
  exprNode e walk := match e with
    | .literal t => return (← f t).map .literal
    | _ => walk

/-- The edit does to `a` what asking `f` at the literals does to its slots. If it changes nothing it
gives `a` itself. -/
def Mirrors (f : Token → StateM σ (Option Token)) (A : Aspect α) (edit : α → StateM σ (Edited α))
    (a : α) : Prop :=
  ∀ s, ∃ x changed s', edit a s = (⟨x, changed⟩, s') ∧
    Tree.ask f (A.slots a) s = (⟨Tree.entries (A.slots x), changed⟩, s') ∧ A.Like x a ∧
    (changed = false → x = a)

namespace Mirrors

variable {f : Token → StateM σ (Option Token)} {A : Aspect α} {B : Aspect β} {a : α} {b : β}
  {g : α → β} {m : α → StateM σ (Edited α)} {edit : β → StateM σ (Edited β)}

theorem both (first : Mirrors f A m a) (second : Mirrors f B edit b) :
    Mirrors f (A.both B) (Edited.both m edit) (a, b) := by
  intro s
  obtain ⟨x, changed, s₁, run, asked, like, same⟩ := first s
  obtain ⟨y, changed', s₂, run', asked', like', same'⟩ := second s₁
  refine ⟨(x, y), changed || changed', s₂, ?_, ?_, ⟨like, like'⟩, fun unchanged => ?_⟩
  · exact (bind_run run).trans (bind_run run')
  · simp only [Aspect.both_slots, Tree.ask_append, asked, asked', Tree.entries, List.map_append]
  · obtain ⟨left, right⟩ := Bool.or_eq_false_iff.mp unchanged
    rw [same left, same' right]

/-- If no new parts are refused, the edit is that of the parts. -/
theorem enclosed (encloses : Encloses A B g a) (parts : Mirrors f A m a)
    (outcome : ∀ {x changed s s'}, m a s = (⟨x, changed⟩, s') → A.Like x a →
      (changed = false → x = a) → edit (g a) s = (⟨g x, changed⟩, s')) :
    Mirrors f B edit (g a) := by
  intro s
  obtain ⟨x, changed, s₁, run, asked, like, same⟩ := parts s
  refine ⟨g x, changed, s₁, outcome run like same, ?_, encloses.like x like,
    fun unchanged => congrArg g (same unchanged)⟩
  rw [encloses.slots.2 f x s like (by rw [asked]), asked]

theorem node (encloses : Encloses A B g a) (parts : Mirrors f A m a)
    (eq : ∀ a, edit (g a) = do return .ofEdit (g a) (g <$> (← m a)).toEdit) :
    Mirrors f B edit (g a) := by
  refine .enclosed encloses parts fun {x changed s s'} run _ same => ?_
  rw [eq, bind_run run, Edited.map_eq, Edited.ofEdit_toEdit]
  cases changed with
  | false => rw [same rfl]; rfl
  | true => rfl

theorem checked {make : α → Shaped β} (encloses : Encloses (A.checked make) B g a)
    (accepted : ∀ x, A.Like x a → (make x).isOk = true) (parts : Mirrors f A m a)
    (makes : ∀ a, Shaped.Makes (make a) (g a))
    (eq : ∀ a, edit (g a) = do return .ofEdit (g a) (make <$> (← m a)).toCheckedEdit) :
    Mirrors f B edit (g a) := by
  have parts : Mirrors f (A.checked make) m a := parts
  refine .enclosed encloses parts fun {x changed s s'} run like same => ?_
  rw [eq, bind_run run, Edited.map_eq, Edited.ofEdit_toCheckedEdit _ (makes x), accepted x like]
  cases changed with
  | false => rw [same rfl]; rfl
  | true => rfl

end Mirrors

/-! ### The walk -/

theorem Editor.editExpr_literal {f : Token → StateM σ (Option Token)} (t : Token) (s : σ) :
    (literals f).editExpr (.literal t) s =
      (⟨.literal ((f t s).1.getD t), (f t s).1.isSome⟩, (f t s).2) := by
  show (Edited.ofEdit (Expr.literal t) ((f t s).1.map Expr.literal), (f t s).2) = _
  cases (f t s).1 <;> rfl

open Editor in
theorem Walks.mirrors {f : Token → StateM σ (Option Token)} {A : Aspect α}
    {edit : α → StateM σ (Edited α)} {a : α} (walked : Walks (literals f) True A edit a)
    (shape : A.shaped a = true) : Mirrors f A edit a := by
  induction walked with
  | @unchanged _ A _ a run asked =>
    exact fun s => ⟨a, false, s, by rw [run]; rfl, asked f s, A.like_refl a, fun _ => rfl⟩
  | both _ _ first second =>
    obtain ⟨left, right⟩ := Bool.and_eq_true_iff.mp shape
    exact .both (first left) (second right)
  | map encloses _ run here parts =>
    subst here
    refine .enclosed encloses (parts (encloses.shaped shape).1) fun given _ _ => ?_
    rw [run, bind_run given]
    rfl
  | node encloses _ run here parts =>
    subst here
    exact .node encloses (parts (encloses.shaped shape).1) run
  | checked encloses accepts _ makes run here parts =>
    subst here
    obtain ⟨accepted, inner⟩ := Bool.and_eq_true_iff.mp (encloses.shaped shape).1
    exact .checked encloses (accepts trivial accepted) (parts inner) makes run
  | @expr e _ walked =>
    by_cases inner : e.kind = .literal
    · obtain ⟨t, rfl⟩ := Expr.exists_of_literal inner
      refine fun s => ⟨_, _, _, editExpr_literal t s, ?_, fun _ => ⟨rfl, rfl⟩, fun unchanged => ?_⟩
      · simp [Tree.ask_single, Tree.entries_single, Expr.tree, Tree.marks, Tree.outline,
          Tree.outlineOf, Edited.list_cons, Edited.list_nil]
      · rw [Option.not_isSome_iff_eq_none.mp (ne_true_of_eq_false unchanged)]
        rfl
    · have other : (literals f).editExpr e = Edited.orOld (literals f).walkExpr e := by
        cases e with
        | literal => exact absurd rfl inner
        | _ => rfl
      intro s
      obtain ⟨x, changed, s₁, run, asked, like, same⟩ := walked inner shape s
      exact ⟨x, changed, s₁, other ▸ run, asked, fun _ => ⟨like.1, like.2 trivial⟩, same⟩
  | dataType _ walked => exact walked shape
  | statement _ walked => exact walked shape
  | statements _ walked => exact .node (.refl _ _) (walked shape) fun _ => rfl
  | body _ walked =>
    exact .node (.refl _ _) (walked shape) fun b => visitBody_of_descend _ rfl b _

/-! ### The whole document -/

theorem Document.edit_outcome (f : Token → StateM σ (Option Token)) {d : Document}
    (shape : d.wellShaped = true) (s : σ) :
    let run := d.edit (.literals f) s
    let asked := (d.tree.literals.mapM f) s
    run.2 = asked.2 ∧ run.1.value.tree.marks = Mark.substitute d.tree.marks asked.1 ∧
      run.1.changed = asked.1.any Option.isSome ∧ (run.1.changed = false → run.1.value = d) := by
  have walked : Walks (.literals f) True .document (edit (.literals f)) d := edit_walks d
  obtain ⟨x, changed, s', run, asked, -, same⟩ := walked.mirrors shape s
  have asked : Tree.ask f [[d.tree]] s = (⟨Tree.entries [[x.tree]], changed⟩, s') := asked
  rw [Tree.ask_single, Tree.entries_single] at asked
  obtain ⟨edited, state⟩ := Prod.mk.inj asked
  obtain ⟨value, change⟩ := Edited.mk.inj edited
  have marks : Edited.list (Mark.edit f) d.tree.marks s = (⟨x.tree.marks, changed⟩, s') :=
    Prod.ext (congrArg₂ Edited.mk (List.cons.inj value).1 change) state
  rw [Mark.list_edit_eq] at marks
  rw [run]
  exact ⟨congrArg Prod.snd marks.symm, congrArg (·.1.value) marks.symm,
    congrArg (·.1.changed) marks.symm, same⟩

/-- Appends every token that `f` is asked for to a log. -/
def withLog (f : Token → StateM σ (Option Token)) (t : Token) :
    StateM (σ × List Token) (Option Token) := fun s =>
  ((f t s.1).1, (f t s.1).2, s.2 ++ [t])

theorem mapM_withLog (ts log : List Token) (s : σ) :
    ((ts.mapM (withLog f)) (s, log)).2 = (((ts.mapM f) s).2, log ++ ts) := by
  induction ts generalizing s log with
  | nil =>
    rw [List.mapM_nil, List.mapM_nil, List.append_nil]
    rfl
  | cons t ts ih => simp [Mark.mapM_cons_run, withLog, ih]

/-- An editor that answers at literals only asks for every literal once, in source order. The
outline of the new tree is that of the old one with the answers in the places of the literals, so
the nodes stay, and so does every other token. The document is unchanged if and only if no literal
got a new token, and then it is the old one. -/
theorem Document.edit_literals (f : Token → StateM σ (Option Token)) (d : Document)
    (shape : d.wellShaped = true) (s : σ) :
    let run := d.edit (.literals f) s
    let asked := (d.tree.literals.mapM f) s
    run.2 = asked.2 ∧
    (∀ log, (d.edit (.literals (withLog f)) (s, log)).2 = (asked.2, log ++ d.tree.literals)) ∧
    run.1.value.tree.kinds = d.tree.kinds ∧
    run.1.value.tree.marks = Mark.substitute d.tree.marks asked.1 ∧
    run.1.value.tree.tokens = (Mark.substitute d.tree.marks asked.1).filterMap Mark.filled? ∧
    (run.1.changed = false ↔ ∀ answer ∈ asked.1, answer = none) ∧
    (run.1.changed = false → run.1.value = d) ∧
    d.edit (.literals fun _ => pure none) s = (⟨d, false⟩, s) := by
  intro run asked
  obtain ⟨state, marks, changed, same⟩ := edit_outcome f shape s
  refine ⟨state, fun log => ?_, ?_, marks, ?_, ?_, same, ?_⟩
  · obtain ⟨logged, -, -, -⟩ := edit_outcome (withLog f) shape (s, log)
    exact logged.trans (mapM_withLog d.tree.literals log s)
  · exact (congrArg (List.filterMap Mark.kind?) marks).trans (Mark.kinds_substitute _ _)
  · exact (Tree.filled_outline false _).symm.trans (congrArg (List.filterMap Mark.filled?) marks)
  · show (d.edit (.literals f) s).1.changed = false ↔ _
    rw [changed, List.any_eq_false]
    simp [asked]
  · obtain ⟨state', -, changed', same'⟩ := edit_outcome (fun _ => pure none) shape s
    rw [List.mapM_pure] at state' changed'
    have unchanged : (d.edit (.literals fun _ => pure none) s).1.changed = false := by
      rw [changed']
      show (d.tree.literals.map fun _ => (none : Option Token)).any Option.isSome = false
      simp
    exact Prod.ext (congrArg₂ Edited.mk (same' unchanged) unchanged) state'

/-- Every `1` becomes `7`, and the literals are counted. -/
theorem Document.edit_literals_sevens :
    let f : Token → StateM Nat (Option Token) := fun t count =>
      (if t.text = "1" then some { t with text := "7" } else none, count + 1)
    ∃ d, Document.parse .script
        "IF @a = 1 SELECT TOP 5 CAST(y AS decimal(9, 1)) ELSE RETURN 1" = .ok d ∧
      d.wellShaped = true ∧ (d.edit (.literals f) 0).2 = 5 ∧
      (d.edit (.literals f) 0).1.value.tree.kinds = d.tree.kinds ∧
      (d.edit (.literals f) 0).1.value.tree.clean =
        "IF @a = 7 SELECT TOP 5 CAST(y AS decimal(9, 7)) ELSE RETURN 7" := by
  intro f
  obtain ⟨d, parsed⟩ := exists_of_isOk (x := Document.parse .script
    "IF @a = 1 SELECT TOP 5 CAST(y AS decimal(9, 1)) ELSE RETURN 1") (by decide +kernel)
  have evaluated : (Document.parse .script
      "IF @a = 1 SELECT TOP 5 CAST(y AS decimal(9, 1)) ELSE RETURN 1").toOption.all
      (fun d => d.wellShaped && (d.edit (.literals f) 0).2 == 5 &&
        (d.edit (.literals f) 0).1.value.tree.clean ==
          "IF @a = 7 SELECT TOP 5 CAST(y AS decimal(9, 7)) ELSE RETURN 7") = true := by
    decide +kernel
  rw [parsed] at evaluated
  simp only [Except.toOption, Option.all_some, Bool.and_eq_true, beq_iff_eq] at evaluated
  obtain ⟨⟨shaped, counted⟩, rendered⟩ := evaluated
  obtain ⟨-, -, kinds, -⟩ := Document.edit_literals f d shaped 0
  exact ⟨d, parsed, shaped, counted, kinds, rendered⟩

end TransactSql
