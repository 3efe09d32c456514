import TransactSql.Edit.Rule
import TransactSql.Proofs.Edit.StatementWalks
import TransactSql.Proofs.RoundTrip

/-!
# Editing keeps documents well shaped

Hooks answer well-shaped nodes by well-shaped nodes, of whatever kind. A node whose new parts are
like the old ones is then well shaped again, and where they need not be like them the walk checks.
-/

namespace TransactSql

/-! ### What a stateful computation gives -/

/-- From every state the value satisfies `P`. -/
def Gives (m : StateM σ α) (P : α → Prop) : Prop := ∀ s, P (m s).1

namespace Gives

variable {P : α → Prop} {Q : β → Prop}

theorem pure {a : α} (h : P a) : Gives (Pure.pure a : StateM σ α) P := fun _ => h

theorem bind {m : StateM σ α} {f : α → StateM σ β} (first : Gives m P)
    (rest : ∀ a, P a → Gives (f a) Q) : Gives (m >>= f) Q :=
  fun s => rest _ (first s) _

end Gives

/-- A new value, if there is one, satisfies `p`. -/
def Option.Satisfies (p : α → Bool) (edit : Option α) : Prop := ∀ a, edit = some a → p a = true

namespace Edited

variable {p : α → Bool}

theorem satisfies_toEdit {x : Edited α} (h : p x.value = true) : Option.Satisfies p x.toEdit := by
  intro a edit
  unfold toEdit at edit
  split at edit
  · cases edit
    exact h
  · cases edit

theorem value_ofEdit {old : α} {edit : Option α} (kept : p old = true)
    (new : Option.Satisfies p edit) : p (ofEdit old edit).value = true := by
  cases edit with
  | none => exact kept
  | some a => exact new a rfl

/-- A node whose parts are refused is not edited. -/
theorem toCheckedEdit_of_error {x : Edited (Shaped α)} (h : x.value.isOk = false) :
    x.toCheckedEdit = none := by
  unfold toCheckedEdit
  split
  · cases made : x.value with
    | error e => rfl
    | ok b =>
      rw [made] at h
      cases h
  · rfl

end Edited

/-! ### What hooks promise -/

/-- The hook answers a node that satisfies `p` by nodes that satisfy `p`, if the walk it is handed
does. -/
def Hook.Keeps (p : α → Bool) (hook : Hook σ α) : Prop :=
  ∀ a walk, p a = true → Gives walk (Option.Satisfies p) → Gives (hook a walk) (Option.Satisfies p)

theorem Hook.keeps_descend (p : α → Bool) : (Hook.descend : Hook σ α).Keeps p :=
  fun _ _ _ given => given

namespace Editor

/-- Every hook answers well-shaped nodes by well-shaped nodes, of whatever kind. -/
structure KeepsShape (v : Editor σ) : Prop where
  expr : v.expr.Keeps Expr.wellShaped
  exprNode : v.exprNode.Keeps Expr.wellShaped
  dataType : v.dataType.Keeps DataType.wellShaped
  dataTypeNode : v.dataTypeNode.Keeps DataType.wellShaped
  statement : v.statement.Keeps Statement.wellShaped
  statementNode : v.statementNode.Keeps Statement.wellShaped
  statements : v.statements.Keeps Statement.allWellShaped

end Editor

/-! ### The walk -/

variable {v : Editor σ}

/-- The answer of a hook, or the old value, is well shaped. -/
theorem Gives.answered {p : α → Bool} {Like : α → α → Prop} {answer : StateM σ (Option α)} {a : α}
    (shape : p a = true) (like : ∀ b, Like b a) (given : Gives answer (Option.Satisfies p)) :
    Gives (do return Edited.ofEdit a (← answer) : StateM σ (Edited α))
      fun r => p r.value = true ∧ Like r.value a :=
  given.bind fun _ new => .pure ⟨Edited.value_ofEdit shape new, like _⟩

/-- What stands in the place of the old value is well shaped, so what the walk gave for it is. -/
theorem Gives.of_orOld {p : α → Bool} {Like : α → α → Prop} {walk : α → StateM σ (Option α)} {a : α}
    (given : Gives (Edited.orOld walk a) fun r => p r.value = true ∧ Like r.value a) :
    Gives (walk a) (Option.Satisfies p) := by
  intro s new edit
  have kept : p (Edited.ofEdit a (walk a s).1).value = true := (given s).1
  rwa [edit] at kept

theorem Walks.gives (hooks : v.KeepsShape) {A : Aspect α} {edit : α → StateM σ (Edited α)} {a : α}
    (walked : Walks v False A edit a) (shape : A.shaped a = true) :
    Gives (edit a) fun r => A.shaped r.value = true ∧ A.Like r.value a := by
  induction walked with
  | unchanged run _ =>
    rw [run]
    exact .pure ⟨shape, Aspect.like_refl _ _⟩
  | both _ _ first second =>
    obtain ⟨left, right⟩ := Bool.and_eq_true_iff.mp shape
    refine (first left).bind fun x ⟨xShape, xLike⟩ => ?_
    refine (second right).bind fun y ⟨yShape, yLike⟩ => ?_
    exact .pure ⟨Bool.and_eq_true_iff.mpr ⟨xShape, yShape⟩, xLike, yLike⟩
  | map encloses _ run here parts =>
    subst here
    obtain ⟨inner, new⟩ := encloses.shaped shape
    rw [run]
    refine (parts inner).bind fun x ⟨xShape, xLike⟩ => ?_
    exact .pure ⟨new x.value xLike xShape, encloses.like x.value xLike⟩
  | node encloses _ run here parts =>
    subst here
    obtain ⟨inner, new⟩ := encloses.shaped shape
    rw [run]
    refine (parts inner).bind fun ⟨x, changed⟩ ⟨xShape, xLike⟩ => .pure ?_
    rw [Edited.map_eq, Edited.ofEdit_toEdit]
    split
    · exact ⟨new x xLike xShape, encloses.like x xLike⟩
    · exact ⟨shape, Aspect.like_refl _ _⟩
  | checked encloses _ _ makes run here parts =>
    subst here
    obtain ⟨inner, new⟩ := encloses.shaped shape
    obtain ⟨-, inner⟩ := Bool.and_eq_true_iff.mp inner
    rw [run]
    refine (parts inner).bind fun ⟨x, changed⟩ ⟨xShape, xLike⟩ => .pure ?_
    rw [Edited.map_eq, Edited.ofEdit_toCheckedEdit _ (makes x)]
    split
    · next accepted =>
      obtain ⟨-, accepted⟩ := Bool.and_eq_true_iff.mp accepted
      exact ⟨new x xLike (Bool.and_eq_true_iff.mpr ⟨accepted, xShape⟩), encloses.like x xLike⟩
    · exact ⟨shape, Aspect.like_refl _ _⟩
  | @expr e _ walked =>
    have given : Gives (v.walkExpr e) (Option.Satisfies Expr.wellShaped) := by
      by_cases inner : e.kind = .literal
      · obtain ⟨t, rfl⟩ := Expr.exists_of_literal inner
        rw [Editor.walkExpr]
        exact .pure nofun
      · exact .of_orOld (walked inner shape)
    have inside := hooks.exprNode e _ shape given
    exact .answered shape (fun _ => False.elim) (hooks.expr e _ shape inside)
  | @dataType t _ walked =>
    have given := hooks.dataTypeNode t _ shape (.of_orOld (walked shape))
    exact .answered shape (fun _ => False.elim) (hooks.dataType t _ shape given)
  | @statement s _ walked =>
    have given := hooks.statementNode s _ shape (.of_orOld (walked shape))
    exact .answered shape (fun _ => trivial) (hooks.statement s _ shape given)
  | @statements ss _ walked =>
    have given : Gives (Edited.toEdit <$> v.walkStatements ss)
        (Option.Satisfies Statement.allWellShaped) :=
      fun s => Edited.satisfies_toEdit (walked shape s).1
    exact .answered shape (fun _ => trivial) (hooks.statements ss _ shape given)
  | @body b _ walked =>
    have edits : Gives (do return (Statement.block <$> (← v.walkBlock b)).toEdit)
        (Option.Satisfies Statement.wellShaped) :=
      (walked shape).bind fun _ made => .pure <| Edited.satisfies_toEdit <| by
        simpa [Edited.map_eq, Statement.wellShaped] using made.1
    have shape' : (Statement.block b).wellShaped = true := by
      simpa [Statement.wellShaped] using shape
    -- The hook may answer by a statement of any kind; only a block is put in the place of the body.
    refine (hooks.statementNode (.block b) _ shape' edits).bind fun edit new => ?_
    split
    · next made =>
      have accepted := new _ rfl
      exact .pure ⟨by simpa [Statement.wellShaped] using accepted, trivial⟩
    · exact .pure ⟨shape, trivial⟩

/-! ### Refused rebuilds -/

namespace Editor

/-- A node stays as it was if the checked construction refuses its edited parts, and so does the
body of a function that would become another statement than a block. -/
structure KeepsRefused (v : Editor σ) : Prop where
  assignment : ∀ {target op value s target' s₁ value' s₂},
    v.visitExpr target (v.walkExpr target) s = (target', s₁) →
    v.visitExpr value (v.walkExpr value) s₁ = (value', s₂) →
    (Checked.assignment target'.value op value'.value).isOk = false →
    v.walkExpr (.assignment target op value) s = (none, s₂)
  window : ∀ {function overClause s function' s₁ overClause' s₂},
    v.visitExpr function (v.walkExpr function) s = (function', s₁) →
    v.walkOver overClause s₁ = (overClause', s₂) →
    (Checked.window function'.value overClause'.value).isOk = false →
    v.walkExpr (.window function overClause) s = (none, s₂)
  varDecl : ∀ {d : VarDecl} {s type' s₁ value' s₂},
    v.visitDataType d.dataType (v.walkDataType d.dataType) s = (type', s₁) →
    v.walkTail d.value s₁ = (value', s₂) →
    (Checked.varDecl d.name d.asToken type'.value value'.value).isOk = false →
    v.walkVarDecl d s = (⟨d, false⟩, s₂)
  createView : ∀ {view : ViewDef} {s query' s₁},
    v.visitExpr view.query (v.walkExpr view.query) s = (query', s₁) →
    (Checked.createView { view with query := query'.value }).isOk = false →
    v.walkStatement (.createView view) s = (none, s₁)
  createScalarFunction : ∀ {signature type options asToken body s signature' s₁ type' s₂ body' s₃},
    v.walkSignature signature s = (signature', s₁) →
    v.visitDataType type (v.walkDataType type) s₁ = (type', s₂) →
    v.visitBody body (v.walkBlock body) s₂ = (body', s₃) →
    (Checked.createScalarFunction signature'.value type'.value options asToken
      body'.value).isOk = false →
    v.walkStatement (.createScalarFunction signature type options asToken body) s = (none, s₃)
  createInlineFunction : ∀ {f : InlineFunction} {s signature' s₁ query' s₂},
    v.walkSignature f.signature s = (signature', s₁) →
    v.visitExpr f.query (v.walkExpr f.query) s₁ = (query', s₂) →
    (Checked.createInlineFunction
      { f with signature := signature'.value, query := query'.value }).isOk = false →
    v.walkStatement (.createInlineFunction f) s = (none, s₂)
  body : ∀ {b : Block} {s edit s₁},
    v.statementNode (.block b) (return (.block <$> (← v.walkBlock b)).toEdit) s = (edit, s₁) →
    (∀ new, edit ≠ some (.block new)) →
    v.visitBody b (v.walkBlock b) s = (⟨b, false⟩, s₁)

theorem keepsRefused (v : Editor σ) : v.KeepsRefused where
  assignment := by
    intro target op value s target' s₁ value' s₂ first second refused
    rw [walkExpr, bind_run first, bind_run second]
    exact congrArg (·, s₂) (Edited.toCheckedEdit_of_error refused)
  window := by
    intro function overClause s function' s₁ overClause' s₂ first second refused
    rw [walkExpr, bind_run first, bind_run second]
    exact congrArg (·, s₂) (Edited.toCheckedEdit_of_error refused)
  varDecl := by
    intro d s type' s₁ value' s₂ first second refused
    rw [walkVarDecl, bind_run first, bind_run second]
    have kept := Edited.toCheckedEdit_of_error
      (x := Checked.varDecl d.name d.asToken <$> type' <*> value') refused
    rw [kept]
    rfl
  createView := by
    intro view s query' s₁ first refused
    rw [walkStatement, bind_run first]
    exact congrArg (·, s₁) (Edited.toCheckedEdit_of_error refused)
  createScalarFunction := by
    intro signature type options asToken body s signature' s₁ type' s₂ body' s₃ first second third
      refused
    rw [walkStatement, bind_run first, bind_run second, bind_run third]
    exact congrArg (·, s₃) (Edited.toCheckedEdit_of_error refused)
  createInlineFunction := by
    intro f s signature' s₁ query' s₂ first second refused
    rw [walkStatement, bind_run first, bind_run second]
    exact congrArg (·, s₂) (Edited.toCheckedEdit_of_error refused)
  body := by
    intro b s edit s₁ first other
    rw [visitBody, bind_run first]
    split
    · next new => exact absurd rfl (other new)
    · rfl

/-- An editor whose hooks answer well-shaped nodes by well-shaped ones, of whatever kind, turns
well-shaped trees into well-shaped trees. Where the edited parts do not fit their node, the node
stays as it was. -/
theorem walk_wellShaped {v : Editor σ} (keeps : v.KeepsShape) (s : σ) :
    (∀ e : Expr, e.wellShaped = true → ((v.walkExpr e s).1.getD e).wellShaped = true) ∧
    (∀ t : Statement, t.wellShaped = true → ((v.walkStatement t s).1.getD t).wellShaped = true) ∧
    (∀ ts : List Statement, Statement.allWellShaped ts = true →
      Statement.allWellShaped (v.walkStatements ts s).1.value = true) ∧
    (∀ d : Document, d.wellShaped = true → (d.edit v s).1.value.wellShaped = true) ∧
    v.KeepsRefused := by
  refine ⟨fun e shape => ?_, fun t shape => ?_, fun ts shape => ?_, fun d shape => ?_,
    v.keepsRefused⟩
  · by_cases inner : e.kind = .literal
    · obtain ⟨t, rfl⟩ := Expr.exists_of_literal inner
      rw [walkExpr]
      exact shape
    · exact ((walkExpr_walks e inner).gives keeps shape s).1
  · exact ((walkStatement_walks t).gives keeps shape s).1
  · exact ((walkStatements_walks ts).gives keeps shape s).1
  · exact ((Document.edit_walks d).gives keeps shape s).1

end Editor

/-! ### Replacement by pattern -/

theorem Rule.keeps_replacing {tree : α → Tree} {pattern : NodePattern} {order : RuleOrder} {new : α}
    {p : α → Bool} (shape : p new = true) :
    Hook.Keeps p (replacing tree pattern order new : Hook σ α) := by
  intro a walk kept given
  have replaced : Option.Satisfies p (some new) := by
    intro b same
    obtain rfl := Option.some.inj same
    exact shape
  cases order with
  | before =>
    unfold replacing
    dsimp only
    split
    · exact .pure replaced
    · exact given
  | after =>
    refine given.bind fun edit satisfied => .pure ?_
    split
    · exact replaced
    · exact satisfied

/-- Every name becomes `0`. The target of the assignment cannot, so the assignment stays. -/
theorem Editor.walk_wellShaped_names :
    let zero : Expr := .literal ⟨.literal .integer, "0", .zero, [], []⟩
    let v : Editor Unit :=
      { expr := Rule.replacing Expr.tree { kind := some "NameExpr" } .before zero }
    v.KeepsShape ∧ ∃ d, Document.parse .script "SELECT @x = a, f(b) OVER () FROM t;" = .ok d ∧
      d.wellShaped = true ∧ (d.edit v ()).1.value.wellShaped = true ∧
      (d.edit v ()).1.value.tree.clean = "SELECT @x = a, 0(0) OVER () FROM 0;" := by
  intro zero v
  have keeps : v.KeepsShape :=
    { expr := Rule.keeps_replacing (by decide +kernel)
      exprNode := Hook.keeps_descend _
      dataType := Hook.keeps_descend _
      dataTypeNode := Hook.keeps_descend _
      statement := Hook.keeps_descend _
      statementNode := Hook.keeps_descend _
      statements := Hook.keeps_descend _ }
  obtain ⟨d, parsed⟩ := exists_of_isOk
    (x := Document.parse .script "SELECT @x = a, f(b) OVER () FROM t;") (by decide +kernel)
  have evaluated : (Document.parse .script "SELECT @x = a, f(b) OVER () FROM t;").toOption.all
      (fun d => d.wellShaped &&
        (d.edit v ()).1.value.tree.clean == "SELECT @x = a, 0(0) OVER () FROM 0;") = true := by
    decide +kernel
  rw [parsed] at evaluated
  obtain ⟨shaped, rendered⟩ := Bool.and_eq_true_iff.mp evaluated
  have edited := (Editor.walk_wellShaped keeps ()).2.2.2.1 d shaped
  exact ⟨keeps, d, parsed, shaped, edited, beq_iff_eq.mp rendered⟩

end TransactSql
