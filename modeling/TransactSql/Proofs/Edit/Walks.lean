import TransactSql.Proofs.Edit.Outline
import TransactSql.Proofs.Edit.WellShaped
import TransactSql.Proofs.Grammar.RoutineYield

/-!
# How a tree is walked

The default walk edits the parts of a node in the order of its slots and makes a node of what they
became. `Walks` tells this part by part, in one case for each way in which an edit is put together.
What holds of every walk is proved by induction on these cases, without another look at the nodes.
-/

namespace TransactSql

/-! ### Edits -/

theorem bind_run {m : StateM σ α} {f : α → StateM σ β} {s s' : σ} {a : α} (h : m s = (a, s')) :
    (m >>= f) s = f a s' := by
  show (match m s with | (a, s') => f a s') = f a s'
  rw [h]

namespace Edited

/-- Edits both parts of a pair, the first one first. -/
def both (f : α → StateM σ (Edited α)) (g : β → StateM σ (Edited β)) (p : α × β) :
    StateM σ (Edited (α × β)) := do
  let a ← f p.1
  let b ← g p.2
  return Prod.mk <$> a <*> b

/-- The edit that keeps what a walk gives nothing for. -/
def orOld (walk : α → StateM σ (Option α)) (a : α) : StateM σ (Edited α) :=
  return .ofEdit a (← walk a)

theorem ofEdit_toEdit (old new : α) (changed : Bool) :
    ofEdit old (toEdit ⟨new, changed⟩) = if changed then ⟨new, true⟩ else ⟨old, false⟩ := by
  cases changed <;> rfl

/-- What is refused is not put in the place of the old value. -/
theorem ofEdit_toCheckedEdit (old : α) {make : Shaped α} {new : α} (makes : make.Makes new)
    (changed : Bool) :
    ofEdit old (toCheckedEdit ⟨make, changed⟩) =
      if changed && make.isOk then ⟨new, true⟩ else ⟨old, false⟩ := by
  cases changed with
  | false => rfl
  | true =>
    cases made : make with
    | error => rfl
    | ok b =>
      obtain rfl := makes.eq made
      rfl

end Edited

namespace Editor

variable (v : Editor σ)

def editExpr (e : Expr) : StateM σ (Edited Expr) := v.visitExpr e (v.walkExpr e)

def editDataType (t : DataType) : StateM σ (Edited DataType) := v.visitDataType t (v.walkDataType t)

def editStatement (s : Statement) : StateM σ (Edited Statement) :=
  v.visitStatement s (v.walkStatement s)

def editStatements (ss : List Statement) : StateM σ (Edited (List Statement)) :=
  v.visitStatements ss (v.walkStatements ss)

def editBody (b : Block) : StateM σ (Edited Block) := v.visitBody b (v.walkBlock b)

/-- Without a hook that answers at it, the body of a function is edited as a node is. -/
theorem visitBody_of_descend (descends : v.statementNode = Hook.descend) (b : Block)
    (walk : StateM σ (Edited Block)) :
    v.visitBody b walk = do return .ofEdit b (← walk).toEdit := by
  simp only [visitBody, descends, Hook.descend, bind_assoc, pure_bind]
  congr
  funext r
  obtain ⟨b', _ | _⟩ := r <;> rfl

end Editor

/-! ### Slots -/

namespace Tree

@[simp]
theorem kinds_token (t : Token) : (token t).kinds = [] := rfl

theorem kinds_outlineOf (ofLiteral : Bool) (slots : List Tree) :
    (outlineOf ofLiteral slots).filterMap Mark.kind? = slots.flatMap kinds := by
  induction slots with
  | nil => simp [outlineOf]
  | cons slot slots ih =>
    have first : (slot.outline ofLiteral).filterMap Mark.kind? = slot.kinds := by
      cases slot with
      | token t => cases ofLiteral <;> rfl
      | node => simp only [kinds, marks, outline]
    rw [outlineOf, List.filterMap_append, ih, first, List.flatMap_cons]

theorem kinds_node (kind : NodeKind) (slots : List Tree) :
    (node kind slots).kinds = kind :: slots.flatMap kinds := by
  rw [kinds, marks, outline, List.filterMap_cons]
  exact congrArg (kind :: ·) (kinds_outlineOf _ slots)

/-- No node of the kind is in the slots. -/
def Lacks (kind : NodeKind) (slots : List Tree) : Prop := ∀ t ∈ slots, kind ∉ t.kinds

section

variable {kind : NodeKind}

@[simp]
theorem lacks_nil : Lacks kind [] := by simp [Lacks]

@[simp]
theorem lacks_cons {t : Tree} {slots : List Tree} :
    Lacks kind (t :: slots) ↔ kind ∉ t.kinds ∧ Lacks kind slots := by
  simp [Lacks]

@[simp]
theorem lacks_append {slots more : List Tree} :
    Lacks kind (slots ++ more) ↔ Lacks kind slots ∧ Lacks kind more := by
  simp [Lacks, or_imp, forall_and]

@[simp]
theorem lacks_node {k : NodeKind} {slots : List Tree} :
    kind ∉ (node k slots).kinds ↔ kind ≠ k ∧ Lacks kind slots := by
  simp [kinds_node, Lacks]

@[simp]
theorem lacks_map {slot : α → Tree} {as : List α} :
    Lacks kind (as.map slot) ↔ ∀ a ∈ as, kind ∉ (slot a).kinds := by
  simp [Lacks]

@[simp]
theorem lacks_interleave {items : List Tree} {separators : List Token} :
    Lacks kind (interleave items separators) ↔ Lacks kind items := by
  fun_induction interleave items separators with
  | case1 item next items s ss ih => simp [ih]
  | case2 => rfl

end

end Tree

/-! ### Literals in slots -/

attribute [local simp] Tree.outline Tree.outlineOf Tree.outlineOf_append Edited.list_nil
  Edited.list_cons Edited.list_append

namespace Tree

@[simp]
theorem outlineOf_tokens (ts : List Token) : outlineOf false (ts.map .token) = ts.map .token := by
  induction ts with
  | nil => rfl
  | cons t ts ih => simp [ih]

@[simp]
theorem outlineOf_optional (t : Option Token) :
    outlineOf false (t.map Tree.token).toList = t.toList.map .token := by
  cases t <;> simp

/-- The separator between an item and the rest, if there is both a separator and a rest. -/
def gap (rest : List Tree) (separators : List Token) : List Token :=
  if rest.isEmpty then [] else separators.head?.toList

theorem outlineOf_interleave (item : Tree) (rest : List Tree) (separators : List Token) :
    outlineOf false (interleave (item :: rest) separators) =
      item.outline false ++ ((gap rest separators).map .token
        ++ outlineOf false (interleave rest separators.tail)) := by
  cases rest with
  | nil => simp [interleave, gap]
  | cons next rest => cases separators <;> simp [interleave, gap]

end Tree

namespace Mark

variable {f : Token → StateM σ (Option Token)}

@[simp]
theorem list_edit_tokens (ts : List Token) (s : σ) :
    Edited.list (edit f) (ts.map .token) s = (⟨ts.map .token, false⟩, s) := by
  induction ts with
  | nil => rfl
  | cons t ts ih => simp [ih]

theorem list_edit_names (ts separators : List Token) (s : σ) :
    Edited.list (edit f) (Tree.outlineOf false (Tree.interleave (ts.map .token) separators)) s =
      (⟨Tree.outlineOf false (Tree.interleave (ts.map .token) separators), false⟩, s) := by
  induction ts generalizing separators with
  | nil => simp [Tree.interleave]
  | cons t ts ih => simp [Tree.outlineOf_interleave, ih]

/-- An optional node without literals. -/
theorem list_edit_optional {slot : α → Tree}
    (fixed : ∀ a s, Edited.list (edit f) ((slot a).outline false) s =
      (⟨(slot a).outline false, false⟩, s)) (a : Option α) (s : σ) :
    Edited.list (edit f) (Tree.outlineOf false (a.map slot).toList) s =
      (⟨Tree.outlineOf false (a.map slot).toList, false⟩, s) := by
  cases a <;> simp [fixed]

/-- Optional slots without literals. -/
theorem list_edit_optionalSlots {slots : α → List Tree}
    (fixed : ∀ a s, Edited.list (edit f) (Tree.outlineOf false (slots a)) s =
      (⟨Tree.outlineOf false (slots a), false⟩, s)) (a : Option α) (s : σ) :
    Edited.list (edit f) (Tree.outlineOf false ((a.map slots).getD [])) s =
      (⟨Tree.outlineOf false ((a.map slots).getD []), false⟩, s) := by
  cases a <;> simp [fixed]

end Mark

namespace Tree

/-- Asks `f` for new tokens at the literals of one part after the other. -/
def ask (f : Token → StateM σ (Option Token)) (parts : List (List Tree)) :
    StateM σ (Edited (List (List Mark))) :=
  Edited.list (Edited.list (Mark.edit f)) (parts.map (outlineOf false))

/-- The entries of each part. -/
def entries (parts : List (List Tree)) : List (List Mark) := parts.map (outlineOf false)

theorem entries_single (t : Tree) : entries [[t]] = [t.marks] := by simp [entries, marks]

theorem ask_single (f : Token → StateM σ (Option Token)) (t : Tree) (s : σ) :
    ask f [[t]] s =
      let edited := Edited.list (Mark.edit f) t.marks s
      (⟨[edited.1.value], edited.1.changed⟩, edited.2) := by
  simp [ask, marks]

theorem ask_append (f : Token → StateM σ (Option Token)) (parts more : List (List Tree)) (s : σ) :
    ask f (parts ++ more) s =
      let first := ask f parts s
      let rest := ask f more first.2
      (⟨first.1.value ++ rest.1.value, first.1.changed || rest.1.changed⟩, rest.2) := by
  simp only [ask, List.map_append, Edited.list_append]

/-- The separators between the items of a list are tokens, so they stay where they are. -/
theorem ask_interleave {f : Token → StateM σ (Option Token)} {slot : α → Tree}
    {parts : α → List (List Tree)} {as bs : List α} (separators : List Token) {s : σ}
    (same : bs.length = as.length)
    (asked : (ask f (as.flatMap parts) s).1.value = entries (bs.flatMap parts))
    (single : ∀ a, parts a = [[slot a]]) :
    Edited.list (Mark.edit f) (outlineOf false (interleave (as.map slot) separators)) s =
      (⟨outlineOf false (interleave (bs.map slot) separators),
        (ask f (as.flatMap parts) s).1.changed⟩, (ask f (as.flatMap parts) s).2) := by
  obtain rfl := funext single
  induction as generalizing bs separators s with
  | nil =>
    obtain rfl := List.eq_nil_of_length_eq_zero same
    simp [ask, interleave]
  | cons a as ih =>
    cases bs with
    | nil => cases same
    | cons b bs =>
      have same : bs.length = as.length := Nat.succ.inj same
      have between : gap (bs.map slot) separators = gap (as.map slot) separators := by
        cases as <;> cases bs <;> simp_all [gap]
      simp only [List.flatMap_cons, List.singleton_append, ask, entries, List.map_cons,
        Edited.list_cons, List.cons.injEq] at asked
      obtain ⟨first, rest⟩ := asked
      have rest := ih separators.tail same rest
      simp_all [outlineOf_interleave, ask]

end Tree

/-! ### Aspects -/

/-- How a value is seen from the nodes around it. -/
structure Aspect (α : Type) where
  shaped : α → Bool
  /-- The checks of the nodes around the second value cannot tell the first one from it. -/
  Like : α → α → Prop
  like_refl : ∀ a, Like a a
  /-- The slots of each part. -/
  slots : α → List (List Tree)

namespace Aspect

/-- No check looks at more than whether the value is well shaped. -/
@[simps]
def plain (shaped : α → Bool) (slots : α → List Tree) : Aspect α where
  shaped
  Like _ _ := True
  like_refl _ := trivial
  slots a := [slots a]

/-- Checks look at what is told of the value, besides. -/
@[simps]
def telling (shaped : α → Bool) (slots : α → List Tree) (told : α → β) : Aspect α where
  shaped
  Like a b := told a = told b
  like_refl _ := rfl
  slots a := [slots a]

@[simps]
def both (A : Aspect α) (B : Aspect β) : Aspect (α × β) where
  shaped p := A.shaped p.1 && B.shaped p.2
  Like p q := A.Like p.1 q.1 ∧ B.Like p.2 q.2
  like_refl p := ⟨A.like_refl p.1, B.like_refl p.2⟩
  slots p := A.slots p.1 ++ B.slots p.2

@[simps]
def list (A : Aspect α) : Aspect (List α) where
  shaped as := as.all A.shaped
  Like as bs := as.length = bs.length
  like_refl _ := rfl
  slots as := as.flatMap A.slots

/-- Only what is accepted is well shaped. -/
@[simps]
def checked (A : Aspect α) (make : α → Shaped β) : Aspect α where
  shaped a := (make a).isOk && A.shaped a
  Like := A.Like
  like_refl := A.like_refl
  slots := A.slots

/-- No node of the kind is in the slots. -/
def Lacks (A : Aspect α) (kind : NodeKind) (a : α) : Prop :=
  ∀ slots ∈ A.slots a, Tree.Lacks kind slots

end Aspect

/-- What of the parts `a` decides about the value that `g` makes of them. -/
structure Encloses (A : Aspect α) (B : Aspect β) (g : α → β) (a : α) : Prop where
  /-- Well-shaped parts may take the place of those of a well-shaped value if they are like them. -/
  shaped : B.shaped (g a) = true → A.shaped a = true ∧
    ∀ x, A.Like x a → A.shaped x = true → B.shaped (g x) = true
  like : ∀ x, A.Like x a → B.Like (g x) (g a)
  /-- The nodes and literals of the parts are among those of the value, and it has no literal
  besides them. -/
  slots : (∀ kind, B.Lacks kind (g a) → A.Lacks kind a) ∧
    ∀ {σ : Type} (f : Token → StateM σ (Option Token)) x s, A.Like x a →
      (Tree.ask f (A.slots a) s).1.value = Tree.entries (A.slots x) →
      Tree.ask f (B.slots (g a)) s =
        (⟨Tree.entries (B.slots (g x)), (Tree.ask f (A.slots a) s).1.changed⟩,
          (Tree.ask f (A.slots a) s).2)

theorem Encloses.refl (A : Aspect α) (a : α) : Encloses A A id a where
  shaped := fun shape => ⟨shape, fun _ _ => id⟩
  like := fun _ => id
  slots := ⟨fun _ => id, fun _ _ _ _ asked => Prod.ext (congrArg₂ Edited.mk asked rfl) rfl⟩

theorem Encloses.cons (A : Aspect α) (a : α) (as : List α) :
    Encloses (A.both A.list) A.list (fun p => p.1 :: p.2) (a, as) where
  shaped := by simp +contextual
  like := fun _ like => congrArg (· + 1) like.2
  slots := by
    refine ⟨fun kind lacks => by simpa [Aspect.Lacks] using lacks, fun f x s _ asked => ?_⟩
    exact Prod.ext (congrArg₂ Edited.mk (by simpa using asked) rfl) rfl

/-! ### Walks -/

theorem Expr.exists_of_literal {e : Expr} (literal : e.kind = .literal) : ∃ t, e = .literal t := by
  cases e with
  | literal t => exact ⟨t, rfl⟩
  | _ => cases literal

namespace Aspect

/-- An expression that hooks have answered. Its kind is the old one only if they keep kinds. -/
@[simps]
def expr (keeps : Prop) : Aspect Expr where
  shaped := Expr.wellShaped
  Like a b := keeps → a.kind = b.kind ∧ a.isQuery = b.isQuery
  like_refl _ _ := ⟨rfl, rfl⟩
  slots e := [[e.tree]]

/-- An expression of which the parts have been edited, and no more. -/
@[simps]
def exprNode (keeps : Prop) : Aspect Expr where
  shaped := Expr.wellShaped
  Like a b := a.kind = b.kind ∧ (keeps → a.isQuery = b.isQuery)
  like_refl _ := ⟨rfl, fun _ => rfl⟩
  slots e := [[e.tree]]

@[simps]
def dataType (keeps : Prop) : Aspect DataType where
  shaped := DataType.wellShaped
  Like a b := keeps → a.isTable = b.isTable
  like_refl _ _ := rfl
  slots t := [[t.tree]]

abbrev statement : Aspect Statement := plain Statement.wellShaped fun s => [s.tree]

abbrev statements : Aspect (List Statement) := plain Statement.allWellShaped Statement.slotsOf

abbrev block : Aspect Block := plain Block.wellShaped fun b => [b.tree]

end Aspect

/-- How the edit of a value is put together of the edits of its parts and the answers of hooks. The
proposition tells whether hooks keep the kinds of the nodes they are asked at. -/
inductive Walks (v : Editor σ) (keeps : Prop) :
    {α : Type} → Aspect α → (α → StateM σ (Edited α)) → α → Prop
  /-- What has no parts to edit stays. -/
  | unchanged {α : Type} {A : Aspect α} {edit : α → StateM σ (Edited α)} {a : α}
    (run : edit a = pure ⟨a, false⟩)
    (asked : ∀ (f : Token → StateM σ (Option Token)) s,
      Tree.ask f (A.slots a) s = (⟨Tree.entries (A.slots a), false⟩, s)) :
    Walks v keeps A edit a
  | both {α β : Type} {A : Aspect α} {B : Aspect β} {f : α → StateM σ (Edited α)}
    {g : β → StateM σ (Edited β)} {a : α} {b : β} (first : Walks v keeps A f a)
    (second : Walks v keeps B g b) : Walks v keeps (A.both B) (Edited.both f g) (a, b)
  | map {α β : Type} {A : Aspect α} {B : Aspect β} {f : α → StateM σ (Edited α)}
    {edit : β → StateM σ (Edited β)} {g : α → β} {a : α} {b : β} (encloses : Encloses A B g a)
    (parts : Walks v keeps A f a) (run : ∀ x, edit (g x) = do return g <$> (← f x))
    (here : g a = b) : Walks v keeps B edit b
  /-- A node is put in the place of the old one if a part of it changed. -/
  | node {α β : Type} {A : Aspect α} {B : Aspect β} {f : α → StateM σ (Edited α)}
    {edit : β → StateM σ (Edited β)} {g : α → β} {a : α} {b : β} (encloses : Encloses A B g a)
    (parts : Walks v keeps A f a)
    (run : ∀ x, edit (g x) = do return .ofEdit (g x) (g <$> (← f x)).toEdit) (here : g a = b) :
    Walks v keeps B edit b
  /-- A node that is checked anew is kept if its new parts are refused. -/
  | checked {α β : Type} {A : Aspect α} {B : Aspect β} {f : α → StateM σ (Edited α)}
    {edit : β → StateM σ (Edited β)} {g : α → β} {a : α} {b : β} {make : α → Shaped β}
    (encloses : Encloses (A.checked make) B g a)
    (accepts : keeps → (make a).isOk = true → ∀ x, A.Like x a → (make x).isOk = true)
    (parts : Walks v keeps A f a) (makes : ∀ x, Shaped.Makes (make x) (g x))
    (run : ∀ x, edit (g x) = do return .ofEdit (g x) (make <$> (← f x)).toCheckedEdit)
    (here : g a = b) : Walks v keeps B edit b
  | expr {e : Expr}
    (walk : e.kind ≠ .literal → Walks v keeps (.exprNode keeps) (Edited.orOld v.walkExpr) e) :
    Walks v keeps (.expr keeps) v.editExpr e
  | dataType {t : DataType}
    (walk : Walks v keeps (.dataType keeps) (Edited.orOld v.walkDataType) t) :
    Walks v keeps (.dataType keeps) v.editDataType t
  | statement {s : Statement} (walk : Walks v keeps .statement (Edited.orOld v.walkStatement) s) :
    Walks v keeps .statement v.editStatement s
  | statements {ss : List Statement} (walk : Walks v keeps .statements v.walkStatements ss) :
    Walks v keeps .statements v.editStatements ss
  | body {b : Block} (walk : Walks v keeps .block v.walkBlock b) :
    Walks v keeps .block v.editBody b

namespace Walks

variable {v : Editor σ} {keeps : Prop} {A : Aspect α} {edit : α → StateM σ (Edited α)}

theorem list (each : ∀ a, Walks v keeps A edit a) (as : List α) :
    Walks v keeps A.list (Edited.list edit) as := by
  induction as with
  | nil => exact .unchanged rfl fun f s => rfl
  | cons a as ih => exact .map (.cons A a as) (.both (each a) ih) (fun _ => rfl) rfl

end Walks

end TransactSql
