import TransactSql.Edit.Edited
import TransactSql.Tree.Basic

/-!
# Outlines of trees

The outline of a tree is all there is in it, flat and in source order: its nodes, each before its
slots, and the tokens of the slots, placeholders included. The token of a literal is told apart
from the others, so that it can be replaced where it stands.
-/

namespace TransactSql

/-- An entry of an outline. -/
inductive Mark where
  | node (kind : NodeKind)
  /-- The token of a literal. -/
  | literal (t : Token)
  /-- Any other token, or a placeholder. -/
  | token (t : Token)
deriving Repr, DecidableEq

namespace Mark

def kind? : Mark → Option NodeKind
  | .node kind => some kind
  | _ => none

def literal? : Mark → Option Token
  | .literal t => some t
  | _ => none

/-- The token of a slot that is filled. -/
def filled? : Mark → Option Token
  | .node _ => none
  | .literal t | .token t => if t.isPlaceholder then none else some t

/-- Asks `f` for a new token if the entry is a literal. -/
def edit (f : Token → StateM σ (Option Token)) : Mark → StateM σ (Edited Mark)
  | .literal t => return .literal <$> .ofEdit t (← f t)
  | m => return ⟨m, false⟩

/-- Puts the answers in the places of the literals, in order. A literal without a new token
stays. -/
def substitute : List Mark → List (Option Token) → List Mark
  | .literal t :: ms, answer :: answers => .literal (answer.getD t) :: substitute ms answers
  | m :: ms, answers => m :: substitute ms answers
  | [], _ => []

end Mark

namespace Tree

mutual

def outline (ofLiteral : Bool) : Tree → List Mark
  | .token t => if ofLiteral then [.literal t] else [.token t]
  | .node kind slots => .node kind :: outlineOf (decide (kind = .literal)) slots

def outlineOf (ofLiteral : Bool) : List Tree → List Mark
  | [] => []
  | slot :: slots => slot.outline ofLiteral ++ outlineOf ofLiteral slots

end

/-- The entries of a tree. -/
def marks (t : Tree) : List Mark := t.outline false

/-- The kinds of all nodes, each before those in its slots. -/
def kinds (t : Tree) : List NodeKind := t.marks.filterMap Mark.kind?

/-- The tokens of the literals, in source order. -/
def literals (t : Tree) : List Token := t.marks.filterMap Mark.literal?

theorem outlineOf_append (ofLiteral : Bool) (slots more : List Tree) :
    outlineOf ofLiteral (slots ++ more) = outlineOf ofLiteral slots ++ outlineOf ofLiteral more := by
  induction slots with
  | nil => rfl
  | cons slot slots ih => rw [List.cons_append, outlineOf, outlineOf, ih, List.append_assoc]

mutual

theorem filled_outline (ofLiteral : Bool) : ∀ t : Tree,
    (t.outline ofLiteral).filterMap Mark.filled? = t.tokens
  | .token t => by
    rw [outline, tokens]
    cases ofLiteral <;> by_cases absent : t.isPlaceholder = true <;> simp [Mark.filled?, absent]
  | .node kind slots => by
    rw [outline, tokens, List.filterMap_cons]
    exact filled_outlineOf (decide (kind = .literal)) slots

theorem filled_outlineOf (ofLiteral : Bool) : ∀ slots : List Tree,
    (outlineOf ofLiteral slots).filterMap Mark.filled? = tokensOf slots
  | [] => by rw [outlineOf, tokensOf, List.filterMap_nil]
  | slot :: slots => by
    rw [outlineOf, tokensOf, List.filterMap_append, filled_outline, filled_outlineOf]

end

end Tree

/-! ### Editing outlines -/

namespace Edited

theorem map_eq (g : α → β) (x : Edited α) : g <$> x = ⟨g x.value, x.changed⟩ := rfl

theorem seq_eq (g : Edited (α → β)) (x : Edited α) :
    g <*> x = ⟨g.value x.value, g.changed || x.changed⟩ := rfl

variable {edit : α → StateM σ (Edited α)}

theorem list_nil (s : σ) : list edit [] s = (⟨[], false⟩, s) := rfl

theorem list_cons (a : α) (as : List α) (s : σ) :
    list edit (a :: as) s =
      let first := edit a s
      let rest := list edit as first.2
      (⟨first.1.value :: rest.1.value, first.1.changed || rest.1.changed⟩, rest.2) := rfl

theorem list_append (as bs : List α) (s : σ) :
    list edit (as ++ bs) s =
      let first := list edit as s
      let rest := list edit bs first.2
      (⟨first.1.value ++ rest.1.value, first.1.changed || rest.1.changed⟩, rest.2) := by
  induction as generalizing s with
  | nil => rfl
  | cons a as ih => simp [list_cons, ih, Bool.or_assoc]

end Edited

namespace Mark

variable {f : Token → StateM σ (Option Token)}

@[simp]
theorem edit_node (kind : NodeKind) (s : σ) : edit f (.node kind) s = (⟨.node kind, false⟩, s) := rfl

@[simp]
theorem edit_token (t : Token) (s : σ) : edit f (.token t) s = (⟨.token t, false⟩, s) := rfl

@[simp]
theorem edit_literal (t : Token) (s : σ) :
    edit f (.literal t) s = (⟨.literal (((f t) s).1.getD t), ((f t) s).1.isSome⟩, ((f t) s).2) := rfl

theorem mapM_cons_run (t : Token) (ts : List Token) (s : σ) :
    ((t :: ts).mapM f) s =
      let first := f t s
      let rest := (ts.mapM f) first.2
      (first.1 :: rest.1, rest.2) := by
  rw [List.mapM_cons]
  rfl

/-- The literals of an outline are asked for from left to right, each once, and the answers are
put in their places. -/
theorem list_edit_eq (ms : List Mark) (s : σ) :
    Edited.list (edit f) ms s =
      let asked := ((ms.filterMap literal?).mapM f) s
      (⟨substitute ms asked.1, asked.1.any Option.isSome⟩, asked.2) := by
  induction ms generalizing s with
  | nil => rfl
  | cons m ms ih =>
    cases m with
    | node kind => simp [Edited.list_cons, ih, List.filterMap_cons, literal?, substitute]
    | token t => simp [Edited.list_cons, ih, List.filterMap_cons, literal?, substitute]
    | literal t =>
      simp [Edited.list_cons, ih, literal?, substitute, mapM_cons_run]

theorem kinds_substitute (ms : List Mark) (answers : List (Option Token)) :
    (substitute ms answers).filterMap kind? = ms.filterMap kind? := by
  fun_induction substitute ms answers with
  | case1 t ms answer answers ih => simp [List.filterMap_cons, kind?, ih]
  | case2 m ms answers _ ih => simp [List.filterMap_cons, ih]
  | case3 => rfl

end Mark

end TransactSql
