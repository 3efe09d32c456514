import TransactSql.ShapeError

/-!
# Edited values

A value together with whether it differs from what it was made of. A change to a part is a change
to the whole.
-/

namespace TransactSql

structure Edited (α : Type) where
  value : α
  changed : Bool
deriving Repr

namespace Edited

instance : Applicative Edited where
  pure a := ⟨a, false⟩
  seq f x := ⟨f.value (x ()).value, f.changed || (x ()).changed⟩

/-- The outcome of an edit that gives a new value or keeps the old one. -/
def ofEdit (old : α) (edit : Option α) : Edited α := ⟨edit.getD old, edit.isSome⟩

/-- The new value, if there is one. -/
def toEdit (x : Edited α) : Option α := if x.changed then some x.value else none

/-- The new value, if there is one and its parts are not refused. -/
def toCheckedEdit (x : Edited (Shaped α)) : Option α :=
  if x.changed then x.value.toOption else none

/-- Edits the items of a list in order. -/
def list (edit : α → StateM σ (Edited α)) : List α → StateM σ (Edited (List α))
  | [] => return ⟨[], false⟩
  | a :: as => do
    let a ← edit a
    let as ← list edit as
    return (· :: ·) <$> a <*> as

/-- Edits a value that may be absent. -/
def optional (edit : α → StateM σ (Edited α)) : Option α → StateM σ (Edited (Option α))
  | none => return ⟨none, false⟩
  | some a => return some <$> (← edit a)

end Edited

end TransactSql
