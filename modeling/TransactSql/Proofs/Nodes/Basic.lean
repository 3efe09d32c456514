import TransactSql.Proofs.Nesting.Basic
import TransactSql.Proofs.Parens.Depth

/-!
# What holds of every node

`Proper` is what the grammar promises of a node and its slots: parentheses that it stores are
partners, `=` is an assignment just where a value is assigned, and an assignment with `=` stands in
a select list only. The last of these is about the nodes around an assignment, but it can be told
slot by slot, since at most an alias stands between an assignment and its list.
-/

namespace TransactSql

/-- The kinds of nodes that store an opening and a closing parenthesis. -/
def NodeKind.hasParens : NodeKind → Bool
  | .paren | .call | .isIn | .cast | .tableHint | .overClause | .topClause | .typeName | .tableType
  | .createProcedure | .functionSignature | .createView => true
  | _ => false

/-- The kinds of nodes that assign a value behind a sign. -/
def NodeKind.hasSign : NodeKind → Bool
  | .assignment | .setVariable | .varDecl | .paramDecl => true
  | _ => false

/-- Whether the token is a `=` that was read as an assignment. -/
def Token.isSign (t : Token) : Bool := t.kind == .assignment none

/-- Whether the token is none that texts are lexed into: a `=` that was read as an assignment, or a
text without a token. -/
def Token.isForeign (t : Token) : Bool := t.isSign || (!t.isSource && t.text != "")

theorem Token.isForeign_of_kind {t : Token} {k : TokenKind} (h : t.kind = k) (source : k.isSource = true)
    (other : k ≠ .assignment none) : t.isForeign = false := by
  simp [isForeign, isSign, isSource, h, source, other]

namespace Tree

/-- A node of a tree, with the kinds of the nodes around it, the innermost first. -/
structure Place where
  around : List NodeKind
  kind : NodeKind
  slots : List Tree

mutual

/-- All nodes, each before those in its slots. -/
def places (around : List NodeKind) : Tree → List Place
  | .token _ => []
  | .node kind slots => ⟨around, kind, slots⟩ :: placesOf (kind :: around) slots

def placesOf (around : List NodeKind) : List Tree → List Place
  | [] => []
  | slot :: slots => slot.places around ++ placesOf around slots

end

/-- A property of trees and of the nodes around them that a node passes on to its slots. -/
def Inherited (P : List NodeKind → Tree → Prop) : Prop :=
  ∀ (around : List NodeKind) (kind : NodeKind) (slots : List Tree), P around (.node kind slots) →
    ∀ t ∈ slots, P (kind :: around) t

mutual

/-- What a tree passes on to its slots holds of every node. -/
theorem Inherited.at {P : List NodeKind → Tree → Prop} (inherited : Inherited P) :
    ∀ {t : Tree} {around : List NodeKind} {place : Place}, P around t → place ∈ t.places around →
      P place.around (.node place.kind place.slots)
  | .token _, _, _, _, member => by
    rw [places] at member
    cases member
  | .node kind slots, around, place, root, member => by
    rw [places] at member
    rcases List.mem_cons.mp member with rfl | inside
    · exact root
    · exact inherited.atOf (inherited around kind slots root) inside

theorem Inherited.atOf {P : List NodeKind → Tree → Prop} (inherited : Inherited P) :
    ∀ {slots : List Tree} {around : List NodeKind} {place : Place}, (∀ t ∈ slots, P around t) →
      place ∈ placesOf around slots → P place.around (.node place.kind place.slots)
  | [], _, _, _, member => by
    rw [placesOf] at member
    cases member
  | slot :: slots, around, place, each, member => by
    rw [placesOf] at member
    rcases List.mem_append.mp member with first | rest
    · exact inherited.at (each slot List.mem_cons_self) first
    · exact inherited.atOf (fun t found => each t (List.mem_cons_of_mem slot found)) rest

end

/-! ### Signs -/

/-- Whether a token between the given slots is the sign of an assignment. It is the only token of an
assignment, and otherwise stands right before the value, in a declaration behind the type. -/
def isSignSlot (kind : NodeKind) (before after : List Tree) : Bool :=
  match kind with
  | .assignment => true
  | .setVariable => after.head?.any (!·.isToken)
  | .varDecl | .paramDecl => before.any (!·.isToken) && after.head?.any (!·.isToken)
  | _ => false

theorem isSignSlot_of_not_hasSign {kind : NodeKind} (none : kind.hasSign = false)
    (before after : List Tree) : isSignSlot kind before after = false := by
  cases kind <;> first | rfl | cases none

/-! ### Assignments in select lists -/

/-- Whether the slot is a token with the property. -/
def isTokenWith (p : Token → Bool) : Tree → Bool
  | .token t => p t
  | .node .. => false

@[simp]
theorem isTokenWith_token (p : Token → Bool) (t : Token) : (token t).isTokenWith p = p t := rfl

theorem exists_of_isTokenWith {p : Token → Bool} {t : Tree} (h : t.isTokenWith p = true) :
    ∃ u, t = .token u ∧ p u = true := by
  cases t with
  | token u => exact ⟨u, rfl, h⟩
  | node => cases h

/-- Whether the slot is a `=` that was read as an assignment. -/
def isSign (t : Tree) : Bool := t.isTokenWith Token.isSign

/-- An assignment with `=`. -/
def assigns : Tree → Bool
  | .node .assignment slots => slots.any isSign
  | _ => false

/-- An alias of an assignment with `=`. -/
def renames : Tree → Bool
  | .node .aliased slots => slots.any assigns
  | _ => false

/-- A list with an assignment in it. -/
def lists : Tree → Bool
  | .node .exprList slots => slots.any fun t => t.assigns || t.renames
  | _ => false

/-- Whether the tree has to stand in a select list, or to be one. -/
def isLoose (t : Tree) : Bool := t.assigns || t.renames || t.lists

/-- Whether the tree may be a slot of a node of the kind. -/
def mayStandIn (kind : NodeKind) (t : Tree) : Bool :=
  (!t.assigns || kind == .exprList || kind == .aliased) && (!t.renames || kind == .exprList)
    && (!t.lists || kind == .select)

@[simp]
theorem isLoose_token (t : Token) : (token t).isLoose = false := rfl

theorem isLoose_eq_false {t : Tree} :
    t.isLoose = false ↔ t.assigns = false ∧ t.renames = false ∧ t.lists = false := by
  simp [isLoose, and_assoc]

theorem mayStandIn_of_not_isLoose {t : Tree} (h : t.isLoose = false) (kind : NodeKind) :
    t.mayStandIn kind = true := by
  obtain ⟨assigns, renames, lists⟩ := isLoose_eq_false.mp h
  simp [mayStandIn, assigns, renames, lists]

/-- A node around slots that may stand anywhere may do so too, if it is no assignment. -/
theorem isLoose_node {kind : NodeKind} {slots : List Tree} (other : kind ≠ .assignment)
    (fixed : ∀ t ∈ slots, t.isLoose = false) : (node kind slots).isLoose = false := by
  have none : ∀ t ∈ slots, t.assigns = false ∧ t.renames = false := fun t member =>
    ⟨(isLoose_eq_false.mp (fixed t member)).1, (isLoose_eq_false.mp (fixed t member)).2.1⟩
  rw [isLoose_eq_false]
  refine ⟨?_, ?_, ?_⟩
  · unfold assigns
    split
    · next same =>
      cases same
      exact absurd rfl other
    · rfl
  · unfold renames
    split
    · next same =>
      cases same
      exact List.any_eq_false.mpr fun t member => by simp [none t member]
    · rfl
  · unfold lists
    split
    · next same =>
      cases same
      exact List.any_eq_false.mpr fun t member => by simp [none t member]
    · rfl

/-! ### Nodes -/

/-- What holds of a node of the kind with these slots. -/
structure Proper (kind : NodeKind) (slots : List Tree) : Prop where
  /-- What stands between the parentheses of a node is balanced. -/
  partners : kind.hasParens = true → ∀ {before inner after : List Tree} {l r : Token},
    slots = before ++ .token l :: (inner ++ .token r :: after) → l.kind = .leftParen →
      r.kind = .rightParen → Balanced (tokensOf inner)
  /-- A token is an assignment if it is the sign of one, and any other token is as it was lexed. -/
  signs : ∀ {before after : List Tree} {t : Token}, slots = before ++ .token t :: after →
    if isSignSlot kind before after then t.kind.isAssignment = true else t.isForeign = false
  /-- Assignments stand in select lists, and these in queries. -/
  placed : ∀ t ∈ slots, t.mayStandIn kind = true

mutual

/-- All nodes are proper. -/
def AllProper : Tree → Prop
  | .token _ => True
  | .node kind slots => Proper kind slots ∧ AllProperOf slots

def AllProperOf : List Tree → Prop
  | [] => True
  | slot :: slots => slot.AllProper ∧ AllProperOf slots

end

@[simp]
theorem allProper_token (t : Token) : (token t).AllProper := by rw [AllProper]; trivial

theorem allProperOf_iff {slots : List Tree} : AllProperOf slots ↔ ∀ t ∈ slots, t.AllProper := by
  induction slots with
  | nil => simp [AllProperOf]
  | cons slot slots ih => simp [AllProperOf, ih]

theorem allProper_node {kind : NodeKind} {slots : List Tree} :
    (node kind slots).AllProper ↔ Proper kind slots ∧ ∀ t ∈ slots, t.AllProper := by
  rw [AllProper, allProperOf_iff]

theorem AllProper.at {t : Tree} {around : List NodeKind} {place : Place} (proper : t.AllProper)
    (member : place ∈ t.places around) : Proper place.kind place.slots := by
  have inherited : Inherited fun _ t => t.AllProper := fun _ _ _ h => (allProper_node.mp h).2
  have here := inherited.at proper member
  exact (allProper_node.mp here).1

/-! ### Proper nodes -/

/-- Whether the slot is a token that no text is lexed into. -/
def isForeign (t : Tree) : Bool := t.isTokenWith Token.isForeign

theorem isSign_of_not_isForeign {t : Tree} (native : t.isForeign = false) : t.isSign = false := by
  cases t with
  | token t => exact (Bool.or_eq_false_iff.mp native).1
  | node => rfl

/-- A node that neither stores parentheses nor assigns is proper if its tokens are as they were
lexed and its slots may stand there. -/
theorem Proper.native {kind : NodeKind} {slots : List Tree} (noParens : kind.hasParens = false)
    (noSign : kind.hasSign = false) (native : ∀ t ∈ slots, t.isForeign = false)
    (placed : ∀ t ∈ slots, t.mayStandIn kind = true) : Proper kind slots where
  partners parens := by
    rw [noParens] at parens
    cases parens
  signs {before after t} parts := by
    rw [isSignSlot_of_not_hasSign noSign]
    exact native (.token t) (by simp [parts])
  placed := placed

/-- Whether the slot is a parenthesis. -/
def isParen (t : Tree) : Bool := t.isTokenWith Token.isParen

/-- Whether the slot is a parenthesis or a token that no text is lexed into. -/
def isMark (t : Tree) : Bool := t.isForeign || t.isParen

theorem isMark_eq_false {t : Tree} : t.isMark = false ↔ t.isForeign = false ∧ t.isParen = false := by
  simp [isMark]

/-- Two places in one list, by which of them comes first. -/
theorem split_cases {before after front rest : List Tree} {t u : Tree}
    (same : before ++ t :: after = front ++ u :: rest) :
    (∃ between, front = before ++ t :: between ∧ after = between ++ u :: rest) ∨
      (before = front ∧ t = u ∧ after = rest) ∨
      ∃ between, before = front ++ u :: between ∧ rest = between ++ t :: after := by
  rcases List.append_eq_append_iff.mp same with ⟨gap, rfl, tail⟩ | ⟨gap, rfl, tail⟩
  · cases gap with
    | nil =>
      obtain ⟨rfl, rfl⟩ := List.cons.inj tail
      exact .inr (.inl ⟨(List.append_nil before).symm, rfl, rfl⟩)
    | cons v between =>
      obtain ⟨rfl, rfl⟩ := List.cons.inj tail
      exact .inl ⟨between, rfl, rfl⟩
  · cases gap with
    | nil =>
      obtain ⟨rfl, rfl⟩ := List.cons.inj tail
      exact .inr (.inl ⟨List.append_nil front, rfl, rfl⟩)
    | cons v between =>
      obtain ⟨rfl, rfl⟩ := List.cons.inj tail
      exact .inr (.inr ⟨between, rfl, rfl⟩)

/-- A list is split in one way at the only member with a property. -/
theorem split_unique {P : Tree → Prop} {before after front rest : List Tree} {t u : Tree}
    (same : before ++ t :: after = front ++ u :: rest) (here : P t)
    (others : ∀ v ∈ front ++ rest, ¬ P v) : before = front ∧ t = u ∧ after = rest := by
  rcases split_cases same with ⟨_, rfl, _⟩ | equal | ⟨_, _, rfl⟩
  · exact absurd here (others t (by simp))
  · exact equal
  · exact absurd here (others t (by simp))

/-- Both parentheses are there, with balanced tokens between them, or neither is. -/
def Paired (lparen : Token) (inner : List Tree) (rparen : Token) : Prop :=
  (lparen.kind = .leftParen ∧ rparen.kind = .rightParen ∧ Balanced (tokensOf inner)) ∨
    (lparen = .placeholder ∧ rparen = .placeholder)

/-- A node with one pair of parentheses, or with placeholders in their place. -/
theorem Proper.enclosing {kind : NodeKind} {slots before inner after : List Tree} {lparen rparen : Token}
    (parts : slots = before ++ .token lparen :: (inner ++ .token rparen :: after))
    (enclosed : Paired lparen inner rparen) (noSign : kind.hasSign = false)
    (others : ∀ t ∈ before ++ (inner ++ after), t.isMark = false)
    (fixed : ∀ t ∈ slots, t.isLoose = false) : Proper kind slots where
  partners _ {front middle behind l r} split isOpen isClose := by
    have plain : ∀ {u : Token}, u.kind = .leftParen ∨ u.kind = .rightParen →
        token u ∉ before ++ (inner ++ after) := by
      intro u kinds member
      have none : u.isParen = false := (isMark_eq_false.mp (others _ member)).2
      rcases kinds with kind | kind <;> simp [Token.isParen, kind] at none
    rw [parts] at split
    rcases enclosed with ⟨_, right, balanced⟩ | ⟨rfl, rfl⟩
    · -- The only `(` among the slots is the one stored, and so is the only `)` behind it.
      obtain ⟨rfl, same, rest⟩ := split_unique
        (P := fun t => ∃ u, t = .token u ∧ u.kind = .leftParen) split.symm ⟨l, rfl, isOpen⟩ (by
          rintro t member ⟨u, rfl, kind⟩
          have elsewhere : token u ∈ before ++ (inner ++ after) ∨ token u = .token rparen := by
            simp only [List.mem_append, List.mem_cons] at member ⊢
            tauto
          rcases elsewhere with other | closing
          · exact plain (.inl kind) other
          · cases closing
            rw [right] at kind
            cases kind)
      obtain ⟨rfl, _⟩ := split_unique (P := fun t => ∃ u, t = .token u ∧ u.kind = .rightParen)
        rest ⟨r, rfl, isClose⟩ (by
          rintro t member ⟨u, rfl, kind⟩
          exact plain (.inr kind) (List.mem_append_right front member))
      exact balanced
    · have stored : token l ∈
          before ++ .token .placeholder :: (inner ++ .token .placeholder :: after) := by
        simp [split]
      have elsewhere : token l ∈ before ++ (inner ++ after) ∨ l = .placeholder := by
        simp only [List.mem_append, List.mem_cons, token.injEq] at stored ⊢
        tauto
      rcases elsewhere with other | rfl
      · exact absurd other (plain (.inl isOpen))
      · cases isOpen
  signs {front behind t} split := by
    rw [isSignSlot_of_not_hasSign noSign]
    have member : token t ∈ before ++ (inner ++ after) ∨ t = lparen ∨ t = rparen := by
      have stored : token t ∈ slots := by simp [split]
      rw [parts] at stored
      simp only [List.mem_append, List.mem_cons, token.injEq] at stored ⊢
      tauto
    rcases member with other | rfl | rfl
    · exact (isMark_eq_false.mp (others _ other)).1
    · rcases enclosed with ⟨kind, _⟩ | ⟨rfl, _⟩
      · exact Token.isForeign_of_kind kind rfl (by simp)
      · rfl
    · rcases enclosed with ⟨_, kind, _⟩ | ⟨_, rfl⟩
      · exact Token.isForeign_of_kind kind rfl (by simp)
      · rfl
  placed t member := mayStandIn_of_not_isLoose (fixed t member) kind

end Tree

end TransactSql
