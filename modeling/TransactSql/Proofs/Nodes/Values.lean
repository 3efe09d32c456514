import TransactSql.Proofs.Nodes.Basic

/-!
# Values that are made of proper nodes

A value is sound if all nodes in it are proper and none of them has to stand in a select list. The
tokens in it are looked at too: where `=` is a comparison, no token is an assignment. As a class,
so that what is made of sound parts is sound by inference.
-/

namespace TransactSql

open TransactSql.Tree

/-- A part of a value. If `assignment` is false the part was read where `=` is a comparison. -/
structure Tree.IsSound (assignment : Bool) (t : Tree) : Prop where
  proper : t.AllProper
  fixed : t.isLoose = false
  native : assignment = false → t.isForeign = false

/-- Types whose values are made of trees. -/
class Parts (α : Type) where
  parts : α → List Tree

/-- All parts of the value are sound. -/
class Sound (assignment : Bool) [Parts α] (a : α) : Prop where
  all : ∀ t ∈ Parts.parts a, t.IsSound assignment

variable {b : Bool}

/-- What was read where `=` is a comparison is sound everywhere. -/
theorem Sound.mono [Parts α] {a : α} (h : Sound false a) : Sound b a where
  all t member :=
    ⟨(h.all t member).proper, (h.all t member).fixed, fun _ => (h.all t member).native rfl⟩

/-- A sound value carries the proof that it is. -/
instance [Parts α] (a : {a : α // Sound b a}) : Sound b a.1 := a.2

theorem Sound.of_none [Parts α] {a : α} (none : Parts.parts a = []) : Sound b a := by
  refine ⟨?_⟩
  rw [none]
  exact nofun

section Containers

variable [Parts α] [Parts β]

instance : Parts (List α) := ⟨fun as => as.flatMap Parts.parts⟩

instance : Parts (Option α) := ⟨fun a => a.toList.flatMap Parts.parts⟩

instance : Parts (α × β) := ⟨fun x => Parts.parts x.1 ++ Parts.parts x.2⟩

/-- A list is sound as its members are. -/
theorem Sound.list_iff {as : List α} : Sound b as ↔ ∀ a ∈ as, Sound b a := by
  constructor
  · intro h a member
    exact ⟨fun t found => h.all t (List.mem_flatMap.mpr ⟨a, member, found⟩)⟩
  · intro all
    refine ⟨fun t member => ?_⟩
    obtain ⟨a, found, inside⟩ := List.mem_flatMap.mp member
    exact (all a found).all t inside

theorem Sound.subset {as bs : List α} (sound : Sound b bs) (part : as ⊆ bs) : Sound b as :=
  Sound.list_iff.mpr fun a member => Sound.list_iff.mp sound a (part member)

instance : Sound b ([] : List α) := Sound.list_iff.mpr nofun

instance {a : α} {as : List α} [first : Sound b a] [rest : Sound b as] : Sound b (a :: as) :=
  Sound.list_iff.mpr (List.forall_mem_cons.mpr ⟨first, Sound.list_iff.mp rest⟩)

instance {as bs : List α} [first : Sound b as] [rest : Sound b bs] : Sound b (as ++ bs) :=
  Sound.list_iff.mpr (List.forall_mem_append.mpr ⟨Sound.list_iff.mp first, Sound.list_iff.mp rest⟩)

instance : Sound b (none : Option α) := .of_none rfl

theorem Sound.some_iff {a : α} : Sound b (some a) ↔ Sound b a := by
  have parts : Parts.parts (some a) = Parts.parts a := List.append_nil _
  constructor
  · intro h
    exact ⟨parts ▸ h.all⟩
  · intro h
    exact ⟨parts ▸ h.all⟩

instance {a : α} [h : Sound b a] : Sound b (some a) := Sound.some_iff.mpr h

instance {a : Option α} [h : Sound b a] : Sound b a.toList := ⟨h.all⟩

theorem Sound.pair_iff {x : α × β} : Sound b x ↔ Sound b x.1 ∧ Sound b x.2 := by
  constructor
  · intro h
    have all := List.forall_mem_append.mp h.all
    exact ⟨⟨all.1⟩, ⟨all.2⟩⟩
  · rintro ⟨first, second⟩
    exact ⟨List.forall_mem_append.mpr ⟨first.all, second.all⟩⟩

instance {a : α} {c : β} [first : Sound b a] [second : Sound b c] : Sound b (a, c) :=
  Sound.pair_iff.mpr ⟨first, second⟩

instance {x : α × β} [h : Sound b x] : Sound b x.1 := (Sound.pair_iff.mp h).1

instance {x : α × β} [h : Sound b x] : Sound b x.2 := (Sound.pair_iff.mp h).2

end Containers

/-! ### Trees and tokens -/

instance : Parts Tree := ⟨fun t => [t]⟩

instance : Parts Token := ⟨fun t => [.token t]⟩

instance : Parts Bool := ⟨fun _ => []⟩

instance : Parts Unit := ⟨fun _ => []⟩

instance (x : Bool) : Sound b x := .of_none rfl

instance (x : Unit) : Sound b x := .of_none rfl

theorem Tree.sound_iff {t : Tree} : Sound b t ↔ t.IsSound b :=
  ⟨fun h => h.all t List.mem_cons_self, fun h => ⟨fun _ member => List.mem_singleton.mp member ▸ h⟩⟩

theorem Tree.isSound_token {t : Token} : (token t).IsSound b ↔ (b = false → t.isForeign = false) :=
  ⟨fun h => h.native, fun native => ⟨allProper_token t, isLoose_token t, native⟩⟩

theorem Token.sound_iff {t : Token} : Sound b t ↔ (b = false → t.isForeign = false) := by
  rw [← isSound_token]
  exact ⟨fun h => h.all _ List.mem_cons_self,
    fun h => ⟨fun _ member => List.mem_singleton.mp member ▸ h⟩⟩

theorem Token.sound_of_not_isForeign {t : Token} (h : t.isForeign = false) : Sound b t :=
  sound_iff.mpr fun _ => h

/-- Where `=` may be an assignment nothing is said of tokens. -/
instance (t : Token) : Sound true t := Token.sound_iff.mpr nofun

instance : Sound b Token.placeholder := Token.sound_of_not_isForeign rfl

theorem Token.isForeign_eq {t : Token} [h : Sound false t] : t.isForeign = false := sound_iff.mp h rfl

instance (t : Token) [h : Sound b t] : Sound b (Tree.token t) := sound_iff.mpr (h.all _ List.mem_cons_self)

theorem Sound.of_parts [Parts α] {a : α} (h : Sound b (Parts.parts a)) : Sound b a :=
  ⟨fun t member => sound_iff.mp (Sound.list_iff.mp h t member)⟩

theorem Sound.parts [Parts α] {a : α} (h : Sound b a) : Sound b (Parts.parts a) :=
  Sound.list_iff.mpr fun t member => sound_iff.mpr (h.all t member)

instance (ts : List Token) [h : Sound b ts] : Sound b (tokenSlots ts) := by
  refine Sound.list_iff.mpr fun t member => ?_
  obtain ⟨u, found, rfl⟩ := List.mem_map.mp member
  have sound := Sound.list_iff.mp h u found
  infer_instance

instance (t : Option Token) [h : Sound b t] : Sound b (optionalToken t) := by
  cases t with
  | none => exact inferInstanceAs (Sound b ([] : List Tree))
  | some t =>
    have sound := Sound.some_iff.mp h
    exact inferInstanceAs (Sound b [Tree.token t])

instance (pair : Token × Token) [Sound b pair] : Sound b (tokenPair pair) :=
  inferInstanceAs (Sound b [Tree.token pair.1, .token pair.2])

theorem mem_interleave_cases {items : List Tree} {separators : List Token} {t : Tree}
    (member : t ∈ interleave items separators) : t ∈ items ∨ ∃ s ∈ separators, t = .token s := by
  induction separators generalizing items with
  | nil =>
    left
    cases items with
    | nil => exact member
    | cons item items => cases items <;> exact member
  | cons s ss ih =>
    match items with
    | [] => cases member
    | [item] => exact .inl member
    | item :: next :: items =>
      rw [interleave, List.mem_cons, List.mem_cons] at member
      rcases member with rfl | rfl | later
      · exact .inl List.mem_cons_self
      · exact .inr ⟨s, List.mem_cons_self, rfl⟩
      · rcases ih later with found | ⟨u, found, rfl⟩
        · exact .inl (List.mem_cons_of_mem item found)
        · exact .inr ⟨u, List.mem_cons_of_mem s found, rfl⟩

instance {items : List Tree} {separators : List Token} [h : Sound b items] [s : Sound b separators] :
    Sound b (interleave items separators) := by
  refine Sound.list_iff.mpr fun t member => ?_
  rcases mem_interleave_cases member with item | ⟨u, found, rfl⟩
  · exact Sound.list_iff.mp h t item
  · have sound := Sound.list_iff.mp s u found
    infer_instance

/-! ### Nodes -/

/-- A proper node of sound slots is sound, in every context. -/
theorem Tree.sound_of_proper {kind : NodeKind} {slots : List Tree} {c : Bool} (other : kind ≠ .assignment)
    (h : Sound b slots) (proper : (∀ t ∈ slots, t.isLoose = false) → Proper kind slots) :
    Sound c (node kind slots) := by
  have parts : ∀ t ∈ slots, t.IsSound b := fun t member => sound_iff.mp (Sound.list_iff.mp h t member)
  have fixed : ∀ t ∈ slots, t.isLoose = false := fun t member => (parts t member).fixed
  refine sound_iff.mpr ⟨?_, isLoose_node other fixed, fun _ => rfl⟩
  rw [allProper_node]
  exact ⟨proper fixed, fun t member => (parts t member).proper⟩

theorem NodeKind.ne_assignment {kind : NodeKind} (noSign : kind.hasSign = false) : kind ≠ .assignment := by
  rintro rfl
  cases noSign

/-- A plain node of sound slots is sound if no `=` in it is an assignment. -/
theorem Tree.sound_plain {kind : NodeKind} {slots : List Tree} {c : Bool}
    (noParens : kind.hasParens = false) (noSign : kind.hasSign = false)
    (native : ∀ t ∈ slots, t.isForeign = false) (h : Sound b slots) : Sound c (node kind slots) :=
  sound_of_proper (NodeKind.ne_assignment noSign) h fun fixed => .native noParens noSign native
    fun t member => mayStandIn_of_not_isLoose (fixed t member) kind

theorem Sound.not_isForeign {slots : List Tree} (h : Sound false slots) : ∀ t ∈ slots, t.isForeign = false :=
  fun t member => (sound_iff.mp (Sound.list_iff.mp h t member)).native rfl

/-- Where `=` is a comparison there is nothing more to show. -/
theorem Tree.sound_node {kind : NodeKind} {slots : List Tree} (noParens : kind.hasParens = false)
    (noSign : kind.hasSign = false) [h : Sound false slots] : Sound b (node kind slots) :=
  sound_plain noParens noSign h.not_isForeign h

end TransactSql
