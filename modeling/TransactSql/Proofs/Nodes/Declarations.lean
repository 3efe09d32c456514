import TransactSql.Proofs.Grammar.RoutineYield
import TransactSql.Proofs.Nodes.Expressions

/-!
# Declarations are proper

The `=` before an initial value is read as an assignment, and it is the only token of a declaration
that stands behind the type and before another node.
-/

namespace TransactSql

open TransactSql.Parser TransactSql.Tree

variable {b : Bool}

/-! ### Signs before a value -/

/-- In the slots an assignment stands before each node, and nowhere else. -/
def Tree.SignedAt (slots : List Tree) : Prop :=
  ∀ (before after : List Tree) (t : Token), slots = before ++ .token t :: after →
    if after.head?.any (!·.isToken) then t.kind.isAssignment = true else t.isForeign = false

theorem Tree.tokenSlots_split {ts : List Token} {before after : List Tree} {t : Token}
    (split : tokenSlots ts = before ++ .token t :: after) :
    ∃ front back, ts = front ++ t :: back ∧ before = tokenSlots front ∧ after = tokenSlots back := by
  obtain ⟨front, rest, rfl, rfl, tail⟩ := List.map_eq_append_iff.mp split
  obtain ⟨u, back, rfl, same, rfl⟩ := List.map_eq_cons_iff.mp tail
  cases same
  exact ⟨front, back, rfl, rfl, rfl⟩

theorem Sound.isForeign_of_mem {ts : List Token} (native : Sound false ts) {t : Token} (member : t ∈ ts) :
    t.isForeign = false := by
  have sound := Sound.list_iff.mp native t member
  exact Token.isForeign_eq

theorem Tree.head_tokenSlots (ts : List Token) : (tokenSlots ts).head?.any (!·.isToken) = false := by
  cases ts <;> rfl

theorem Tree.signedAt_tokens {ts : List Token} (native : Sound false ts) : SignedAt (tokenSlots ts) := by
  intro before after t split
  obtain ⟨front, back, rfl, rfl, rfl⟩ := tokenSlots_split split
  rw [head_tokenSlots]
  exact native.isForeign_of_mem (by simp)

/-- A value behind its sign, among other tokens. -/
theorem Tree.signedAt_value {front back : List Token} {sign : Token} {value : Expr}
    (first : Sound false front) (last : Sound false back)
    (isAssignment : sign.kind.isAssignment = true) :
    SignedAt (tokenSlots front ++ .token sign :: value.tree :: tokenSlots back) := by
  obtain ⟨kind, slots, node⟩ := value.exists_node
  intro before after t split
  rcases split_cases split.symm with ⟨between, inFront, rfl⟩ | ⟨_, same, rfl⟩ | ⟨between, _, behind⟩
  · obtain ⟨_, next, rfl, _, rfl⟩ := tokenSlots_split inFront
    have plain : t.isForeign = false := first.isForeign_of_mem (by simp)
    cases next <;> exact plain
  · cases same
    rw [node]
    exact isAssignment
  · cases between with
    | nil =>
      rw [node] at behind
      cases behind
    | cons x between => exact signedAt_tokens last _ _ _ (List.cons.inj behind).2

/-- A declaration with its type and the rest behind it. -/
theorem Tree.proper_declaration {kind : NodeKind} {front : List Token} {type : DataType} {rest : List Tree}
    (declares : kind = .varDecl ∨ kind = .paramDecl) (first : Sound false front)
    (signed : SignedAt rest)
    (fixed : ∀ t ∈ tokenSlots front ++ type.tree :: rest, t.isLoose = false) :
    Proper kind (tokenSlots front ++ type.tree :: rest) where
  partners parens := by rcases declares with rfl | rfl <;> cases parens
  signs {before after t} split := by
    obtain ⟨typeKind, slots, node⟩ := type.exists_node
    have sign : isSignSlot kind before after =
        (before.any (!·.isToken) && after.head?.any (!·.isToken)) := by
      rcases declares with rfl | rfl <;> rfl
    rw [sign]
    rcases split_cases split.symm with ⟨between, inFront, _⟩ | ⟨_, same, _⟩ | ⟨between, rfl, behind⟩
    · -- Before the type there is no node.
      obtain ⟨earlier, _, rfl, rfl, _⟩ := tokenSlots_split inFront
      have tokens : (tokenSlots earlier).any (!·.isToken) = false := by simp [tokenSlots, isToken]
      rw [tokens]
      exact first.isForeign_of_mem (by simp)
    · rw [node] at same
      cases same
    · have typed : (tokenSlots front ++ type.tree :: between).any (!·.isToken) = true := by
        simp [node, isToken]
      rw [typed]
      exact signed _ _ _ behind
  placed t member := mayStandIn_of_not_isLoose (fixed t member) kind

/-! ### Parts of declarations -/

instance [Parts α] : Parts (SeparatedList α) :=
  ⟨fun list => Parts.parts list.items ++ Parts.parts list.separators⟩

instance : Parts VarDecl := ⟨fun v => [v.tree]⟩

instance : Parts ParamDecl := ⟨fun p => [p.tree]⟩

instance [Parts α] (items : List α) (separators : List Token) [first : Sound b items]
    [second : Sound b separators] : Sound b (SeparatedList.mk items separators) :=
  ⟨List.forall_mem_append.mpr ⟨first.all, second.all⟩⟩

/-- The node of a list is sound as its items are. -/
theorem SeparatedList.sound_tree [Parts α] {list : SeparatedList α} [h : Sound false list]
    {kind : NodeKind} {slot : α → Tree} (slots : ∀ a : α, Parts.parts a = [slot a])
    (noParens : kind.hasParens = false) (noSign : kind.hasSign = false) :
    Sound b (list.tree kind slot) := by
  have all := List.forall_mem_append.mp h.all
  have items : Sound false list.items := ⟨all.1⟩
  have separators : Sound false list.separators := ⟨all.2⟩
  have trees : Sound false (list.items.map slot) := by
    refine Sound.list_iff.mpr fun t member => ?_
    obtain ⟨a, found, rfl⟩ := List.mem_map.mp member
    have sound := Sound.list_iff.mp items a found
    exact .tree (slots a)
  exact sound_node noParens noSign

instance (list : SeparatedList Token) [Sound false list] : Sound b list.nameTree :=
  SeparatedList.sound_tree (fun _ => rfl) rfl rfl

instance (params : Option (SeparatedList ParamDecl)) [h : Sound false params] :
    Sound b (ParamDecl.listSlot params) := by
  cases params with
  | none => exact inferInstanceAs (Sound b ([] : List Tree))
  | some list =>
    have items := Sound.some_iff.mp h
    have tree : Sound b (list.tree .separatedList ParamDecl.tree) :=
      SeparatedList.sound_tree (fun _ => rfl) rfl rfl
    exact inferInstanceAs (Sound b [list.tree .separatedList ParamDecl.tree])

/-- An initial value, if there is one, behind a `=` that was read as an assignment. -/
def Tail.IsInitial (tail : Tail) : Prop :=
  tail = .absent ∨ ∃ sign value, tail = .present sign value ∧ sign.kind = .assignment none ∧
    Sound false value

theorem Tail.IsInitial.sound {tail : Tail} (initial : tail.IsInitial) : Sound true tail := by
  rcases initial with rfl | ⟨sign, value, rfl, _, sound⟩
  · infer_instance
  · have given : Sound true value := sound.mono
    infer_instance

theorem Tail.IsInitial.signedAt {tail : Tail} (initial : tail.IsInitial) {front back : List Token}
    (first : Sound false front) (last : Sound false back) :
    SignedAt (tokenSlots front ++ tail.slots ++ tokenSlots back) := by
  rcases initial with rfl | ⟨sign, value, rfl, kind, _⟩
  · have tokens : Sound false (front ++ back) := inferInstance
    simpa using signedAt_tokens tokens
  · have signed : SignedAt (tokenSlots front ++ .token sign :: value.tree :: tokenSlots back) :=
      signedAt_value first last (by rw [kind]; rfl)
    simpa using signed

section

variable {t u : Token} [Sound false t] [Sound false u] {type : DataType} [Sound false type]

/-- A value that is one node which declares. -/
theorem sound_declaration [Parts α] {a : α} {kind : NodeKind} {varying modifiers : List Token}
    {initial : Tail} [Sound false varying] [Sound false modifiers]
    (tree : Parts.parts a = [.node kind (.token t :: .token u :: type.tree ::
      (tokenSlots varying ++ initial.slots ++ tokenSlots modifiers))])
    (declares : kind = .varDecl ∨ kind = .paramDecl) (valued : initial.IsInitial) : Sound b a := by
  have other : kind ≠ .assignment := by rcases declares with rfl | rfl <;> nofun
  have front : Sound false [t, u] := inferInstance
  have slots : Sound true (.token t :: .token u :: type.tree ::
      (tokenSlots varying ++ initial.slots ++ tokenSlots modifiers)) := by
    have tail := valued.sound
    have kind' : Sound true type := Sound.mono (b := true) inferInstance
    have first : Sound true varying := Sound.mono inferInstance
    have last : Sound true modifiers := Sound.mono inferInstance
    infer_instance
  refine .of_tree tree (sound_of_proper other slots fun fixed => ?_)
  exact proper_declaration declares front (valued.signedAt inferInstance inferInstance) fixed

theorem VarDecl.sound {value : Tail} (initial : value.IsInitial) :
    Sound b (VarDecl.mk t u type value) := by
  have slots : Parts.parts (VarDecl.mk t u type value) = [.node .varDecl (.token t :: .token u ::
      type.tree :: (tokenSlots [] ++ value.slots ++ tokenSlots []))] := by
    simp [Parts.parts]
  exact sound_declaration slots (.inl rfl) initial

theorem ParamDecl.sound {varying : Option Token} {value : Tail} {modifiers : List Token}
    [Sound false varying] [Sound false modifiers] (initial : value.IsInitial) :
    Sound b (ParamDecl.mk t u type varying value modifiers) := by
  have slots : Parts.parts (ParamDecl.mk t u type varying value modifiers) =
      [.node .paramDecl (.token t :: .token u :: type.tree ::
        (tokenSlots varying.toList ++ value.slots ++ tokenSlots modifiers))] := by
    cases varying <;> simp [Parts.parts]
  exact sound_declaration slots (.inr rfl) initial

end

namespace Grammar

section

variable (expr : Precedence → Parser Expr) [faithful : Faithful expr]

/-! ### Variables -/

instance (min : Precedence) : Trusted b (value expr min) := by unfold value; infer_instance

omit faithful in
theorem assignSign_kind {c d : Cursor} {found : Option Token} (run : assignSign c = .ok found d) :
    ∀ sign ∈ found, sign.kind = .assignment none := by
  obtain ⟨_, _, run⟩ := withAssignment_ok run
  rcases eat_ok run with ⟨rfl, kind, _⟩ | ⟨rfl, _⟩
  · rintro _ ⟨⟩
    exact eq_of_beq kind
  · nofun

instance : Trusted false (varDecl expr) := by
  unfold varDecl
  refine .bind inferInstance fun name => .bind inferInstance fun asToken => ?_
  refine .bind inferInstance fun type => .bind_known (fun _ _ run => assignSign_kind run) ?_
  intro found signs
  cases found with
  | none => exact .build fun _ => VarDecl.sound (.inl rfl)
  | some sign =>
    have valued : Trusted false (do
        build (Checked.varDecl name.1 asToken.1 type.1 (.present sign (← value expr .comma)))) :=
      .bind inferInstance fun initial => .build fun _ =>
        VarDecl.sound (.inr ⟨sign, initial.1, rfl, signs sign rfl, initial.2⟩)
    infer_instance

/-! ### Parameters -/

omit faithful in
instance : Trusted false modifiers := by unfold modifiers; infer_instance

theorem paramDefault_isInitial {c d : Cursor} {initial : Tail} (lexed : c.Lexed)
    (context : c.assignment = false) (run : paramDefault expr c = .ok initial d) : initial.IsInitial := by
  unfold paramDefault at run
  obtain ⟨found, c₁, first, run⟩ := bind_ok run
  cases found with
  | none =>
    cases run
    exact .inl rfl
  | some sign =>
    obtain ⟨value, _, second, run⟩ := bind_ok run
    have sound : Sound false value :=
      Trusted.sound (Framed.lexed lexed first) (Framed.assignment context first) second
    cases run
    exact .inr ⟨sign, value, rfl, assignSign_kind first sign rfl, sound⟩

instance : Trusted false (paramDecl expr) := by
  unfold paramDecl
  refine .bind inferInstance fun name => .bind inferInstance fun asToken => ?_
  refine .bind inferInstance fun type => .bind inferInstance fun varying => ?_
  refine .bind_known (paramDefault_isInitial expr) fun initial valued => ?_
  exact .bind inferInstance fun words => .build fun _ => ParamDecl.sound valued

instance : Trusted false (params expr) := by unfold params; infer_instance

instance : Trusted false (optionalParams expr) := by unfold optionalParams; infer_instance

end

end Grammar

/-! ### The level of parentheses -/

namespace Checked

instance (node : NodeKind) (slot : String) (initial : Tail) :
    Shaped.Concerns node (initializer node slot initial) := by
  unfold initializer
  split <;> infer_instance

instance (t u : Token) (type : DataType) (varying : Option Token) (initial : Tail)
    (modifiers : List Token) : Shaped.Apart (paramDecl t u type varying initial modifiers) := by
  have words : ∀ ts : List Token, Shaped.Concerns .paramDecl (ts.forM fun m =>
      Check.token .paramDecl "modifier" m "OUT, OUTPUT or READONLY"
        (m.isAnyKeyword [.OUT, .OUTPUT, .READONLY])) := fun ts =>
    inferInstanceAs (Shaped.Concerns .paramDecl (forM ts _))
  exact .of .paramDecl (by unfold paramDecl; infer_instance)

instance (items : List α) (separators : List Token) : Shaped.Apart (declarations items separators) :=
  .of .separatedList (by unfold declarations; infer_instance)

instance (items separators : List Token) : Shaped.Apart (names items separators) :=
  .of .nameList (by unfold names; infer_instance)

end Checked

namespace Grammar

instance : Level modifiers := level_takeWhile isParen_of_isAnyKeyword

section

variable (expr : Precedence → Parser Expr) [Subexpressions expr]

instance : Level (value expr .comma) := by unfold value; infer_instance

instance : Level (paramDefault expr) := by
  unfold paramDefault
  refine .bind inferInstance fun sign => ?_
  cases sign <;> infer_instance

instance : Level (paramDecl expr) := by unfold paramDecl; infer_instance

instance : Level (params expr) := by unfold params; infer_instance

instance : Level (optionalParams expr) := by unfold optionalParams; infer_instance

end

instance : Level columnNames := by unfold columnNames; infer_instance

end Grammar

end TransactSql
