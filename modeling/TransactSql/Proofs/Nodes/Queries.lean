import TransactSql.Proofs.Nodes.Operands

/-!
# Queries are proper

All clauses of a query but the select list are read where `=` is a comparison. In the select list
an item may be an assignment with `=`, which is sound no more; such items are told by `IsItem` and
`IsColumn`, and the `SELECT` around them is sound again.
-/

namespace TransactSql

open TransactSql.Parser TransactSql.Tree

/-! ### Select lists -/

/-- An expression in a select list, which may be an assignment with `=`. -/
structure Expr.IsItem (e : Expr) : Prop where
  proper : e.tree.AllProper
  renames : e.tree.renames = false
  lists : e.tree.lists = false

/-- The same with an alias, if there is one. -/
structure Expr.IsColumn (e : Expr) : Prop where
  proper : e.tree.AllProper
  lists : e.tree.lists = false

theorem Expr.IsItem.of_sound {b : Bool} {e : Expr} (h : TransactSql.Sound b e) : e.IsItem where
  proper := (h.all _ List.mem_cons_self).proper
  renames := (isLoose_eq_false.mp (h.all _ List.mem_cons_self).fixed).2.1
  lists := (isLoose_eq_false.mp (h.all _ List.mem_cons_self).fixed).2.2

/-- An item that is no assignment with `=` may stand anywhere. -/
theorem Expr.IsItem.sound {e : Expr} (item : e.IsItem) (plain : e.tree.assigns = false) :
    TransactSql.Sound true e :=
  .of_tree rfl (sound_iff.mpr
    ⟨item.proper, isLoose_eq_false.mpr ⟨plain, item.renames, item.lists⟩, by simp⟩)

/-- A plain node with one slot that may be an assignment or hold one. -/
theorem Tree.allProper_around {kind : NodeKind} {front back : List Tree} {t : Tree}
    [before : Sound false front] [after : Sound false back] (noParens : kind.hasParens = false)
    (noSign : kind.hasSign = false) (proper : t.AllProper) (native : t.isForeign = false)
    (placed : t.mayStandIn kind = true) : (node kind (front ++ t :: back)).AllProper := by
  have others : ∀ {u}, u ∈ front ++ back → u.IsSound false := by
    intro u member
    have both : Sound false (front ++ back) := inferInstance
    exact sound_iff.mp (Sound.list_iff.mp both u member)
  have slots : ∀ u ∈ front ++ t :: back, u = t ∨ u.IsSound false := by
    intro u member
    rcases List.mem_append.mp member with first | rest
    · exact .inr (others (List.mem_append_left back first))
    · exact (List.mem_cons.mp rest).imp_right fun last => others (List.mem_append_right front last)
  rw [allProper_node]
  refine ⟨.native noParens noSign (fun u member => ?_) fun u member => ?_, fun u member => ?_⟩
  · rcases slots u member with rfl | sound
    · exact native
    · exact sound.native rfl
  · rcases slots u member with rfl | sound
    · exact placed
    · exact mayStandIn_of_not_isLoose sound.fixed kind
  · rcases slots u member with rfl | sound
    · exact proper
    · exact sound.proper

namespace Checked

theorem isColumn_aliased {e : Expr} {asToken name : Token} [Sound false asToken] (item : e.IsItem)
    (accepted : (aliased e asToken name).isOk = true) : (Expr.aliased e asToken name).IsColumn := by
  simp only [aliased, Shaped.isOk_bind, Check.isOk_token, Shaped.isOk_pure, Bool.and_true,
    Bool.and_eq_true, Bool.or_eq_true, beq_iff_eq] at accepted
  have second : Sound false name := by
    rcases accepted.2 with word | string
    · exact Token.sound_of_not_isForeign (isMark_eq_false.mp (isMark_of_isWord word)).1
    · exact sound_of_kind string rfl (by simp)
  have operand := (isMark_eq_false.mp e.isMark_tree).1
  have placed : e.tree.mayStandIn .aliased = true := by simp [mayStandIn, item.renames, item.lists]
  refine ⟨?_, rfl⟩
  show (node .aliased ([] ++ e.tree :: [.token asToken, .token name])).AllProper
  exact allProper_around rfl rfl item.proper operand placed

theorem isForeign_of_separated {node : NodeKind} {items : List α} {separators : List Token}
    (accepted : (separated node items separators).isOk = true) :
    ∀ s ∈ separators, s.isForeign = false := by
  intro s member
  unfold separated at accepted
  split at accepted
  · cases accepted
  · split at accepted
    · cases accepted
    · have commas : (forM separators fun s => Check.kind node "separator" s .comma "','").isOk = true := by
        simpa using accepted
      simp only [isOk_forM, Check.isOk_kind, List.all_eq_true, beq_iff_eq] at commas
      exact Token.isForeign_of_kind (commas s member) rfl (by simp)

theorem allProper_list {items : List Expr} {separators : List Token} (columns : ∀ e ∈ items, e.IsColumn)
    (accepted : (list items separators).isOk = true) : (Expr.list items separators).tree.AllProper := by
  have commas : ∀ s ∈ separators, s.isForeign = false := by
    unfold list at accepted
    cases made : separated .exprList items separators with
    | error e =>
      rw [made] at accepted
      cases accepted
    | ok => exact isForeign_of_separated (by rw [made]; rfl)
  have slots : ∀ t ∈ interleave (Expr.slotsOf items) separators,
      (∃ e ∈ items, t = e.tree) ∨ ∃ s ∈ separators, t = .token s := by
    intro t member
    refine (mem_interleave_cases member).imp_left fun item => ?_
    rw [Expr.slotsOf_eq] at item
    obtain ⟨e, found, rfl⟩ := List.mem_map.mp item
    exact ⟨e, found, rfl⟩
  rw [Expr.tree, allProper_node]
  refine ⟨.native rfl rfl ?_ ?_, ?_⟩
  · intro t member
    rcases slots t member with ⟨e, _, rfl⟩ | ⟨s, found, rfl⟩
    · exact (isMark_eq_false.mp e.isMark_tree).1
    · exact commas s found
  · intro t member
    rcases slots t member with ⟨e, found, rfl⟩ | ⟨s, _, rfl⟩
    · simp [mayStandIn, (columns e found).lists]
    · exact mayStandIn_of_not_isLoose rfl _
  · intro t member
    rcases slots t member with ⟨e, found, rfl⟩ | ⟨s, _, rfl⟩
    · exact (columns e found).proper
    · exact allProper_token s

/-- The only slot of a query that may hold assignments is the select list. -/
theorem sound_select {b c : Bool} {keyword : Token} {quantifier : Option Token} {top : Option TopClause}
    {columns : Expr} {clauses : SelectClauses} [above : Sound b top] [Sound false clauses]
    (accepted : (select keyword quantifier top columns clauses).isOk = true)
    (proper : columns.tree.AllProper) (assigns : columns.tree.assigns = false)
    (renames : columns.tree.renames = false) :
    Sound c (Expr.select keyword quantifier top columns clauses) := by
  have word : Sound false keyword := by
    simp only [select, Shaped.isOk_bind, Check.isOk_keyword, Bool.and_eq_true] at accepted
    exact sound_of_isKeyword accepted.1
  have optional : Sound false quantifier := by
    cases quantifier with
    | none => infer_instance
    | some q =>
      simp only [select, Shaped.isOk_bind, Check.isOk_token, Bool.and_eq_true] at accepted
      have unmarked := isMark_of_isAnyKeyword accepted.2.1
      exact Sound.some_iff.mpr (Token.sound_of_not_isForeign (isMark_eq_false.mp unmarked).1)
  -- The row limit is a node, so it makes no difference in which context it was read.
  have limit : Sound false top := by
    cases top with
    | none => infer_instance
    | some t =>
      have part := (Sound.some_iff.mp above).all t.tree List.mem_cons_self
      refine Sound.some_iff.mpr (.of_tree rfl (sound_iff.mpr { part with native := fun _ => ?_ }))
      cases t
      rfl
  have list : columns.tree.mayStandIn .select = true := by simp [mayStandIn, assigns, renames]
  refine .of_tree rfl (sound_iff.mpr ⟨?_, rfl, fun _ => rfl⟩)
  exact allProper_around rfl rfl proper (isMark_eq_false.mp columns.isMark_tree).1 list

end Checked

namespace Grammar

section

variable (sub : Precedence → Parser Expr) [Subexpressions sub] [∀ min, Trusted false (sub min)]

/-! ### Clauses -/

omit [Subexpressions sub] [∀ min, Trusted false (sub min)] in
instance (read : List Expr × List Token) [h : Sound false read] :
    Trusted false (build (listOrSingle read)) := by
  unfold listOrSingle
  split
  · next e only =>
    have items : Sound false read.1 := inferInstance
    have single := Sound.list_iff.mp items e (only ▸ List.mem_cons_self)
    infer_instance
  · infer_instance

instance (k : Keyword) (body : Parser Expr) [Framed body] [Trusted false body] :
    Trusted false (optionalClause k body) := by
  unfold optionalClause
  exact .option inferInstance fun t => inferInstance

instance (k : Keyword) (body : Parser Expr) [Framed body] [Trusted false body] :
    Trusted false (optionalByClause k body) := by
  unfold optionalByClause; infer_instance

instance : Trusted false (sortItem sub) := by
  unfold sortItem
  exact .bind inferInstance fun e => .option inferInstance fun direction => inferInstance

instance : Trusted false (sortItems sub) := by unfold sortItems; infer_instance

instance (first second : Keyword) : Trusted false (optionalPair first second) := by
  unfold optionalPair; infer_instance

instance (e : Expr) [Sound false e] (accepts : Token → Bool) : Trusted false (aliased e accepts) := by
  unfold aliased
  exact .option inferInstance fun asToken => inferInstance

section

variable [∀ min, Yields (sub min) fun e => [e.tree]]

/-- The parentheses around the count are partners: a count that leaves parentheses open has nothing
behind it. -/
theorem topCount_sound {c d : Cursor} {count : Token × Expr × Token} (lexed : c.Lexed)
    (context : c.assignment = false) (run : topCount sub c = .ok count d) :
    Sound false count ∧ Paired count.1 [count.2.1.tree] count.2.2 := by
  unfold topCount at run
  obtain ⟨lparen, c₁, eaten, run⟩ := bind_ok run
  have lexed₁ := Framed.lexed lexed eaten
  have context₁ := Framed.assignment context eaten
  cases lparen with
  | none =>
    obtain ⟨e, _, number, run⟩ := bind_ok run
    have sound : Sound false e := Trusted.sound lexed₁ context₁ number
    cases run
    exact ⟨inferInstance, .inr ⟨rfl, rfl⟩⟩
  | some lparen =>
    have opening : Sound false lparen := Sound.some_iff.mp (Trusted.sound lexed context eaten)
    obtain ⟨e, c₂, number, run⟩ := bind_ok run
    have sound : Sound false e := Trusted.sound lexed₁ context₁ number
    have lexed₂ := Framed.lexed lexed₁ number
    obtain ⟨rparen, _, close, run⟩ := bind_ok run
    have closing : Sound false rparen :=
      Trusted.sound lexed₂ (Framed.assignment context₁ number) close
    cases run
    refine ⟨inferInstance, ?_⟩
    obtain ⟨rfl, isClosing, _⟩ := require_ok close
    rcases eat_ok eaten with ⟨same, isOpen, rfl⟩ | ⟨none, _⟩
    · cases same
      have isOpen := eq_of_beq isOpen
      have isClosing := eq_of_beq isClosing
      have ready := Cursor.ready_of_isSource lexed.eof (Token.isSource_of_kind_eq rfl isOpen)
      have trails : Trails c.advance (sub .none c.advance) := Subexpressions.trails ready.advance
      rw [number] at trails
      obtain ⟨ready₂, k, opens, blocked⟩ := trails
      have level : k = 0 := by
        by_contra more
        exact not_closing_of_blocked ready₂ (blocked more) isClosing
      subst level
      have reads := (Cursor.Reads.start ready.advance).next number
      exact .inl ⟨isOpen, isClosing, opens.balanced reads⟩
    · cases none

instance {b : Bool} : Trusted b (topClause sub) where
  sound {c d t} lexed context run := by
    unfold topClause at run
    rw [take_bind] at run
    obtain ⟨e, _, run⟩ := withAssignment_ok run
    obtain ⟨raw, moved⟩ := c.moved_advance
    have lexed₁ := (lexed.moved moved).setAssignment false
    obtain ⟨⟨lparen, count, rparen⟩, c₂, first, run⟩ := bind_ok run
    obtain ⟨sound, enclosed⟩ := topCount_sound sub lexed₁ rfl first
    have lexed₂ := Framed.lexed lexed₁ first
    have context₂ : c₂.assignment = false := Framed.assignment rfl first
    obtain ⟨percent, c₃, second, run⟩ := bind_ok run
    obtain ⟨withTies, c₄, third, run⟩ := bind_ok run
    have optional : Sound false percent := Trusted.sound lexed₂ context₂ second
    have ties : Sound false withTies :=
      Trusted.sound (Framed.lexed lexed₂ second) (Framed.assignment context₂ second) third
    have accepted := isOk_of_build run
    obtain ⟨rfl, _⟩ := build_ok run
    have opening : Sound false lparen := (Sound.pair_iff.mp sound).1
    have number : Sound false count := (Sound.pair_iff.mp (Sound.pair_iff.mp sound).2).1
    have closing : Sound false rparen := (Sound.pair_iff.mp (Sound.pair_iff.mp sound).2).2
    exact Checked.sound_top accepted enclosed

instance {b : Bool} : Trusted b (optionalTop sub) := by unfold optionalTop; infer_instance

/-! ### Table sources -/

instance : Trusted false joinOperator := by
  unfold joinOperator
  refine .bind inferInstance fun token => ?_
  split
  case h_6 => exact .bind inferInstance fun cross => .option inferInstance fun apply => inferInstance
  all_goals infer_instance

instance (operator : List Token) : Trusted false (joinCondition sub operator) := by
  unfold joinCondition; infer_instance

instance (source : Parser Expr) [Framed source] [Trusted false source] (left : Expr) [Sound false left] :
    Trusted false (joinStep sub source left) := by
  unfold joinStep
  exact .option inferInstance fun operator => inferInstance

instance (source : Parser Expr) [Framed source] [Trusted false source] :
    Trusted false (joinChain sub source) := by
  unfold joinChain; infer_instance

instance (sources : Parser Expr) [Framed sources] [Trusted false sources] [Level sources]
    [Yields sources fun e => [e.tree]] : Trusted false (tableOrJoin sub sources) where
  sound {c d e} lexed context run := by
    unfold tableOrJoin at run
    simp only [lookahead_bind, atKind_bind] at run
    split at run
    · next opens =>
      simp only [Bool.and_eq_true, beq_iff_eq] at opens
      rw [take_bind] at run
      obtain ⟨inner, c₂, first, run⟩ := bind_ok run
      obtain ⟨rparen, c₃, close, run⟩ := bind_ok run
      obtain ⟨rfl, _⟩ := build_ok run
      obtain ⟨opening, inside, closing, enclosed⟩ :=
        sound_enclosed lexed context opens.1.1 first close
      exact Checked.sound_paren enclosed
    · exact Trusted.sound lexed context run

instance (table : Expr) [Sound false table] : Trusted false (hinted sub table) where
  sound {c d e} lexed context run := by
    unfold hinted at run
    simp only [atKeyword_bind, lookahead_bind] at run
    split at run
    · cases run
      infer_instance
    · rw [take_bind, take_bind] at run
      obtain ⟨⟨hints, rparen⟩, _, body, run⟩ := bind_ok run
      obtain ⟨raw, moved⟩ := c.moved_advance
      cases hints with
      | none => exact absurd run fail_ok
      | some hints =>
        have accepted := isOk_of_build run
        obtain ⟨rfl, _⟩ := build_ok run
        have isOpen : c.advance.current.kind = .leftParen := by
          simp only [Checked.tableHint, Shaped.isOk_bind, Check.isOk_parens, Bool.and_eq_true,
            beq_iff_eq] at accepted
          exact accepted.2.1.1
        obtain ⟨opening, contents, closing, enclosed⟩ :=
          parenBody_sound sub (lexed.moved moved) (moved.assignment.trans context) isOpen body
        have keyword : Sound false c.current := lexed.sound_current context
        have inside := Sound.some_iff.mp contents
        exact Checked.sound_tableHint accepted enclosed

instance (sources : Parser Expr) [Framed sources] [Trusted false sources] [Level sources]
    [Yields sources fun e => [e.tree]] : Trusted false (tableSource sub sources) := by
  unfold tableSource; infer_instance

instance (limit : Nat) : Trusted false (tableSources sub limit) := by
  induction limit with
  | zero => unfold tableSources; infer_instance
  | succ limit ih =>
    have yields := tableSources_yields sub limit
    unfold tableSources
    infer_instance

instance : Trusted false (fromSources sub) where
  sound {c d e} lexed context run := by
    unfold fromSources at run
    rw [get_bind] at run
    exact Trusted.sound lexed context run

instance : Trusted false (selectClauses sub) := by unfold selectClauses; infer_instance

end

/-! ### Operators on queries -/

instance (operator : Token) : Trusted false (optionalAll operator) := by
  unfold optionalAll; infer_instance

instance (left : Expr) [Sound false left] : Trusted false (setOperation sub left) := by
  unfold setOperation; infer_instance

instance : Trusted false rowsKeyword := by
  unfold rowsKeyword
  exact .option inferInstance fun t => inferInstance

instance : Trusted false (fetchClause sub) := by
  unfold fetchClause
  exact .option inferInstance fun t => inferInstance

instance : Trusted false (offsetFetch sub) := by unfold offsetFetch; infer_instance

instance : Trusted false (optionalOffset sub) := by unfold optionalOffset; infer_instance

instance (query : Expr) [Sound false query] : Trusted false (orderBy sub query) := by
  unfold orderBy; infer_instance

instance (before : List Token) : Trusted false (statementTail before) := by
  unfold statementTail; infer_instance

instance (query : Expr) [Sound false query] : Trusted false (forOption query) := by
  unfold forOption; infer_instance

instance (query : Expr) [Sound false query] : Trusted false (hintOption query) := by
  unfold hintOption; infer_instance

end

end Grammar

end TransactSql
