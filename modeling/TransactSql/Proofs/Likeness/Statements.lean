import TransactSql.Proofs.Likeness.Checks

/-!
# Statements of related parts

Statements are related as their trees are, and checked construction accepts related parts in both
inputs or refuses them in both.
-/

namespace TransactSql

variable {R : Correspondence}

instance : Relatable VarDecl := ⟨fun R d d' => Relatable.rel R d.tree d'.tree⟩

instance : Relatable ParamDecl := ⟨fun R p p' => Relatable.rel R p.tree p'.tree⟩

instance : Relatable RoutineOptions := ⟨fun R o o' => Relatable.rel R o.tree o'.tree⟩

instance : Relatable FunctionSignature := ⟨fun R f f' => Relatable.rel R f.tree f'.tree⟩

instance : Relatable Statement := ⟨fun R s s' => Relatable.rel R s.tree s'.tree⟩

instance : Relatable Block := ⟨fun R b b' => Relatable.rel R b.tree b'.tree⟩

instance [Relatable α] : Relatable (SeparatedList α) :=
  ⟨fun R l l' => Relatable.rel R l.items l'.items ∧ Relatable.rel R l.separators l'.separators⟩

/-- Both are absent, or both present and related. -/
inductive ElseBranch.Alike (R : Correspondence) : ElseBranch → ElseBranch → Prop
  | absent : Alike R .absent .absent
  | present {t u : Token} {s s' : Statement} : Related R t u → Related R s s' →
    Alike R (.present t s) (.present u s')

instance : Relatable ElseBranch := ⟨ElseBranch.Alike⟩

section Slots

instance {d d' : VarDecl} [h : Related R d d'] : Related R d.tree d'.tree := ⟨h.rel⟩

instance {p p' : ParamDecl} [h : Related R p p'] : Related R p.tree p'.tree := ⟨h.rel⟩

instance {o o' : RoutineOptions} [h : Related R o o'] : Related R o.tree o'.tree := ⟨h.rel⟩

instance {f f' : FunctionSignature} [h : Related R f f'] : Related R f.tree f'.tree := ⟨h.rel⟩

instance {s s' : Statement} [h : Related R s s'] : Related R s.tree s'.tree := ⟨h.rel⟩

instance {b b' : Block} [h : Related R b b'] : Related R b.tree b'.tree := ⟨h.rel⟩

section Lists

variable [Relatable α] {items items' : List α} {separators separators' : List Token}

instance [h : Related R items items'] [h' : Related R separators separators'] :
    Related R (SeparatedList.mk items separators) (SeparatedList.mk items' separators') :=
  ⟨h.rel, h'.rel⟩

instance {l l' : SeparatedList α} [h : Related R l l'] : Related R l.items l'.items := ⟨h.rel.1⟩

instance {l l' : SeparatedList α} [h : Related R l l'] : Related R l.separators l'.separators :=
  ⟨h.rel.2⟩

end Lists

theorem SeparatedList.related_tree [Relatable α] {l l' : SeparatedList α} (h : Related R l l')
    (kind : NodeKind) {slot : α → Tree} (slots : ∀ a b, Related R a b → Related R (slot a) (slot b)) :
    Related R (l.tree kind slot) (l'.tree kind slot) := by
  have items : Related R (l.items.map slot) (l'.items.map slot) := .map inferInstance slots
  unfold SeparatedList.tree
  infer_instance

instance {l l' : SeparatedList Token} [h : Related R l l'] : Related R l.nameTree l'.nameTree :=
  SeparatedList.related_tree h _ fun _ _ _ => inferInstance

instance {l l' : SeparatedList VarDecl} [h : Related R l l'] :
    Related R (l.tree .separatedList VarDecl.tree) (l'.tree .separatedList VarDecl.tree) :=
  SeparatedList.related_tree h _ fun _ _ _ => inferInstance

instance {x x' : Option (SeparatedList ParamDecl)} [Related R x x'] :
    Related R (ParamDecl.listSlot x) (ParamDecl.listSlot x') := by
  have trees : Related R (x.map (SeparatedList.tree .separatedList ParamDecl.tree))
      (x'.map (SeparatedList.tree .separatedList ParamDecl.tree)) :=
    .optionMap inferInstance fun _ _ h => SeparatedList.related_tree h _ fun _ _ _ => inferInstance
  unfold ParamDecl.listSlot
  infer_instance

instance {x x' : Option (SeparatedList Token)} [Related R x x'] :
    Related R (x.map SeparatedList.nameTree).toList (x'.map SeparatedList.nameTree).toList := by
  have trees : Related R (x.map SeparatedList.nameTree) (x'.map SeparatedList.nameTree) :=
    .optionMap inferInstance fun _ _ _ => inferInstance
  infer_instance

instance {x x' : Option RoutineOptions} [Related R x x'] :
    Related R (RoutineOptions.optionalSlot x) (RoutineOptions.optionalSlot x') := by
  have trees : Related R (x.map RoutineOptions.tree) (x'.map RoutineOptions.tree) :=
    .optionMap inferInstance fun _ _ _ => inferInstance
  unfold RoutineOptions.optionalSlot
  infer_instance

instance {ss ss' : List Statement} [h : Related R ss ss'] :
    Related R (Statement.slotsOf ss) (Statement.slotsOf ss') := by
  have related := h.rel
  clear h
  induction related with
  | nil =>
    simp only [Statement.slotsOf]
    infer_instance
  | cons first _ rest =>
    simp only [Statement.slotsOf]
    exact ⟨.cons first rest.rel⟩

theorem ElseBranch.cases_of_related {b b' : ElseBranch} (h : Related R b b') :
    (b = .absent ∧ b' = .absent) ∨ ∃ t t' s s', b = .present t s ∧ b' = .present t' s' ∧
      Related R t t' ∧ Related R s s' := by
  have related := h.rel
  cases related with
  | absent => exact .inl ⟨rfl, rfl⟩
  | present keyword branch => exact .inr ⟨_, _, _, _, rfl, rfl, keyword, branch⟩

instance : Related R ElseBranch.absent ElseBranch.absent := ⟨.absent⟩

instance {t t' : Token} {s s' : Statement} [h : Related R t t'] [h' : Related R s s'] :
    Related R (ElseBranch.present t s) (ElseBranch.present t' s') := ⟨.present h h'⟩

instance {b b' : ElseBranch} [h : Related R b b'] : Related R b.slots b'.slots := by
  obtain ⟨rfl, rfl⟩ | ⟨t, t', s, s', rfl, rfl, _, _⟩ := ElseBranch.cases_of_related h <;>
    simp only [ElseBranch.slots] <;> infer_instance

end Slots

/-! ### Nodes -/

section Nodes

variable {t t' u u' v v' w w' : Token} {e e' : Expr} {n n' : Name} {r r' : RawTokens}
  {x x' : Option Token} {a a' : Option Expr} {ts ts' : List Token} {tail tail' : Tail}
  {type type' : DataType} {table table' : TableType} {names names' : SeparatedList Token}
  {declarations declarations' : SeparatedList VarDecl} {b b' : Block} {s s' : Statement}
  {ss ss' zs zs' : List Statement} {otherwise otherwise' : ElseBranch}
  {pair₁ pair₁' pair₂ pair₂' pair₃ pair₃' pair₄ pair₄' : Token × Token}
  {options options' : Option RoutineOptions} {f f' : FunctionSignature}

variable [Related R t t'] [Related R u u'] [Related R v v'] [Related R w w'] [Related R e e']
  [Related R n n'] [Related R r r'] [hx : Related R x x'] [Related R a a'] [hts : Related R ts ts']
  [htail : Related R tail tail'] [Related R type type'] [Related R table table']
  [Related R names names'] [Related R declarations declarations'] [Related R b b']
  [Related R s s'] [Related R ss ss'] [Related R zs zs'] [hotherwise : Related R otherwise otherwise']
  [Related R pair₁ pair₁'] [Related R pair₂ pair₂'] [Related R pair₃ pair₃']
  [Related R pair₄ pair₄'] [Related R options options'] [Related R f f']

theorem Statement.related_of_tree {s s' : Statement} (h : Related R s.tree s'.tree) :
    Related R s s' := ⟨h.rel⟩

instance : Related R (Statement.empty t) (Statement.empty t') :=
  Statement.related_of_tree (by simp only [Statement.tree]; infer_instance)

instance : Related R (Statement.expression e t) (Statement.expression e' t') :=
  Statement.related_of_tree (by simp only [Statement.tree]; infer_instance)

instance : Related R (Statement.block b) (Statement.block b') :=
  Statement.related_of_tree (by simp only [Statement.tree]; infer_instance)

instance :
    Related R (Statement.beginTransaction t u x v)
      (Statement.beginTransaction t' u' x' v') :=
  Statement.related_of_tree (by simp only [Statement.tree]; infer_instance)

instance :
    Related R (Statement.tryCatch pair₁ ss pair₂ pair₃ zs pair₄ t)
      (Statement.tryCatch pair₁' ss' pair₂' pair₃' zs' pair₄' t') :=
  Statement.related_of_tree (by simp only [Statement.tree]; infer_instance)

instance : Related R (Statement.ifElse t e s otherwise) (Statement.ifElse t' e' s' otherwise') :=
  Statement.related_of_tree (by simp only [Statement.tree]; infer_instance)

instance : Related R (Statement.whileLoop t e s) (Statement.whileLoop t' e' s') :=
  Statement.related_of_tree (by simp only [Statement.tree]; infer_instance)

instance : Related R (Statement.loopControl t u) (Statement.loopControl t' u') :=
  Statement.related_of_tree (by simp only [Statement.tree]; infer_instance)

instance : Related R (Statement.returnValue t a u) (Statement.returnValue t' a' u') :=
  Statement.related_of_tree (by simp only [Statement.tree]; infer_instance)

instance : Related R (Statement.goto t u v) (Statement.goto t' u' v') :=
  Statement.related_of_tree (by simp only [Statement.tree]; infer_instance)

instance : Related R (Statement.label t u) (Statement.label t' u') :=
  Statement.related_of_tree (by simp only [Statement.tree]; infer_instance)

instance : Related R (Statement.setVariable t u v e w) (Statement.setVariable t' u' v' e' w') :=
  Statement.related_of_tree (by simp only [Statement.tree]; infer_instance)

instance : Related R (Statement.setOption t names r u) (Statement.setOption t' names' r' u') :=
  Statement.related_of_tree (by simp only [Statement.tree]; infer_instance)

instance : Related R (Statement.declare t declarations u) (Statement.declare t' declarations' u') :=
  Statement.related_of_tree (by simp only [Statement.tree]; infer_instance)

instance :
    Related R (Statement.createScalarFunction f type options t b)
      (Statement.createScalarFunction f' type' options' t' b') :=
  Statement.related_of_tree (by simp only [Statement.tree]; infer_instance)

instance :
    Related R (Statement.createTableFunction f t table options u b)
      (Statement.createTableFunction f' t' table' options' u' b') :=
  Statement.related_of_tree (by simp only [Statement.tree]; infer_instance)

instance : Related R (Statement.unmodeled r t) (Statement.unmodeled r' t') :=
  Statement.related_of_tree (by simp only [Statement.tree]; infer_instance)

instance : Related R (Block.mk t ss u v) (Block.mk t' ss' u' v') := by
  have trees : Related R (Block.mk t ss u v).tree (Block.mk t' ss' u' v').tree := by
    simp only [Block.tree]
    infer_instance
  exact ⟨trees.rel⟩

instance : Related R (VarDecl.mk t u type tail) (VarDecl.mk t' u' type' tail') := by
  have trees : Related R (VarDecl.mk t u type tail).tree (VarDecl.mk t' u' type' tail').tree := by
    simp only [VarDecl.tree]
    infer_instance
  exact ⟨trees.rel⟩

instance : Related R (ParamDecl.mk t u type x tail ts) (ParamDecl.mk t' u' type' x' tail' ts') := by
  have trees : Related R (ParamDecl.mk t u type x tail ts).tree
      (ParamDecl.mk t' u' type' x' tail' ts').tree := by
    simp only [ParamDecl.tree]
    infer_instance
  exact ⟨trees.rel⟩

instance : Related R (RoutineOptions.mk t r) (RoutineOptions.mk t' r') := by
  have trees : Related R (RoutineOptions.mk t r).tree (RoutineOptions.mk t' r').tree := by
    simp only [RoutineOptions.tree]
    infer_instance
  exact ⟨trees.rel⟩

end Nodes

/-! ### Checked construction -/

namespace Checked

section Statements

variable {t t' u u' v v' w w' : Token} {e e' : Expr} {r r' : RawTokens} {x x' : Option Token}
  {a a' : Option Expr} {ts ts' us us' : List Token} {tail tail' : Tail} {type type' : DataType}
  {table table' : TableType} {options options' : Option RoutineOptions}
  {list list' : SeparatedList Token} {decls decls' : SeparatedList VarDecl}
  {b b' : Block} {s s' : Statement} {ss ss' zs zs' : List Statement}
  {otherwise otherwise' : ElseBranch} {f f' : FunctionSignature}
  {pair₁ pair₁' pair₂ pair₂' pair₃ pair₃' pair₄ pair₄' : Token × Token}

variable [Related R t t'] [Related R u u'] [Related R v v'] [Related R w w'] [Related R e e']
  [Related R r r'] [hx : Related R x x'] [Related R a a'] [hts : Related R ts ts']
  [hus : Related R us us'] [htail : Related R tail tail'] [Related R type type']
  [Related R table table'] [Related R options options'] [hlist : Related R list list']
  [Related R decls decls'] [Related R b b'] [Related R s s'] [Related R ss ss']
  [Related R zs zs'] [hotherwise : Related R otherwise otherwise'] [Related R f f']
  [Related R pair₁ pair₁'] [Related R pair₂ pair₂'] [Related R pair₃ pair₃']
  [Related R pair₄ pair₄']

instance : Related R (names ts us) (names ts' us') := by
  refine Shaped.related_bind (related_separated .nameList hts hus) fun x y h => ?_
  obtain ⟨_, _, _, _, rfl, rfl, _, _⟩ := h.pair
  dsimp only
  infer_instance

instance [Relatable α] {items items' : List α} [h : Related R items items'] :
    Related R (declarations items ts) (declarations items' ts') := by
  refine Shaped.related_bind (related_separated .separatedList h hts) fun x y h => ?_
  obtain ⟨_, _, _, _, rfl, rfl, _, _⟩ := h.pair
  dsimp only
  infer_instance

instance : Related R (empty t) (empty t') := by unfold empty; infer_instance

instance : Related R (expression e t) (expression e' t') := by unfold expression; infer_instance

instance : Related R (loopControl t u) (loopControl t' u') := by unfold loopControl; infer_instance

instance : Related R (returnValue t a u) (returnValue t' a' u') := by
  unfold returnValue; infer_instance

instance : Related R (goto t u v) (goto t' u' v') := by unfold goto; infer_instance

instance : Related R (label t u) (label t' u') := by unfold label; infer_instance

instance : Related R (setVariable t u v e w) (setVariable t' u' v' e' w') := by
  unfold setVariable; infer_instance

instance : Related R (setOption t list r u) (setOption t' list' r' u') := by
  have identifiers : Related R
      (list.items.forM fun option => Check.identifier .setOption "option" option)
      (list'.items.forM fun option => Check.identifier .setOption "option" option) :=
    Shaped.related_forM inferInstance fun _ _ _ => inferInstance
  unfold setOption
  infer_instance

instance : Related R (unmodeled r t) (unmodeled r' t') := by unfold unmodeled; infer_instance

instance : Related R (block t ss u v) (block t' ss' u' v') := by unfold block; infer_instance

instance : Related R (beginTransaction t u x v) (beginTransaction t' u' x' v') := by
  unfold beginTransaction
  obtain ⟨rfl, rfl⟩ | ⟨_, _, rfl, rfl, _⟩ := hx.option <;> dsimp only <;> infer_instance

instance (node : NodeKind) (first second : Keyword) :
    Related R (keywordPair node pair₁ first second) (keywordPair node pair₁' first second) := by
  unfold keywordPair; infer_instance

instance : Related R (tryCatch pair₁ ss pair₂ pair₃ zs pair₄ t)
    (tryCatch pair₁' ss' pair₂' pair₃' zs' pair₄' t') := by
  unfold tryCatch; infer_instance

instance : Related R (ifElse t e s otherwise) (ifElse t' e' s' otherwise') := by
  unfold ifElse
  obtain ⟨rfl, rfl⟩ | ⟨_, _, _, _, rfl, rfl, _, _⟩ := ElseBranch.cases_of_related hotherwise <;>
    dsimp only <;> infer_instance

instance : Related R (whileLoop t e s) (whileLoop t' e' s') := by unfold whileLoop; infer_instance

instance (node : NodeKind) (slot : String) :
    Related R (initializer node slot tail) (initializer node slot tail') := by
  obtain ⟨rfl, rfl⟩ | ⟨_, _, _, _, rfl, rfl, _, _⟩ := Tail.cases_of_related htail <;>
    unfold initializer <;> infer_instance

instance : Related R (varDecl t u type tail) (varDecl t' u' type' tail') := by
  unfold varDecl; infer_instance

instance : Related R (declare t decls u) (declare t' decls' u') := by
  unfold declare; infer_instance

instance : Related R (paramDecl t u type x tail ts) (paramDecl t' u' type' x' tail' ts') := by
  have modifiers : Related R
      (ts.forM fun m => Check.token .paramDecl "modifier" m "OUT, OUTPUT or READONLY"
        (m.isAnyKeyword [.OUT, .OUTPUT, .READONLY]))
      (ts'.forM fun m => Check.token .paramDecl "modifier" m "OUT, OUTPUT or READONLY"
        (m.isAnyKeyword [.OUT, .OUTPUT, .READONLY])) :=
    Shaped.related_forM hts fun _ _ _ => inferInstance
  unfold paramDecl
  infer_instance

instance : Related R (routineOptions t r) (routineOptions t' r') := by
  unfold routineOptions; infer_instance

instance : Related R (createScalarFunction f type options t b)
    (createScalarFunction f' type' options' t' b') := by
  unfold createScalarFunction; infer_instance

instance : Related R (createTableFunction f t table options u b)
    (createTableFunction f' t' table' options' u' b') := by
  unfold createTableFunction; infer_instance

end Statements

/-! ### Cursors and routines -/

section Routines

theorem related_isUpdateClause {ts us : List Token} (h : Related R ts us) :
    Related R (isUpdateClause ts) (isUpdateClause us) := by
  obtain ⟨rfl, rfl⟩ | ⟨t, _, u, _, rfl, rfl, _, rest⟩ := h.list
  · exact ⟨rfl⟩
  · obtain ⟨rfl, rfl⟩ | ⟨t', _, u', _, rfl, rfl, _, _⟩ := rest.list
    · exact ⟨rfl⟩
    · exact inferInstanceAs (Related R (t.isKeyword .FOR && t'.isKeyword .UPDATE)
        (u.isKeyword .FOR && u'.isKeyword .UPDATE))

theorem related_isCreate {ts us : List Token} (h : Related R ts us) :
    Related R (isCreate ts) (isCreate us) := by
  obtain ⟨rfl, rfl⟩ | ⟨t, _, u, _, rfl, rfl, _, rest⟩ := h.list
  · exact ⟨rfl⟩
  · obtain ⟨rfl, rfl⟩ | ⟨t', _, u', _, rfl, rfl, _, rest⟩ := rest.list
    · exact inferInstanceAs (Related R (t.isAnyKeyword _) (u.isAnyKeyword _))
    · obtain ⟨rfl, rfl⟩ | ⟨t'', _, u'', _, rfl, rfl, _, rest⟩ := rest.list
      · exact ⟨rfl⟩
      · obtain ⟨rfl, rfl⟩ | ⟨_, _, _, _, rfl, rfl, _, _⟩ := rest.list
        · exact inferInstanceAs (Related R
            (t.isKeyword .CREATE && t'.isKeyword .OR && t''.isKeyword .ALTER)
            (u.isKeyword .CREATE && u'.isKeyword .OR && u''.isKeyword .ALTER))
        · exact ⟨rfl⟩

instance (node : NodeKind) {ts us : List Token} [h : Related R ts us] :
    Related R (create node ts) (create node us) := by
  have same := related_isCreate h
  unfold create
  infer_instance

variable {t t' u u' v v' w w' k k' : Token} {e e' : Expr} {n n' : Name} {r r' q q' : RawTokens}
  {ts ts' : List Token} {columns columns' : Option (SeparatedList Token)}
  {params params' : Option (SeparatedList ParamDecl)} {options options' : Option RoutineOptions}
  {update update' : Option RawTokens} {replication replication' : Option (Token × Token)}
  {check check' : Option (Token × Token × Token)} {f f' : FunctionSignature}
  {ss ss' : List Statement}

variable [Related R t t'] [Related R u u'] [Related R v v'] [Related R w w'] [Related R k k']
  [Related R e e'] [Related R n n'] [Related R r r'] [Related R q q'] [Related R ts ts']
  [Related R columns columns'] [Related R params params'] [Related R options options']
  [hupdate : Related R update update'] [hreplication : Related R replication replication']
  [hcheck : Related R check check'] [Related R f f'] [Related R ss ss']

instance : Related R (declareCursor ⟨t, u, r, v, q, w, e, update, k⟩)
    (declareCursor ⟨t', u', r', v', q', w', e', update', k'⟩) := by
  have node : Related R (Statement.declareCursor ⟨t, u, r, v, q, w, e, update, k⟩)
      (.declareCursor ⟨t', u', r', v', q', w', e', update', k'⟩) :=
    Statement.related_of_tree (by simp only [Statement.tree, CursorDecl.tree]; infer_instance)
  have updates : Related R (update.all (isUpdateClause ·.tokens))
      (update'.all (isUpdateClause ·.tokens)) :=
    .all hupdate fun _ _ _ => related_isUpdateClause inferInstance
  unfold declareCursor
  dsimp only
  infer_instance

instance : Related R (createProcedure ⟨ts, t, n, u, params, v, options, replication, w⟩ ss)
    (createProcedure ⟨ts', t', n', u', params', v', options', replication', w'⟩ ss') := by
  have first : Related R (replication.map (·.1)) (replication'.map (·.1)) :=
    .optionMap hreplication fun _ _ _ => inferInstance
  have second : Related R (replication.map (·.2)) (replication'.map (·.2)) :=
    .optionMap hreplication fun _ _ _ => inferInstance
  have pair : Related R ((replication.map Tree.tokenPair).getD [])
      ((replication'.map Tree.tokenPair).getD []) := by
    have pairs : Related R (replication.map Tree.tokenPair) (replication'.map Tree.tokenPair) :=
      .optionMap hreplication fun _ _ _ => inferInstance
    infer_instance
  have node : Related R
      (Statement.createProcedure ⟨ts, t, n, u, params, v, options, replication, w⟩ ss)
      (.createProcedure ⟨ts', t', n', u', params', v', options', replication', w'⟩ ss') :=
    Statement.related_of_tree (by simp only [Statement.tree, ProcedureHeader.slots]; infer_instance)
  unfold createProcedure
  dsimp only
  infer_instance

instance : Related R (createView ⟨ts, t, n, u, columns, v, options, w, e, check, k⟩)
    (createView ⟨ts', t', n', u', columns', v', options', w', e', check', k'⟩) := by
  have first : Related R (check.map (·.1)) (check'.map (·.1)) :=
    .optionMap hcheck fun _ _ _ => inferInstance
  have second : Related R (check.map (·.2.1)) (check'.map (·.2.1)) :=
    .optionMap hcheck fun _ _ _ => inferInstance
  have third : Related R (check.map (·.2.2)) (check'.map (·.2.2)) :=
    .optionMap hcheck fun _ _ _ => inferInstance
  have slots : Related R ((check.map fun (a, b, c) => Tree.tokenSlots [a, b, c]).getD [])
      ((check'.map fun (a, b, c) => Tree.tokenSlots [a, b, c]).getD []) := by
    have lists : Related R (check.map fun (a, b, c) => Tree.tokenSlots [a, b, c])
        (check'.map fun (a, b, c) => Tree.tokenSlots [a, b, c]) := by
      refine .optionMap hcheck fun x y h => ?_
      exact inferInstanceAs (Related R (Tree.tokenSlots [x.1, x.2.1, x.2.2])
        (Tree.tokenSlots [y.1, y.2.1, y.2.2]))
    infer_instance
  have node : Related R
      (Statement.createView ⟨ts, t, n, u, columns, v, options, w, e, check, k⟩)
      (.createView ⟨ts', t', n', u', columns', v', options', w', e', check', k'⟩) :=
    Statement.related_of_tree (by simp only [Statement.tree, ViewDef.tree]; infer_instance)
  have opens : u.isPlaceholder = u'.isPlaceholder := Bool.eq_of_related (R := R) inferInstance
  have absent : columns.isNone = columns'.isNone := Bool.eq_of_related (R := R) inferInstance
  unfold createView
  dsimp only
  rw [opens, absent]
  infer_instance

instance : Related R (functionSignature ⟨ts, t, n, u, params, v, w⟩)
    (functionSignature ⟨ts', t', n', u', params', v', w'⟩) := by
  have signature : Related R (FunctionSignature.mk ts t n u params v w)
      (FunctionSignature.mk ts' t' n' u' params' v' w') := by
    have trees : Related R (FunctionSignature.mk ts t n u params v w).tree
        (FunctionSignature.mk ts' t' n' u' params' v' w').tree := by
      simp only [FunctionSignature.tree]
      infer_instance
    exact ⟨trees.rel⟩
  unfold functionSignature
  dsimp only
  infer_instance

instance : Related R (createInlineFunction ⟨f, t, options, u, v, e, w⟩)
    (createInlineFunction ⟨f', t', options', u', v', e', w'⟩) := by
  have node : Related R (Statement.createInlineFunction ⟨f, t, options, u, v, e, w⟩)
      (.createInlineFunction ⟨f', t', options', u', v', e', w'⟩) :=
    Statement.related_of_tree (by simp only [Statement.tree, InlineFunction.tree]; infer_instance)
  unfold createInlineFunction
  dsimp only
  infer_instance

end Routines

end Checked

end TransactSql
