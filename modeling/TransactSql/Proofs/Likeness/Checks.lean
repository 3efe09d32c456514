import TransactSql.Proofs.Expr.Checked
import TransactSql.Proofs.Likeness.Construction

/-!
# Checked construction of related parts

A construction accepts related parts in both inputs or refuses them in both. The kind of a node is
that of its tree, so questions about the kind of a part have the same answer.
-/

namespace TransactSql

variable {R : Correspondence}

/-! ### Kinds of parts -/

namespace Expr

theorem tree_eq_node (e : Expr) : ∃ slots, e.tree = .node e.kind slots := by
  cases e <;> exact ⟨_, by simp only [tree, kind]; rfl⟩

theorem kind_of_related {e f : Expr} (h : Related R e f) : e.kind = f.kind := by
  obtain ⟨slots, treeE⟩ := e.tree_eq_node
  obtain ⟨slots', treeF⟩ := f.tree_eq_node
  have alike : Tree.Alike R.tokens e.tree f.tree := h.rel
  rw [treeE, treeF] at alike
  exact (Tree.alike_node alike).1

theorem paren_of_related {t u : Token} {e f : Expr} (h : Related R (.paren t e u) f) :
    ∃ t' e' u', f = .paren t' e' u' ∧ Related R e e' := by
  have kinds := kind_of_related h
  cases f <;> simp only [kind, reduceCtorEq] at kinds
  have alike := h.rel
  simp only [Relatable.rel, tree] at alike
  cases alike with
  | node slots =>
    cases slots with
    | cons _ rest =>
      cases rest with
      | cons inner _ => exact ⟨_, _, _, rfl, ⟨inner⟩⟩

theorem isQuery_of_related : ∀ {e f : Expr}, Related R e f → e.isQuery = f.isQuery
  | .paren t e u, f, h => by
    obtain ⟨t', e', u', rfl, inner⟩ := paren_of_related h
    simp only [isQuery]
    exact isQuery_of_related inner
  | .literal _, f, h | .name _, f, h | .unary .., f, h | .binary .., f, h | .assignment .., f, h
  | .isNull .., f, h | .like .., f, h | .between .., f, h | .isIn .., f, h | .call .., f, h
  | .window .., f, h | .cast .., f, h | .case .., f, h | .collate .., f, h | .list .., f, h
  | .aliased .., f, h | .sort .., f, h | .join .., f, h | .tableHint .., f, h | .select .., f, h
  | .setOperation .., f, h | .orderBy .., f, h | .queryOption .., f, h | .raw _, f, h => by
    have kinds := kind_of_related h
    have inner : f.kind ≠ .paren := kinds ▸ nofun
    rw [isQuery_eq inner, ← kinds]
    rfl

instance {e f : Expr} [h : Related R e f] : Related R e.isQuery f.isQuery := ⟨isQuery_of_related h⟩

instance {e f : Expr} [h : Related R e f] : Related R e.isCall f.isCall := by
  have same : e.isCall = f.isCall := by rw [isCall_eq, isCall_eq, kind_of_related h]
  exact ⟨same⟩

theorem name_of_related {n : Name} {f : Expr} (h : Related R (.name n) f) :
    ∃ m, f = .name m ∧ Related R n m := by
  have kinds := kind_of_related h
  cases f <;> simp only [kind, reduceCtorEq] at kinds
  next m =>
    have alike : Tree.Alike R.tokens (Expr.name n).tree (Expr.name m).tree := h.rel
    simp only [tree] at alike
    have parts := Tree.tokens_of_slots ⟨(Tree.alike_node alike).2⟩
    exact ⟨m, rfl, ⟨parts.rel⟩⟩

instance {e f : Expr} [h : Related R e f] : Related R e.name? f.name? := by
  by_cases named : e.kind = .name
  · cases e <;> simp only [kind, reduceCtorEq] at named
    obtain ⟨m, rfl, names⟩ := name_of_related h
    exact ⟨.some names.rel⟩
  · have named' : f.kind ≠ .name := kind_of_related h ▸ named
    rw [name?_eq_none named, name?_eq_none named']
    infer_instance

end Expr

namespace Name

variable {n m : Name} [h : Related R n m]

instance : Related R n.isWildcard m.isWildcard :=
  .any inferInstance fun _ _ _ => inferInstance

instance : Related R n.isVariable m.isVariable := by
  obtain ⟨parts⟩ := n
  obtain ⟨parts'⟩ := m
  have related : Related R parts parts' := ⟨h.rel⟩
  unfold isVariable
  obtain ⟨rfl, rfl⟩ | ⟨t, ts, u, us, rfl, rfl, _, rest⟩ := related.list
  · exact ⟨rfl⟩
  · obtain ⟨rfl, rfl⟩ | ⟨_, _, _, _, rfl, rfl, _, _⟩ := rest.list
    · exact inferInstanceAs (Related R t.isVariable u.isVariable)
    · exact ⟨rfl⟩

end Name

instance {t u : DataType} [h : Related R t u] : Related R t.isTable u.isTable := by
  have alike : Tree.Alike R.tokens t.tree u.tree := h.rel
  cases t <;> cases u <;> simp only [DataType.tree, TableType.tree] at alike
  · exact ⟨rfl⟩
  · exact absurd (Tree.alike_node alike).1 (by simp)
  · exact absurd (Tree.alike_node alike).1 (by simp)
  · exact ⟨rfl⟩

/-! ### Lists and tokens kept raw -/

namespace Checked

theorem related_separated [Relatable α] (node : NodeKind) {items items' : List α}
    {separators separators' : List Token} (h : Related R items items')
    (h' : Related R separators separators') :
    Related R (separated node items separators) (separated node items' separators') := by
  have lengths := h.length_eq
  have lengths' := h'.length_eq
  have commas : Related R
      (separators.forM fun s => Check.kind node "separator" s .comma "','")
      (separators'.forM fun s => Check.kind node "separator" s .comma "','") :=
    Shaped.related_forM h' fun _ _ _ => inferInstance
  have empty : items.isEmpty = items'.isEmpty := Bool.eq_of_related (R := R) inferInstance
  unfold separated
  rw [lengths, lengths', empty]
  exact .ite Iff.rfl inferInstance (.ite Iff.rfl inferInstance inferInstance)

theorem related_rawTokens {ts us : List Token} (h : Related R ts us) :
    Related R (rawTokens ts) (rawTokens us) := by
  have found : ∀ {ts us : List Token}, Related R ts us →
      Related R (ts.find? fun t => t.isPlaceholder || t.isEof || t.isError)
        (us.find? fun t => t.isPlaceholder || t.isEof || t.isError) := by
    intro ts us h
    have related := h.rel
    clear h
    induction related with
    | nil => exact ⟨.none⟩
    | @cons t u ts us first _ rest =>
      have tokens : Related R t u := ⟨first⟩
      have same : (t.isPlaceholder || t.isEof || t.isError) =
          (u.isPlaceholder || u.isEof || u.isError) := Bool.eq_of_related (R := R) inferInstance
      rw [List.find?_cons, List.find?_cons, same]
      split
      · infer_instance
      · exact rest
  unfold rawTokens
  obtain ⟨none, none'⟩ | ⟨t, u, some, some', _⟩ := (found h).option
  · rw [none, none']
    infer_instance
  · rw [some, some']
    infer_instance

instance {ts us : List Token} [h : Related R ts us] : Related R (rawTokens ts) (rawTokens us) :=
  related_rawTokens h

/-! ### Names -/

theorem related_nameParts : ∀ (first wanted : Bool) {ts us : List Token}, Related R ts us →
    Related R (nameParts first wanted ts) (nameParts first wanted us)
  | first, wanted, [], us, h => by
    obtain ⟨_, rfl⟩ | ⟨_, _, _, _, impossible, _⟩ := h.list
    · exact ⟨rfl⟩
    · cases impossible
  | first, wanted, t :: ts, us, h => by
    obtain ⟨impossible, _⟩ | ⟨_, _, u, us, same, rfl, token, rest⟩ := h.list
    · cases impossible
    · obtain ⟨rfl, rfl⟩ := List.cons.inj same
      have behind := related_nameParts false true rest
      have behind' := related_nameParts false false rest
      unfold nameParts
      exact .ite (Token.kind_eq_iff token .dot) inferInstance inferInstance

instance {ts us : List Token} [h : Related R ts us] : Related R (name ts) (name us) := by
  have parts := related_nameParts true true h
  unfold name
  infer_instance

/-- Related words are the same keywords. -/
theorem related_words : ∀ {ts us : List Token}, Related R ts us → ∀ ks : List Keyword,
    Related R ((ts.zip ks).forM fun (t, k) => Check.keyword .clause "keyword" t k)
      ((us.zip ks).forM fun (t, k) => Check.keyword .clause "keyword" t k)
  | [], us, h, ks => by
    obtain ⟨_, rfl⟩ | ⟨_, _, _, _, impossible, _⟩ := h.list
    · exact ⟨rfl⟩
    · cases impossible
  | t :: ts, us, h, [] => ⟨by cases us <;> rfl⟩
  | t :: ts, us, h, k :: ks => by
    obtain ⟨impossible, _⟩ | ⟨_, _, u, us, same, rfl, _, rest⟩ := h.list
    · cases impossible
    · obtain ⟨rfl, rfl⟩ := List.cons.inj same
      have behind := related_words rest ks
      exact Shaped.related_bind (inferInstanceAs
        (Related R (Check.keyword .clause "keyword" t k) (Check.keyword .clause "keyword" u k)))
        fun _ _ _ => behind

/-! ### Expressions -/

section Expressions

variable {t t' u u' v v' w w' : Token} {e e' f f' g g' : Expr} {n n' : Name} {r r' : RawTokens}
  {x x' : Option Token} {a a' : Option Expr} {ts ts' : List Token} {es es' : List Expr}
  {tail tail' : Tail} {type type' : DataType} {c c' : Clause} {partition partition' : OverClause}
  {whens whens' : List WhenClause} {top top' : Option TopClause} {clauses clauses' : SelectClauses}
  {offset offset' : Option OffsetFetch} {p p' q q' : Option Clause} {frame frame' : Option RawTokens}
  {next next' : Option FetchClause} {ties ties' : Option (Token × Token)}

variable [Related R t t'] [Related R u u'] [Related R v v'] [Related R w w'] [Related R e e']
  [Related R f f'] [Related R g g'] [Related R n n'] [Related R r r'] [hx : Related R x x']
  [Related R a a'] [hts : Related R ts ts'] [hes : Related R es es'] [htail : Related R tail tail']
  [Related R type type'] [Related R c c'] [Related R partition partition'] [Related R whens whens']
  [Related R top top'] [hclauses : Related R clauses clauses'] [Related R offset offset']
  [hp : Related R p p'] [Related R q q'] [Related R frame frame'] [Related R next next']
  [hties : Related R ties ties']

instance : Related R (list es ts) (list es' ts') := by
  refine Shaped.related_bind (related_separated .exprList hes hts) fun x y h => ?_
  obtain ⟨items, separators, items', separators', rfl, rfl, _, _⟩ := h.pair
  dsimp only
  infer_instance

instance : Related R (literal t) (literal t') := by unfold literal; infer_instance

instance : Related R (paren t e u) (paren t' e' u') := by unfold paren; infer_instance

instance : Related R (unary t e) (unary t' e') := by unfold unary; infer_instance

instance : Related R (binary e t f) (binary e' t' f') := by unfold binary; infer_instance

instance : Related R (assignment e t f) (assignment e' t' f') := by
  unfold assignment; infer_instance

instance : Related R (isNull e t x u) (isNull e' t' x' u') := by unfold isNull; infer_instance

instance (node : NodeKind) (slot : String) (k : Keyword) :
    Related R (Checked.tail node slot k tail) (Checked.tail node slot k tail') := by
  obtain ⟨rfl, rfl⟩ | ⟨k, k', e, f, rfl, rfl, _, _⟩ := Tail.cases_of_related htail <;>
    unfold Checked.tail <;> infer_instance

instance : Related R (like e x t f tail) (like e' x' t' f' tail') := by unfold like; infer_instance

instance : Related R (between e x t f u g) (between e' x' t' f' u' g') := by
  unfold between; infer_instance

instance : Related R (isIn e x t u f v) (isIn e' x' t' u' f' v') := by unfold isIn; infer_instance

instance : Related R (collate e t u) (collate e' t' u') := by unfold collate; infer_instance

instance : Related R (call e t a u) (call e' t' a' u') := by unfold call; infer_instance

instance (node : NodeKind) (slot : String) (k : Keyword) :
    Related R (leading node slot p k) (leading node slot p' k) := by
  obtain ⟨rfl, rfl⟩ | ⟨⟨words, body⟩, ⟨words', body'⟩, rfl, rfl, clauses⟩ := hp.option
  · exact ⟨rfl⟩
  · have keywords : Related R words words' := ⟨clauses.rel.1⟩
    obtain ⟨rfl, rfl⟩ | ⟨t, _, u, _, rfl, rfl, _, _⟩ := keywords.list
    · exact ⟨rfl⟩
    · exact inferInstanceAs (Related R (Check.keyword node slot t k) (Check.keyword node slot u k))

instance : Related R (overClause t u p q frame v) (overClause t' u' p' q' frame' v') := by
  unfold overClause
  infer_instance

instance : Related R (window e partition) (window e' partition') := by
  unfold window; infer_instance

instance : Related R (cast t u e v type w) (cast t' u' e' v' type' w') := by
  unfold cast; infer_instance

instance : Related R (whenClause t e u f) (whenClause t' e' u' f') := by
  unfold whenClause
  infer_instance

instance : Related R (case t a whens tail u) (case t' a' whens' tail' u') := by
  unfold case; infer_instance

instance : Related R (typeName n t a u) (typeName n' t' a' u') := by
  have open' : t.isPlaceholder = t'.isPlaceholder := Bool.eq_of_related (R := R) inferInstance
  have absent : a.isNone = a'.isNone := Bool.eq_of_related (R := R) inferInstance
  unfold typeName
  rw [open', absent]
  infer_instance

instance : Related R (tableType t u r v) (tableType t' u' r' v') := by
  unfold tableType
  infer_instance

instance : Related R (aliased e t u) (aliased e' t' u') := by unfold aliased; infer_instance

instance : Related R (sort e t) (sort e' t') := by unfold sort; infer_instance

instance : Related R (isUnconditional ts) (isUnconditional ts') := by
  have last : Related R (ts.getLast?.any (·.isKeyword .APPLY)) (ts'.getLast?.any (·.isKeyword .APPLY)) :=
    .any inferInstance fun _ _ _ => inferInstance
  have first : Related R (ts.head?.any (·.isKeyword .CROSS)) (ts'.head?.any (·.isKeyword .CROSS)) :=
    .any inferInstance fun _ _ _ => inferInstance
  unfold isUnconditional
  infer_instance

instance : Related R (join e ts f tail) (join e' ts' f' tail') := by
  have last : Related R ts.getLast? ts'.getLast? := inferInstance
  have unconditional : isUnconditional ts = isUnconditional ts' :=
    Bool.eq_of_related (R := R) inferInstance
  have present : tail.value?.isSome = tail'.value?.isSome :=
    Bool.eq_of_related (R := R) inferInstance
  unfold join
  rw [unconditional, present, hts.length_eq]
  obtain ⟨none, none'⟩ | ⟨t, u, some, some', _⟩ := last.option
  · rw [none, none']
    exact ⟨trivial⟩
  · rw [some, some']
    dsimp only
    infer_instance

instance : Related R (tableHint e t u f v) (tableHint e' t' u' f' v') := by
  unfold tableHint; infer_instance

instance (ks : List Keyword) : Related R (clause ts ks e) (clause ts' ks e') := by
  have made : Related R (Clause.mk ts e) (Clause.mk ts' e') :=
    ⟨hts.rel, Related.rel (R := R)⟩
  have words : Related R
      ((ts.zip ks).forM fun (t, k) => Check.keyword .clause "keyword" t k)
      ((ts'.zip ks).forM fun (t, k) => Check.keyword .clause "keyword" t k) := related_words hts ks
  unfold clause
  rw [hts.length_eq]
  exact .ite Iff.rfl inferInstance inferInstance

instance : Related R (Checked.top t u e v x ties) (Checked.top t' u' e' v' x' ties') := by
  have withTokens : Related R (ties.map (·.1)) (ties'.map (·.1)) :=
    .optionMap hties fun _ _ _ => inferInstance
  have tiesTokens : Related R (ties.map (·.2)) (ties'.map (·.2)) :=
    .optionMap hties fun _ _ _ => inferInstance
  unfold Checked.top
  infer_instance

instance : Related R (select t x top e clauses) (select t' x' top' e' clauses') := by
  obtain ⟨_, _, _, _, _⟩ : SelectClauses.Alike R clauses clauses' := hclauses.rel
  unfold select
  obtain ⟨rfl, rfl⟩ | ⟨a, b, rfl, rfl, _⟩ := hx.option <;> dsimp only <;> infer_instance

instance : Related R (setOperation e t x f) (setOperation e' t' x' f') := by
  unfold setOperation
  obtain ⟨rfl, rfl⟩ | ⟨a, b, rfl, rfl, _⟩ := hx.option <;> dsimp only <;> infer_instance

instance (node : NodeKind) : Related R (rows node t) (rows node t') := by
  unfold rows; infer_instance

instance : Related R (fetch t u e v w) (fetch t' u' e' v' w') := by
  unfold fetch
  infer_instance

instance : Related R (Checked.offset t e u next) (Checked.offset t' e' u' next') := by
  unfold Checked.offset
  infer_instance

instance : Related R (orderBy e c offset) (orderBy e' c' offset') := by
  unfold orderBy; infer_instance

instance : Related R (queryOption e t r) (queryOption e' t' r') := by
  unfold queryOption; infer_instance

end Expressions

end Checked

end TransactSql
