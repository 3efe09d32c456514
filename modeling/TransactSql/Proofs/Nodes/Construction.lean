import TransactSql.Proofs.Grammar.QueryYield
import TransactSql.Proofs.Nodes.Parsers
import TransactSql.Proofs.Parens.Levels

/-!
# Nodes of expressions are made proper

Where `=` is a comparison a plain node is proper as its parts are sound. The nodes that are also
made in select lists take their tokens from the checks, none of which accepts a `=` that was read
as an assignment.
-/

namespace TransactSql

open TransactSql.Tree TransactSql.Parser

variable {b : Bool}

/-! ### Tokens that are checked -/

@[simp]
theorem Tree.isMark_node (kind : NodeKind) (slots : List Tree) : (node kind slots).isMark = false := rfl

theorem Tree.isMark_of_kind {t : Token} {k : TokenKind} (h : t.kind = k)
    (source : k.isSource = true) (other : k ≠ .assignment none ∧ k ≠ .leftParen ∧ k ≠ .rightParen) :
    (token t).isMark = false := by
  have native := Token.isForeign_of_kind h source other.1
  simp [isMark, isForeign, isParen, native, Token.isParen, h, other]

theorem Tree.isMark_of_isWord {t : Token} (h : t.isWord = true) : (token t).isMark = false := by
  unfold Token.isWord at h
  cases kind : t.kind with
  | word w => exact isMark_of_kind kind rfl (by simp)
  | _ => simp [kind, TokenKind.isWord] at h

theorem Tree.isMark_of_isKeyword {t : Token} {k : Keyword} (h : t.isKeyword k = true) :
    (token t).isMark = false := isMark_of_kind (Token.isKeyword_iff.mp h) rfl (by simp)

theorem Tree.isMark_of_isAnyKeyword {t : Token} {ks : List Keyword} (h : t.isAnyKeyword ks = true) :
    (token t).isMark = false := by
  unfold Token.isAnyKeyword Token.keyword? at h
  cases kind : t.kind with
  | word w => exact isMark_of_kind kind rfl (by simp)
  | _ => simp [kind, TokenKind.keyword?] at h

theorem Tree.isMark_optionalToken {found : Option Token} {k : Keyword}
    (accepted : found.all (·.isKeyword k) = true) : ∀ t ∈ optionalToken found, t.isMark = false := by
  cases found with
  | none => exact nofun
  | some t => simpa using isMark_of_isKeyword accepted

/-! ### Parts of expressions -/

instance : Parts Name := ⟨fun n => [n.tree]⟩

instance : Parts RawTokens := ⟨fun r => [r.tree]⟩

instance : Parts TableType := ⟨fun t => [t.tree]⟩

instance : Parts Expr := ⟨fun e => [e.tree]⟩

instance : Parts Tail := ⟨Tail.slots⟩

instance : Parts DataType := ⟨fun d => [d.tree]⟩

instance : Parts WhenClause := ⟨fun w => [w.tree]⟩

instance : Parts Clause := ⟨fun c => [c.tree]⟩

instance : Parts TopClause := ⟨fun t => [t.tree]⟩

instance : Parts SelectClauses := ⟨SelectClauses.slots⟩

instance : Parts OverClause := ⟨fun o => [o.tree]⟩

instance : Parts FetchClause := ⟨fun f => FetchClause.optionalSlots (some f)⟩

instance : Parts OffsetFetch := ⟨fun o => [o.tree]⟩

theorem Expr.exists_node (e : Expr) : ∃ kind slots, e.tree = .node kind slots := by
  cases e <;> exact ⟨_, _, rfl⟩

theorem DataType.exists_node (d : DataType) : ∃ kind slots, d.tree = .node kind slots := by
  cases d <;> exact ⟨_, _, rfl⟩

@[simp]
theorem Expr.isMark_tree (e : Expr) : e.tree.isMark = false := by
  obtain ⟨kind, slots, node⟩ := e.exists_node
  rw [node, isMark_node]

@[simp]
theorem DataType.isMark_tree (d : DataType) : d.tree.isMark = false := by
  obtain ⟨kind, slots, node⟩ := d.exists_node
  rw [node, isMark_node]

theorem Expr.isMark_optionalSlot (e : Option Expr) : ∀ t ∈ optionalSlot e, t.isMark = false := by
  cases e <;> simp

theorem Clause.isMark_optionalSlot (c : Option Clause) : ∀ t ∈ optionalSlot c, t.isMark = false := by
  cases c with
  | none => exact nofun
  | some c =>
    cases c
    simp

/-- The one tree of a value. -/
theorem Sound.tree [Parts α] {a : α} [h : Sound b a] {t : Tree} (parts : Parts.parts a = [t]) :
    Sound b t :=
  sound_iff.mpr (h.all t (parts ▸ List.mem_cons_self))

theorem Sound.of_tree [Parts α] {a : α} {t : Tree} (parts : Parts.parts a = [t]) (h : Sound b t) :
    Sound b a := ⟨parts ▸ h.all⟩

instance (n : Name) [Sound b n] : Sound b n.tree := .tree (a := n) rfl

instance (r : RawTokens) [Sound b r] : Sound b r.tree := .tree (a := r) rfl

instance (t : TableType) [Sound b t] : Sound b t.tree := .tree (a := t) rfl

instance (e : Expr) [Sound b e] : Sound b e.tree := .tree (a := e) rfl

instance (d : DataType) [Sound b d] : Sound b d.tree := .tree (a := d) rfl

instance (c : Clause) [Sound b c] : Sound b c.tree := .tree (a := c) rfl

instance (o : OverClause) [Sound b o] : Sound b o.tree := .tree (a := o) rfl

instance (t : Tail) [h : Sound b t] : Sound b t.slots := h.parts

instance (c : SelectClauses) [h : Sound b c] : Sound b c.slots := h.parts

/-- An optional value has the slots of the value, if there is one. -/
theorem Sound.optional [Parts α] {a : Option α} [h : Sound b a] {slots : Option α → List Tree}
    (none : slots .none = []) (some : ∀ a, slots (.some a) = Parts.parts a) : Sound b (slots a) := by
  cases a with
  | none =>
    rw [none]
    infer_instance
  | some a =>
    rw [some]
    exact (Sound.some_iff.mp h).parts

instance (e : Option Expr) [Sound b e] : Sound b (Expr.optionalSlot e) := .optional rfl fun _ => rfl

instance (c : Option Clause) [Sound b c] : Sound b (Clause.optionalSlot c) := .optional rfl fun _ => rfl

instance (t : Option TopClause) [Sound b t] : Sound b (TopClause.optionalSlot t) :=
  .optional rfl fun _ => rfl

instance (o : Option OffsetFetch) [Sound b o] : Sound b (OffsetFetch.optionalSlot o) :=
  .optional rfl fun _ => rfl

instance (f : Option FetchClause) [Sound b f] : Sound b (FetchClause.optionalSlots f) :=
  .optional rfl fun _ => rfl

instance (r : Option RawTokens) [Sound b r] : Sound b (r.map RawTokens.tree).toList := by
  apply Sound.optional (a := r)
  · rfl
  · exact fun _ => rfl

instance (pair : Option (Token × Token)) [h : Sound b pair] :
    Sound b ((pair.map fun (first, second) => [Tree.token first, .token second]).getD []) := by
  apply Sound.optional (a := pair)
  · rfl
  · exact fun _ => rfl

/-- The slots of a list are those of its items. -/
theorem Sound.list [Parts α] {as : List α} [h : Sound b as] {slotsOf : List α → List Tree}
    (nil : slotsOf [] = []) (cons : ∀ a as, slotsOf (a :: as) = Parts.parts a ++ slotsOf as) :
    Sound b (slotsOf as) := by
  have members := Sound.list_iff.mp h
  clear h
  induction as with
  | nil =>
    rw [nil]
    infer_instance
  | cons a as ih =>
    rw [List.forall_mem_cons] at members
    have first := members.1.parts
    have rest := ih members.2
    rw [cons]
    infer_instance

instance (es : List Expr) [Sound b es] : Sound b (Expr.slotsOf es) := .list rfl fun _ _ => rfl

instance (ws : List WhenClause) [Sound b ws] : Sound b (WhenClause.slotsOf ws) :=
  .list rfl fun _ _ => rfl

/-! ### Nodes where `=` is a comparison -/

/-- A value that is one plain node is sound as its slots are. -/
theorem Sound.of_node [Parts α] {a : α} {kind : NodeKind} {slots : List Tree}
    (tree : Parts.parts a = [.node kind slots]) (noParens : kind.hasParens = false)
    (noSign : kind.hasSign = false) [Sound false slots] : Sound b a :=
  .of_tree tree (sound_node noParens noSign)

section

variable (t u v w : Token) [Sound false t] [Sound false u] [Sound false v] [Sound false w]
variable (e f : Expr) [Sound false e] [Sound false f]

instance (ts : List Token) [Sound false ts] : Sound b (RawTokens.mk ts) := .of_node rfl rfl rfl

instance (r : RawTokens) [h : Sound b r] : Sound b (Expr.raw r) := ⟨h.all⟩

instance (items : List Expr) (separators : List Token) [Sound false items] [Sound false separators] :
    Sound b (Expr.list items separators) := .of_node rfl rfl rfl

instance : Sound b (Expr.aliased e t u) := .of_node rfl rfl rfl

instance : Sound b (Expr.sort e t) := .of_node rfl rfl rfl

instance (operator : List Token) (on : Tail) [Sound false operator] [Sound false on] :
    Sound b (Expr.join e operator f on) := .of_node rfl rfl rfl

instance (all : Option Token) [Sound false all] : Sound b (Expr.setOperation e t all f) :=
  .of_node rfl rfl rfl

instance (order : Clause) (offset : Option OffsetFetch) [Sound false order] [Sound false offset] :
    Sound b (Expr.orderBy e order offset) := .of_node rfl rfl rfl

instance (options : RawTokens) [Sound false options] : Sound b (Expr.queryOption e t options) :=
  .of_node rfl rfl rfl

instance : Sound b (WhenClause.mk t e u f) := .of_node rfl rfl rfl

instance (keywords : List Token) [Sound false keywords] : Sound b (Clause.mk keywords e) :=
  .of_node rfl rfl rfl

instance (fetch : Option FetchClause) [Sound false fetch] : Sound b (OffsetFetch.mk t e u fetch) :=
  .of_node rfl rfl rfl

end

/-! ### Values that are no nodes -/

section

variable (t u v w : Token) [Sound b t] [Sound b u] [Sound b v] [Sound b w] (e : Expr) [Sound b e]

instance (name : Name) [h : Sound b name] : Sound b (Expr.name name) := ⟨h.all⟩

instance (type : TableType) [h : Sound b type] : Sound b (DataType.table type) := ⟨h.all⟩

instance : Sound b Tail.absent := .of_none rfl

instance : Sound b (Tail.present t e) := .of_parts (inferInstanceAs (Sound b [Tree.token t, e.tree]))

instance (into source condition grouping having : Option Clause) [Sound b into] [Sound b source]
    [Sound b condition] [Sound b grouping] [Sound b having] :
    Sound b (SelectClauses.mk into source condition grouping having) :=
  .of_parts (inferInstanceAs (Sound b (Clause.optionalSlot into ++ Clause.optionalSlot source ++
    Clause.optionalSlot condition ++ Clause.optionalSlot grouping ++ Clause.optionalSlot having)))

instance : Sound b (FetchClause.mk t u e v w) :=
  .of_parts (inferInstanceAs (Sound b [Tree.token t, .token u, e.tree, .token v, .token w]))

end

/-! ### Nodes that are checked -/

/-- A value that is one plain node, whose tokens are neither signs nor parentheses. -/
theorem Sound.of_checked [Parts α] {a : α} {kind : NodeKind} {slots : List Tree}
    (tree : Parts.parts a = [.node kind slots]) (noParens : kind.hasParens = false)
    (noSign : kind.hasSign = false) [h : Sound b slots] (unmarked : ∀ t ∈ slots, t.isMark = false) :
    Sound b a :=
  .of_tree tree (sound_plain noParens noSign (fun t member => (isMark_eq_false.mp (unmarked t member)).1) h)

/-- A value that is one node with parentheses. -/
theorem Sound.of_enclosed [Parts α] {a : α} {kind : NodeKind} {slots inner : List Tree}
    {lparen rparen : Token} (before after : List Tree) (tree : Parts.parts a = [.node kind slots])
    (enclosed : Paired lparen inner rparen)
    (parts : slots = before ++ .token lparen :: (inner ++ .token rparen :: after))
    (noSign : kind.hasSign = false) [h : Sound b slots]
    (unmarked : ∀ t ∈ before ++ (inner ++ after), t.isMark = false) : Sound b a :=
  .of_tree tree (sound_of_proper (NodeKind.ne_assignment noSign) h
    fun fixed => .enclosing parts enclosed noSign unmarked fixed)

namespace Checked

theorem isWord_or_dot_or_star {first wanted : Bool} {parts : List Token}
    (accepted : (nameParts first wanted parts).isOk = true) :
    ∀ t ∈ parts, t.isWord = true ∨ t.kind = .dot ∨ t.kind = .arithmetic .star := by
  induction parts generalizing first wanted with
  | nil => exact nofun
  | cons t rest ih =>
    unfold nameParts at accepted
    split at accepted
    · next dot =>
      simp only [Shaped.isOk_bind, Bool.and_eq_true] at accepted
      exact List.forall_mem_cons.mpr ⟨.inr (.inl dot), ih accepted.2⟩
    · simp only [Shaped.isOk_bind, Check.isOk_token, Bool.and_eq_true, Bool.or_eq_true,
        beq_iff_eq] at accepted
      refine List.forall_mem_cons.mpr ⟨?_, ih accepted.2.2⟩
      rcases accepted.2.1 with word | star
      · exact .inl word
      · exact .inr (.inr star.1)

theorem isMark_of_name {parts : List Token} (accepted : (name parts).isOk = true) :
    ∀ t ∈ parts, (token t).isMark = false := by
  intro t member
  unfold name at accepted
  split at accepted
  · cases accepted
  · simp only [Shaped.isOk_bind, Bool.and_eq_true] at accepted
    rcases isWord_or_dot_or_star accepted.1 t member with word | dot | star
    · exact isMark_of_isWord word
    · exact isMark_of_kind dot rfl (by simp)
    · exact isMark_of_kind star rfl (by simp)

section

variable (t u v w : Token) [Sound b t] [Sound b u] [Sound b v] [Sound b w]
variable (not : Option Token) [Sound b not] (e f g : Expr) [Sound b e] [Sound b f] [Sound b g]

instance (parts : List Token) : Trusted b (build (name parts)) := by
  refine .build fun accepted => ?_
  have unmarked := isMark_of_name accepted
  have sound : Sound b parts := sound_tokens fun t member => (isMark_eq_false.mp (unmarked t member)).1
  exact .of_checked rfl rfl rfl (by simpa using unmarked)

instance : Trusted b (build (literal t)) := by
  refine .build fun accepted => .of_checked rfl rfl rfl ?_
  have unmarked : (token t).isMark = false := by
    simp only [literal, Shaped.isOk_bind, Check.isOk_token, Shaped.isOk_pure, Bool.and_true,
      Bool.or_eq_true] at accepted
    rcases accepted with literal | null
    · cases kind : t.kind with
      | literal form => exact isMark_of_kind kind rfl (by simp)
      | _ => simp [kind, TokenKind.isLiteral] at literal
    · exact isMark_of_isKeyword null
  simpa using unmarked

instance : Trusted b (build (unary t e)) := by
  refine .build fun accepted => .of_checked rfl rfl rfl ?_
  have unmarked : (token t).isMark = false := by
    simp only [unary, Shaped.isOk_bind, Check.isOk_token, Shaped.isOk_pure, Bool.and_true,
      Bool.or_eq_true, beq_iff_eq] at accepted
    rcases accepted with ((plus | minus) | tilde) | not
    · exact isMark_of_kind plus rfl (by simp)
    · exact isMark_of_kind minus rfl (by simp)
    · exact isMark_of_kind tilde rfl (by simp)
    · exact isMark_of_isKeyword not
  simpa using unmarked

instance : Trusted b (build (binary e t f)) := by
  refine .build fun accepted => .of_checked rfl rfl rfl ?_
  have unmarked : (token t).isMark = false := by
    simp only [binary, Shaped.isOk_bind, Check.isOk_token, Shaped.isOk_pure, Bool.and_true,
      Bool.or_eq_true] at accepted
    rcases accepted with (arithmetic | comparison) | word
    · cases kind : t.kind with
      | arithmetic op => exact isMark_of_kind kind rfl (by simp)
      | _ => simp [kind, TokenKind.isArithmetic] at arithmetic
    · cases kind : t.kind with
      | comparison op => exact isMark_of_kind kind rfl (by simp)
      | _ => simp [kind, TokenKind.isComparison] at comparison
    · exact isMark_of_isAnyKeyword word
  simpa using unmarked

instance : Trusted b (build (isNull e t not u)) := by
  refine .build fun accepted => .of_checked rfl rfl rfl ?_
  simp only [isNull, Shaped.isOk_bind, Check.isOk_keyword, Check.isOk_keyword?,
    Shaped.isOk_pure, Bool.and_true, Bool.and_eq_true] at accepted
  obtain ⟨isToken, negated, null⟩ := accepted
  have optional := isMark_optionalToken negated
  simpa [or_imp, forall_and, isMark_of_isKeyword isToken, isMark_of_isKeyword null] using optional

instance : Trusted b (build (between e not t f u g)) := by
  refine .build fun accepted => .of_checked rfl rfl rfl ?_
  simp only [between, Shaped.isOk_bind, Check.isOk_keyword, Check.isOk_keyword?,
    Shaped.isOk_pure, Bool.and_true, Bool.and_eq_true] at accepted
  obtain ⟨negated, keyword, and⟩ := accepted
  have optional := isMark_optionalToken negated
  simpa [or_imp, forall_and, isMark_of_isKeyword keyword, isMark_of_isKeyword and] using optional

theorem isMark_tail {k : Keyword} {tail : Tail}
    (accepted : tail.keyword?.all (·.isKeyword k) = true) : ∀ t ∈ tail.slots, t.isMark = false := by
  cases tail with
  | absent => exact nofun
  | present keyword value => simpa using isMark_of_isKeyword accepted

instance (escape : Tail) [Sound b escape] : Trusted b (build (like e not t f escape)) := by
  refine .build fun accepted => .of_checked rfl rfl rfl ?_
  simp only [like, Shaped.isOk_bind, Check.isOk_keyword, Check.isOk_keyword?, Shaped.isOk_pure,
    isOk_tail, Bool.and_true, Bool.and_eq_true] at accepted
  obtain ⟨negated, keyword, behind⟩ := accepted
  have optional := isMark_optionalToken negated
  have tail := isMark_tail behind
  simp only [List.cons_append, List.append_assoc, List.nil_append, List.forall_mem_cons,
    List.forall_mem_append]
  exact ⟨e.isMark_tree, optional, isMark_of_isKeyword keyword, f.isMark_tree, tail⟩

instance : Trusted b (build (collate e t u)) := by
  refine .build fun accepted => .of_checked rfl rfl rfl ?_
  simp only [collate, Shaped.isOk_bind, Check.isOk_keyword, Check.isOk_identifier,
    Shaped.isOk_pure, Bool.and_true, Bool.and_eq_true] at accepted
  simp [isMark_of_isKeyword accepted.1, isMark_of_isWord accepted.2]

instance (o : OverClause) [Sound b o] : Trusted b (build (window e o)) := by
  refine .build fun accepted => .of_checked rfl rfl rfl ?_
  have clause : o.tree.isMark = false := by
    cases o
    rfl
  simp [clause]

end

theorem sound_of_isKeyword {t : Token} {k : Keyword} (h : t.isKeyword k = true) : Sound b t :=
  Token.sound_of_not_isForeign (isMark_eq_false.mp (isMark_of_isKeyword h)).1

theorem sound_of_kind {t : Token} {k : TokenKind} (h : t.kind = k) (source : k.isSource = true)
    (other : k ≠ .assignment none) : Sound b t :=
  Token.sound_of_not_isForeign (Token.isForeign_of_kind h source other)

/-- The `CASE` may have been taken in a select list. -/
instance (t u : Token) (operand : Option Expr) (whens : List WhenClause) (otherwise : Tail)
    [Sound false u] [Sound false operand] [Sound false whens] [Sound false otherwise] :
    Trusted b (build (case t operand whens otherwise u)) := by
  refine .build fun accepted => ?_
  simp only [case, Shaped.isOk_bind, Check.isOk_keyword, Bool.and_eq_true] at accepted
  have keyword : Sound false t := sound_of_isKeyword accepted.1
  exact .of_node rfl rfl rfl

/-! ### Parentheses -/

section

variable {l r t u v : Token} [Sound b l] [Sound b r] [Sound b t] [Sound b u] [Sound b v]
variable {e f : Expr} [Sound b e] [Sound b f]

theorem sound_paren (enclosed : Paired l [e.tree] r) : Sound b (Expr.paren l e r) := by
  refine .of_enclosed [] [] rfl enclosed rfl rfl ?_
  simp

theorem sound_call {args : Option Expr} [Sound b args] (enclosed : Paired l (Expr.optionalSlot args) r) :
    Sound b (Expr.call e l args r) := by
  refine .of_enclosed [e.tree] [] rfl enclosed rfl rfl ?_
  simpa using Expr.isMark_optionalSlot args

theorem sound_isIn {not : Option Token} [Sound b not] (accepted : (isIn e not t l f r).isOk = true)
    (enclosed : Paired l [f.tree] r) : Sound b (Expr.isIn e not t l f r) := by
  simp only [isIn, Shaped.isOk_bind, Check.isOk_keyword?, Check.isOk_keyword, Bool.and_eq_true]
    at accepted
  obtain ⟨negated, keyword, _⟩ := accepted
  have optional := isMark_optionalToken negated
  refine .of_enclosed (e.tree :: optionalToken not ++ [.token t]) [] rfl enclosed (by simp) rfl ?_
  simp only [List.cons_append, List.append_assoc, List.nil_append, List.append_nil,
    List.forall_mem_cons, List.forall_mem_append]
  exact ⟨e.isMark_tree, optional, isMark_of_isKeyword keyword, f.isMark_tree,
    List.forall_mem_nil _⟩

end

section

variable {l r t u : Token} {e f : Expr} [Sound false l] [Sound false r] [Sound false e] [Sound false f]

/-- The keyword may have been taken in a select list. -/
theorem sound_cast {type : DataType} [Sound false u] [Sound false type]
    (accepted : (cast t l e u type r).isOk = true)
    (enclosed : Paired l [e.tree, .token u, type.tree] r) : Sound b (Expr.cast t l e u type r) := by
  simp only [cast, Shaped.isOk_bind, Check.isOk_token, Check.isOk_kind, Check.isOk_keyword,
    Bool.and_eq_true] at accepted
  obtain ⟨keyword, _, asToken, _⟩ := accepted
  have first := isMark_of_isAnyKeyword keyword
  have word : Sound false t := Token.sound_of_not_isForeign (isMark_eq_false.mp first).1
  refine Sound.mono (.of_enclosed [.token t] [] rfl enclosed rfl rfl ?_)
  simp [first, isMark_of_isKeyword asToken]

theorem sound_overClause {partition order : Option Clause} {frame : Option RawTokens}
    [Sound false partition] [Sound false order] [Sound false frame]
    (accepted : (overClause t l partition order frame r).isOk = true)
    (enclosed : Paired l (Clause.optionalSlot partition ++ Clause.optionalSlot order ++
      (frame.map RawTokens.tree).toList) r) :
    Sound b (OverClause.mk t l partition order frame r) := by
  simp only [overClause, Shaped.isOk_bind, Check.isOk_keyword, Bool.and_eq_true] at accepted
  have word : Sound false t := sound_of_isKeyword accepted.1
  have raw : ∀ x ∈ (frame.map RawTokens.tree).toList, x.isMark = false := by
    cases frame <;> simp
  refine Sound.mono (.of_enclosed [.token t] [] rfl enclosed (by simp) rfl ?_)
  simp only [List.append_nil, List.cons_append, List.nil_append, List.forall_mem_cons,
    List.forall_mem_append]
  exact ⟨isMark_of_isKeyword accepted.1,
    ⟨Clause.isMark_optionalSlot partition, Clause.isMark_optionalSlot order⟩, raw⟩

theorem sound_tableHint [Sound false t] (accepted : (tableHint e t l f r).isOk = true)
    (enclosed : Paired l [f.tree] r) : Sound false (Expr.tableHint e t l f r) := by
  simp only [tableHint, Shaped.isOk_bind, Check.isOk_keyword, Bool.and_eq_true] at accepted
  refine .of_enclosed [e.tree, .token t] [] rfl enclosed rfl rfl ?_
  simp [isMark_of_isKeyword accepted.1]

theorem sound_tableType {definition : RawTokens} [Sound false t] [Sound false definition]
    (accepted : (tableType t l definition r).isOk = true) (enclosed : Paired l [definition.tree] r) :
    Sound false (TableType.mk t l definition r) := by
  simp only [tableType, Shaped.isOk_bind, Check.isOk_keyword, Bool.and_eq_true] at accepted
  refine .of_enclosed [.token t] [] rfl enclosed rfl rfl ?_
  simp [isMark_of_isKeyword accepted.1]

theorem sound_typeName {name : Name} {args : Option Expr} [Sound false name] [Sound false args]
    (enclosed : Paired l (Expr.optionalSlot args) r) :
    Sound false (DataType.named name l args r) := by
  refine .of_enclosed [name.tree] [] rfl enclosed rfl rfl ?_
  simpa using Expr.isMark_optionalSlot args

theorem sound_top {percent : Option Token} {withTies : Option (Token × Token)}
    [Sound false percent] [Sound false withTies]
    (accepted : (top t l e r percent withTies).isOk = true) (enclosed : Paired l [e.tree] r) :
    Sound b (TopClause.mk t l e r percent withTies) := by
  simp only [top, Shaped.isOk_bind, Check.isOk_keyword, Check.isOk_keyword?, Shaped.isOk_pure,
    Bool.and_true, Bool.and_eq_true] at accepted
  obtain ⟨keyword, _, percentage, first, second⟩ := accepted
  have word : Sound false t := sound_of_isKeyword keyword
  have optional := isMark_optionalToken percentage
  have ties : ∀ x ∈ ((withTies.map fun (a, b) => [Tree.token a, .token b]).getD []),
      x.isMark = false := by
    cases withTies with
    | none => exact List.forall_mem_nil _
    | some pair =>
      simp only [Option.map_some, Option.getD_some, List.forall_mem_cons]
      exact ⟨isMark_of_isKeyword first, isMark_of_isKeyword second, List.forall_mem_nil _⟩
  refine Sound.mono (.of_enclosed [.token t] (optionalToken percent ++
    ((withTies.map fun (a, b) => [Tree.token a, .token b]).getD [])) rfl enclosed (by simp) rfl ?_)
  simp only [List.cons_append, List.nil_append, List.forall_mem_cons, List.forall_mem_append]
  exact ⟨isMark_of_isKeyword keyword, e.isMark_tree, optional, ties⟩

end

/-! ### Assignments -/

/-- The sign of an assignment stands between two expressions. -/
theorem proper_assignment {target value : Expr} {operator : Token}
    (isAssignment : operator.kind.isAssignment = true) (left : target.tree.isLoose = false)
    (right : value.tree.isLoose = false) :
    Proper .assignment [target.tree, .token operator, value.tree] where
  partners parens := by cases parens
  signs {before after t} split := by
    obtain ⟨kind, slots, first⟩ := target.exists_node
    obtain ⟨kind', slots', last⟩ := value.exists_node
    rw [first, last] at split
    match before with
    | [] => cases split
    | [x] =>
      cases split
      exact isAssignment
    | [x, y] => cases split
    | x :: y :: z :: before =>
      have lengths := congrArg List.length split
      simp at lengths
  placed x member := by
    refine mayStandIn_of_not_isLoose ?_ _
    simp only [List.mem_cons, List.not_mem_nil, or_false] at member
    rcases member with rfl | rfl | rfl
    · exact left
    · rfl
    · exact right

theorem isAssignment_of {target value : Expr} {operator : Token}
    (accepted : (assignment target operator value).isOk = true) :
    operator.kind.isAssignment = true := by
  unfold assignment at accepted
  split at accepted
  · cases accepted
  · simpa using accepted

theorem allProper_assignment {target value : Expr} {operator : Token} [left : Sound b target]
    [right : Sound b value] (accepted : (assignment target operator value).isOk = true) :
    (Expr.assignment target operator value).tree.AllProper := by
  have first := left.all _ List.mem_cons_self
  have last := right.all _ List.mem_cons_self
  rw [Expr.tree, allProper_node]
  refine ⟨proper_assignment (isAssignment_of accepted) first.fixed last.fixed, ?_⟩
  simp [first.proper, last.proper]

/-- Where `=` is a comparison an assignment is a compound one. -/
instance (target value : Expr) (operator : Token) [Sound false target] [Sound false operator]
    [Sound false value] : Trusted false (build (assignment target operator value)) := by
  refine .build fun accepted => .of_tree rfl (sound_iff.mpr ?_)
  refine ⟨allProper_assignment (b := false) accepted, ?_, fun _ => rfl⟩
  have first := isSign_of_not_isForeign (isMark_eq_false.mp target.isMark_tree).1
  have sign : (token operator).isSign = false := isSign_of_not_isForeign Token.isForeign_eq
  have last := isSign_of_not_isForeign (isMark_eq_false.mp value.isMark_tree).1
  simp [Expr.tree, isLoose, assigns, renames, lists, first, sign, last]

end Checked

end TransactSql
