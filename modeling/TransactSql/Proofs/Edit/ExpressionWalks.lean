import TransactSql.Proofs.Edit.Walks
import TransactSql.Proofs.Parser.Settling

/-!
# The walk through expressions

Most nodes are rebuilt without a check. None is needed: the tokens of the node stay, an optional
part stays present or absent, and a list keeps its length, and no more is ever asked of such a node.
Where the kind of a part matters the walk does check.
-/

namespace TransactSql

/-! ### What checks ask of the parts -/

/-- The words of the clauses that are present. -/
def SelectClauses.words (c : SelectClauses) : List (Option (List Token)) :=
  [c.into, c.source, c.condition, c.grouping, c.having].map (·.map Clause.keywords)

namespace Checked

theorem isOk_leading_eq (node : NodeKind) (slot : String) (c : Option Clause) (k : Keyword) :
    (leading node slot c k).isOk =
      (c.map Clause.keywords).all fun words => words.head?.all (·.isKeyword k) := by
  rcases c with _ | ⟨_ | ⟨word, words⟩, body⟩ <;> simp [leading]

theorem isOk_separated (node : NodeKind) (items : List α) (separators : List Token) :
    (separated node items separators).isOk =
      (decide (separators.length + 1 = items.length) && separators.all (·.kind == .comma)) := by
  cases items with
  | nil => simp [separated]
  | cons item items =>
    by_cases paired : separators.length = items.length <;> simp [separated, paired]

theorem isOk_join (l : Expr) (op : List Token) (r : Expr) (on : Tail) :
    (join l op r on).isOk = op.getLast?.any fun last =>
      (op.length ≤ 3 && last.isAnyKeyword [.JOIN, .APPLY]) &&
      (isUnconditional op != on.keyword?.isSome) && (tail .join "on" .ON on).isOk := by
  unfold join
  cases op.getLast? with
  | none => rfl
  | some last => cases isUnconditional op <;> cases on <;> simp [Tail.value?]

end Checked

/-! ### Parts of expressions -/

namespace Aspect

abbrev optionalExpr : Aspect (Option Expr) :=
  telling Expr.optionalWellShaped Expr.optionalSlot Option.isNone

abbrev tail : Aspect Tail := telling Tail.wellShaped Tail.slots Tail.keyword?

abbrev whens : Aspect (List WhenClause) :=
  telling WhenClause.allWellShaped WhenClause.slotsOf List.isEmpty

abbrev clause : Aspect Clause := telling Clause.wellShaped (fun c => [c.tree]) Clause.keywords

abbrev optionalClause : Aspect (Option Clause) :=
  telling Clause.optionalWellShaped Clause.optionalSlot (Option.map Clause.keywords)

abbrev optionalTop : Aspect (Option TopClause) :=
  plain TopClause.optionalWellShaped TopClause.optionalSlot

abbrev selectClauses : Aspect SelectClauses :=
  telling SelectClauses.wellShaped SelectClauses.slots SelectClauses.words

abbrev overClause : Aspect OverClause := plain OverClause.wellShaped fun o => [o.tree]

abbrev optionalFetch : Aspect (Option FetchClause) :=
  plain FetchClause.optionalWellShaped FetchClause.optionalSlots

abbrev optionalOffset : Aspect (Option OffsetFetch) :=
  plain OffsetFetch.optionalWellShaped OffsetFetch.optionalSlot

end Aspect

attribute [local simp] Expr.wellShaped Expr.optionalWellShaped Tail.wellShaped DataType.wellShaped
  WhenClause.allWellShaped WhenClause.wellShaped Clause.wellShaped Clause.optionalWellShaped
  TopClause.optionalWellShaped SelectClauses.wellShaped OverClause.wellShaped
  FetchClause.optionalWellShaped OffsetFetch.optionalWellShaped Expr.tree Expr.optionalSlot
  Tail.slots DataType.tree WhenClause.slotsOf WhenClause.tree Clause.tree Clause.optionalSlot
  TopClause.tree TopClause.optionalSlot SelectClauses.slots OverClause.tree
  FetchClause.optionalSlots OffsetFetch.tree OffsetFetch.optionalSlot Tree.outline Tree.outlineOf
  Tree.outlineOf_append Edited.list_nil Edited.list_cons Edited.list_append Tree.ask Tree.entries
  Aspect.Lacks Tree.tokenSlots Tree.optionalToken Name.tree RawTokens.tree TableType.tree
  Checked.isOk_leading_eq SelectClauses.words

/-! ### What nodes enclose

The check of a node is a test on its tokens and on what is told of its parts. Its slots are those of
its parts with tokens between them.
-/

section

variable {keeps : Prop}

namespace Expr

theorem allWellShaped_eq (es : List Expr) : allWellShaped es = es.all wellShaped := by
  induction es with
  | nil => rfl
  | cons e es ih => rw [allWellShaped, ih, List.all_cons]

theorem unary_encloses (op : Token) (e : Expr) :
    Encloses (.expr keeps) (.exprNode keeps) (unary op) e where
  shaped := by simp +contextual [Checked.unary]
  like := fun _ _ => ⟨rfl, fun _ => rfl⟩
  slots := by simp +contextual

theorem binary_encloses (l : Expr) (op : Token) (r : Expr) :
    Encloses (.both (.expr keeps) (.expr keeps)) (.exprNode keeps) (fun p => binary p.1 op p.2)
      (l, r) where
  shaped := by simp +contextual [Checked.binary]
  like := fun _ _ => ⟨rfl, fun _ => rfl⟩
  slots := by simp +contextual

-- The new target need not be a name, so the new parts have to be accepted.
theorem assignment_encloses (target : Expr) (op : Token) (value : Expr) :
    Encloses (.checked (.both (.expr keeps) (.expr keeps)) fun p => Checked.assignment p.1 op p.2)
      (.exprNode keeps) (fun p => assignment p.1 op p.2) (target, value) where
  shaped := by simp +contextual
  like := fun _ _ => ⟨rfl, fun _ => rfl⟩
  slots := by simp +contextual

theorem assignment_accepts (target : Expr) (op : Token) (value : Expr) (keep : keeps)
    (accepted : (Checked.assignment target op value).isOk = true) (x : Expr × Expr)
    (like : (Aspect.both (.expr keeps) (.expr keeps)).Like x (target, value)) :
    (Checked.assignment x.1 op x.2).isOk = true := by
  have same : x.1.kind = target.kind := (like.1 keep).1
  simpa [Checked.assignment, isNone_name?, same] using accepted

theorem isNull_encloses (e : Expr) (isToken : Token) (not : Option Token) (null : Token) :
    Encloses (.expr keeps) (.exprNode keeps) (isNull · isToken not null) e where
  shaped := by simp +contextual [Checked.isNull]
  like := fun _ _ => ⟨rfl, fun _ => rfl⟩
  slots := by simp +contextual

theorem like_encloses (e : Expr) (not : Option Token) (keyword : Token) (pattern : Expr)
    (escape : Tail) :
    Encloses (.both (.both (.expr keeps) (.expr keeps)) .tail) (.exprNode keeps)
      (fun p => like p.1.1 not keyword p.1.2 p.2) ((e, pattern), escape) where
  shaped := by simp +contextual [Checked.like]
  like := fun _ _ => ⟨rfl, fun _ => rfl⟩
  slots := by simp +contextual

theorem between_encloses (e : Expr) (not : Option Token) (keyword : Token) (low : Expr)
    (and : Token) (high : Expr) :
    Encloses (.both (.both (.expr keeps) (.expr keeps)) (.expr keeps)) (.exprNode keeps)
      (fun p => between p.1.1 not keyword p.1.2 and p.2) ((e, low), high) where
  shaped := by simp +contextual [Checked.between]
  like := fun _ _ => ⟨rfl, fun _ => rfl⟩
  slots := by simp +contextual

theorem isIn_encloses (e : Expr) (not : Option Token) (keyword lparen : Token) (values : Expr)
    (rparen : Token) :
    Encloses (.both (.expr keeps) (.expr keeps)) (.exprNode keeps)
      (fun p => isIn p.1 not keyword lparen p.2 rparen) (e, values) where
  shaped := by simp +contextual [Checked.isIn]
  like := fun _ _ => ⟨rfl, fun _ => rfl⟩
  slots := by simp +contextual

theorem paren_encloses (lparen : Token) (e : Expr) (rparen : Token) :
    Encloses (.expr keeps) (.exprNode keeps) (paren lparen · rparen) e where
  shaped := by simp +contextual [Checked.paren]
  like := fun _ same => ⟨rfl, fun keep => (same keep).2⟩
  slots := by simp +contextual

theorem call_encloses (callee : Expr) (lparen : Token) (args : Option Expr) (rparen : Token) :
    Encloses (.both (.expr keeps) .optionalExpr) (.exprNode keeps)
      (fun p => call p.1 lparen p.2 rparen) (callee, args) where
  shaped := by simp +contextual [Checked.call]
  like := fun _ _ => ⟨rfl, fun _ => rfl⟩
  slots := by simp +contextual

theorem window_encloses (f : Expr) (o : OverClause) :
    Encloses (.checked (.both (.expr keeps) .overClause) fun p => Checked.window p.1 p.2)
      (.exprNode keeps) (fun p => window p.1 p.2) (f, o) where
  shaped := by simp +contextual
  like := fun _ _ => ⟨rfl, fun _ => rfl⟩
  slots := by simp +contextual

theorem window_accepts (f : Expr) (o : OverClause) (keep : keeps)
    (accepted : (Checked.window f o).isOk = true) (x : Expr × OverClause)
    (like : (Aspect.both (.expr keeps) .overClause).Like x (f, o)) :
    (Checked.window x.1 x.2).isOk = true := by
  have same : x.1.kind = f.kind := (like.1 keep).1
  simpa [Checked.window, isCall_eq, same] using accepted

theorem cast_encloses (keyword lparen : Token) (e : Expr) (asToken : Token) (type : DataType)
    (rparen : Token) :
    Encloses (.both (.expr keeps) (.dataType keeps)) (.exprNode keeps)
      (fun p => cast keyword lparen p.1 asToken p.2 rparen) (e, type) where
  shaped := by simp +contextual [Checked.cast]
  like := fun _ _ => ⟨rfl, fun _ => rfl⟩
  slots := by simp +contextual

theorem case_encloses (keyword : Token) (operand : Option Expr) (whens : List WhenClause)
    (otherwise : Tail) (endToken : Token) :
    Encloses (.both (.both .optionalExpr .whens) .tail) (.exprNode keeps)
      (fun p => case keyword p.1.1 p.1.2 p.2 endToken) ((operand, whens), otherwise) where
  shaped := by simp +contextual [Checked.case]
  like := fun _ _ => ⟨rfl, fun _ => rfl⟩
  slots := by simp +contextual

theorem collate_encloses (e : Expr) (keyword collation : Token) :
    Encloses (.expr keeps) (.exprNode keeps) (collate · keyword collation) e where
  shaped := by simp +contextual [Checked.collate]
  like := fun _ _ => ⟨rfl, fun _ => rfl⟩
  slots := by simp +contextual

theorem list_encloses (items : List Expr) (separators : List Token) :
    Encloses (.list (.expr keeps)) (.exprNode keeps) (list · separators) items where
  shaped := by simp +contextual [Checked.list, Checked.isOk_separated, allWellShaped_eq]
  like := fun _ _ => ⟨rfl, fun _ => rfl⟩
  slots := by
    refine ⟨by simp +contextual [slotsOf_eq], fun f es s same asked => ?_⟩
    have asked := Tree.ask_interleave separators same asked fun _ => rfl
    simp [slotsOf_eq, asked]

theorem aliased_encloses (e : Expr) (asToken name : Token) :
    Encloses (.expr keeps) (.exprNode keeps) (aliased · asToken name) e where
  shaped := by simp +contextual [Checked.aliased]
  like := fun _ _ => ⟨rfl, fun _ => rfl⟩
  slots := by simp +contextual

theorem sort_encloses (e : Expr) (direction : Token) :
    Encloses (.expr keeps) (.exprNode keeps) (sort · direction) e where
  shaped := by simp +contextual [Checked.sort]
  like := fun _ _ => ⟨rfl, fun _ => rfl⟩
  slots := by simp +contextual

theorem join_encloses (l : Expr) (op : List Token) (r : Expr) (on : Tail) :
    Encloses (.both (.both (.expr keeps) (.expr keeps)) .tail) (.exprNode keeps)
      (fun p => join p.1.1 op p.1.2 p.2) ((l, r), on) where
  shaped := by simp +contextual [Checked.isOk_join]
  like := fun _ _ => ⟨rfl, fun _ => rfl⟩
  slots := by simp +contextual

theorem tableHint_encloses (table : Expr) (keyword lparen : Token) (hints : Expr) (rparen : Token) :
    Encloses (.both (.expr keeps) (.expr keeps)) (.exprNode keeps)
      (fun p => tableHint p.1 keyword lparen p.2 rparen) (table, hints) where
  shaped := by simp +contextual [Checked.tableHint]
  like := fun _ _ => ⟨rfl, fun _ => rfl⟩
  slots := by simp +contextual

theorem select_encloses (keyword : Token) (quantifier : Option Token) (top : Option TopClause)
    (columns : Expr) (clauses : SelectClauses) :
    Encloses (.both (.both .optionalTop (.expr keeps)) .selectClauses) (.exprNode keeps)
      (fun p => select keyword quantifier p.1.1 p.1.2 p.2) ((top, columns), clauses) where
  shaped := by cases quantifier <;> simp +contextual [Checked.select]
  like := fun _ _ => ⟨rfl, fun _ => rfl⟩
  slots := by simp +contextual

theorem setOperation_encloses (l : Expr) (op : Token) (all : Option Token) (r : Expr) :
    Encloses (.both (.expr keeps) (.expr keeps)) (.exprNode keeps)
      (fun p => setOperation p.1 op all p.2) (l, r) where
  shaped := by cases all <;> simp +contextual [Checked.setOperation]
  like := fun _ _ => ⟨rfl, fun _ => rfl⟩
  slots := by simp +contextual

theorem orderBy_encloses (query : Expr) (order : Clause) (offset : Option OffsetFetch) :
    Encloses (.both (.both (.expr keeps) .clause) .optionalOffset) (.exprNode keeps)
      (fun p => orderBy p.1.1 p.1.2 p.2) ((query, order), offset) where
  shaped := by simp +contextual [Checked.orderBy]
  like := fun _ _ => ⟨rfl, fun _ => rfl⟩
  slots := by simp +contextual

theorem queryOption_encloses (query : Expr) (keyword : Token) (options : RawTokens) :
    Encloses (.expr keeps) (.exprNode keeps) (queryOption · keyword options) query where
  shaped := by simp +contextual [Checked.queryOption]
  like := fun _ _ => ⟨rfl, fun _ => rfl⟩
  slots := by simp +contextual

theorem some_encloses (e : Expr) : Encloses (.expr keeps) .optionalExpr some e where
  shaped := by simp +contextual
  like := fun _ _ => rfl
  slots := by simp +contextual

end Expr

theorem Tail.present_encloses (keyword : Token) (value : Expr) :
    Encloses (.expr keeps) .tail (Tail.present keyword) value where
  shaped := by simp +contextual
  like := fun _ _ => rfl
  slots := by simp +contextual

theorem DataType.named_encloses (name : Name) (lparen : Token) (args : Option Expr)
    (rparen : Token) :
    Encloses .optionalExpr (.dataType keeps) (DataType.named name lparen · rparen) args where
  shaped := by simp +contextual [Checked.typeName]
  like := fun _ _ _ => rfl
  slots := by simp +contextual

theorem WhenClause.cons_encloses (whenToken : Token) (condition : Expr) (thenToken : Token)
    (result : Expr) (ws : List WhenClause) :
    Encloses (.both (.both (.expr keeps) (.expr keeps)) .whens) .whens
      (fun p => ⟨whenToken, p.1.1, thenToken, p.1.2⟩ :: p.2) ((condition, result), ws) where
  shaped := by simp +contextual [Checked.whenClause]
  like := fun _ _ => rfl
  slots := by simp +contextual

theorem Clause.mk_encloses (keywords : List Token) (body : Expr) :
    Encloses (.expr keeps) .clause (Clause.mk keywords) body where
  shaped := by simp +contextual [Checked.clause]
  like := fun _ _ => rfl
  slots := by simp +contextual

theorem Clause.some_encloses (c : Clause) : Encloses .clause .optionalClause some c where
  shaped := by simp +contextual
  like := fun _ same => congrArg some same
  slots := by simp +contextual

theorem TopClause.some_encloses (topToken lparen : Token) (count : Expr) (rparen : Token)
    (percent : Option Token) (withTies : Option (Token × Token)) :
    Encloses (.expr keeps) .optionalTop
      (fun n => some ⟨topToken, lparen, n, rparen, percent, withTies⟩) count where
  shaped := by simp +contextual [Checked.top]
  like := fun _ _ => trivial
  slots := by simp +contextual [Mark.list_edit_optionalSlots]

theorem SelectClauses.mk_encloses (into source condition grouping having : Option Clause) :
    Encloses
      (.both (.both (.both (.both .optionalClause .optionalClause) .optionalClause) .optionalClause)
        .optionalClause)
      .selectClauses (fun p => SelectClauses.mk p.1.1.1.1 p.1.1.1.2 p.1.1.2 p.1.2 p.2)
      ((((into, source), condition), grouping), having) where
  shaped := by simp +contextual
  like := by simp +contextual
  slots := by simp +contextual

theorem OverClause.mk_encloses (overToken lparen : Token) (partition order : Option Clause)
    (frame : Option RawTokens) (rparen : Token) :
    Encloses (.both .optionalClause .optionalClause) .overClause
      (fun p => OverClause.mk overToken lparen p.1 p.2 frame rparen) (partition, order) where
  shaped := by simp +contextual [Checked.overClause]
  like := fun _ _ => trivial
  slots := by simp +contextual [Mark.list_edit_optional]

theorem FetchClause.some_encloses (fetchToken direction : Token) (count : Expr)
    (rows only : Token) :
    Encloses (.expr keeps) .optionalFetch (fun n => some ⟨fetchToken, direction, n, rows, only⟩)
      count where
  shaped := by simp +contextual [Checked.fetch, Checked.rows]
  like := fun _ _ => trivial
  slots := by simp +contextual

theorem OffsetFetch.some_encloses (offsetToken : Token) (count : Expr) (rows : Token)
    (fetch : Option FetchClause) :
    Encloses (.both (.expr keeps) .optionalFetch) .optionalOffset
      (fun p => some ⟨offsetToken, p.1, rows, p.2⟩) (count, fetch) where
  shaped := by simp +contextual [Checked.offset, Checked.rows]
  like := fun _ _ => trivial
  slots := by simp +contextual

/-! ### The walk -/

namespace Editor

variable {v : Editor σ}

mutual

theorem walkExpr_walks : ∀ e : Expr, e.kind ≠ .literal →
    Walks v keeps (.exprNode keeps) (Edited.orOld v.walkExpr) e
  | .literal _, inner => absurd rfl inner
  | .name _, _ | .raw _, _ => .unchanged (by rw [Edited.orOld, walkExpr]; rfl) (by simp)
  | .unary op e, _ =>
    .node (Expr.unary_encloses op e) (.expr (walkExpr_walks e))
      (fun _ => by rw [Edited.orOld, walkExpr]; rfl) rfl
  | .binary l op r, _ =>
    .node (Expr.binary_encloses l op r)
      (.both (.expr (walkExpr_walks l)) (.expr (walkExpr_walks r)))
      (fun _ => by rw [Edited.orOld, walkExpr]; rfl) rfl
  | .assignment target op value, _ =>
    .checked (Expr.assignment_encloses target op value) (Expr.assignment_accepts target op value)
      (.both (.expr (walkExpr_walks target)) (.expr (walkExpr_walks value)))
      (fun _ => inferInstance) (fun _ => by rw [Edited.orOld, walkExpr]; rfl) rfl
  | .isNull e isToken not null, _ =>
    .node (Expr.isNull_encloses e isToken not null) (.expr (walkExpr_walks e))
      (fun _ => by rw [Edited.orOld, walkExpr]; rfl) rfl
  | .like e not keyword pattern escape, _ =>
    .node (Expr.like_encloses e not keyword pattern escape)
      (.both (.both (.expr (walkExpr_walks e)) (.expr (walkExpr_walks pattern)))
        (walkTail_walks escape))
      (fun _ => by rw [Edited.orOld, walkExpr]; rfl) rfl
  | .between e not keyword low and high, _ =>
    .node (Expr.between_encloses e not keyword low and high)
      (.both (.both (.expr (walkExpr_walks e)) (.expr (walkExpr_walks low)))
        (.expr (walkExpr_walks high)))
      (fun _ => by rw [Edited.orOld, walkExpr]; rfl) rfl
  | .isIn e not keyword lparen values rparen, _ =>
    .node (Expr.isIn_encloses e not keyword lparen values rparen)
      (.both (.expr (walkExpr_walks e)) (.expr (walkExpr_walks values)))
      (fun _ => by rw [Edited.orOld, walkExpr]; rfl) rfl
  | .paren lparen inner rparen, _ =>
    .node (Expr.paren_encloses lparen inner rparen) (.expr (walkExpr_walks inner))
      (fun _ => by rw [Edited.orOld, walkExpr]; rfl) rfl
  | .call callee lparen args rparen, _ =>
    .node (Expr.call_encloses callee lparen args rparen)
      (.both (.expr (walkExpr_walks callee)) (walkOptionalExpr_walks args))
      (fun _ => by rw [Edited.orOld, walkExpr]; rfl) rfl
  | .window function overClause, _ =>
    .checked (Expr.window_encloses function overClause) (Expr.window_accepts function overClause)
      (.both (.expr (walkExpr_walks function)) (walkOver_walks overClause)) (fun _ => inferInstance)
      (fun _ => by rw [Edited.orOld, walkExpr]; rfl) rfl
  | .cast keyword lparen e asToken dataType rparen, _ =>
    .node (Expr.cast_encloses keyword lparen e asToken dataType rparen)
      (.both (.expr (walkExpr_walks e)) (editDataType_walks dataType))
      (fun _ => by rw [Edited.orOld, walkExpr]; rfl) rfl
  | .case keyword operand whens otherwise endToken, _ =>
    .node (Expr.case_encloses keyword operand whens otherwise endToken)
      (.both (.both (walkOptionalExpr_walks operand) (walkWhens_walks whens))
        (walkTail_walks otherwise))
      (fun _ => by rw [Edited.orOld, walkExpr]; rfl) rfl
  | .collate e keyword collation, _ =>
    .node (Expr.collate_encloses e keyword collation) (.expr (walkExpr_walks e))
      (fun _ => by rw [Edited.orOld, walkExpr]; rfl) rfl
  | .list items separators, _ =>
    .node (Expr.list_encloses items separators) (walkItems_walks items)
      (fun _ => by rw [Edited.orOld, walkExpr]; rfl) rfl
  | .aliased e asToken name, _ =>
    .node (Expr.aliased_encloses e asToken name) (.expr (walkExpr_walks e))
      (fun _ => by rw [Edited.orOld, walkExpr]; rfl) rfl
  | .sort e direction, _ =>
    .node (Expr.sort_encloses e direction) (.expr (walkExpr_walks e))
      (fun _ => by rw [Edited.orOld, walkExpr]; rfl) rfl
  | .join l op r on, _ =>
    .node (Expr.join_encloses l op r on)
      (.both (.both (.expr (walkExpr_walks l)) (.expr (walkExpr_walks r))) (walkTail_walks on))
      (fun _ => by rw [Edited.orOld, walkExpr]; rfl) rfl
  | .tableHint table keyword lparen hints rparen, _ =>
    .node (Expr.tableHint_encloses table keyword lparen hints rparen)
      (.both (.expr (walkExpr_walks table)) (.expr (walkExpr_walks hints)))
      (fun _ => by rw [Edited.orOld, walkExpr]; rfl) rfl
  | .select keyword quantifier top columns clauses, _ =>
    .node (Expr.select_encloses keyword quantifier top columns clauses)
      (.both (.both (walkOptionalTop_walks top) (.expr (walkExpr_walks columns)))
        (walkSelectClauses_walks clauses))
      (fun _ => by rw [Edited.orOld, walkExpr]; rfl) rfl
  | .setOperation l op all r, _ =>
    .node (Expr.setOperation_encloses l op all r)
      (.both (.expr (walkExpr_walks l)) (.expr (walkExpr_walks r)))
      (fun _ => by rw [Edited.orOld, walkExpr]; rfl) rfl
  | .orderBy query order offset, _ =>
    .node (Expr.orderBy_encloses query order offset)
      (.both (.both (.expr (walkExpr_walks query)) (walkClause_walks order))
        (walkOptionalOffset_walks offset))
      (fun _ => by rw [Edited.orOld, walkExpr]; rfl) rfl
  | .queryOption query keyword options, _ =>
    .node (Expr.queryOption_encloses query keyword options) (.expr (walkExpr_walks query))
      (fun _ => by rw [Edited.orOld, walkExpr]; rfl) rfl

theorem walkOptionalExpr_walks : ∀ e : Option Expr,
    Walks v keeps .optionalExpr v.walkOptionalExpr e
  | none => .unchanged (by rw [walkOptionalExpr]) (by simp)
  | some e =>
    .map (Expr.some_encloses e) (.expr (walkExpr_walks e))
      (fun _ => by rw [walkOptionalExpr]; rfl) rfl

theorem walkItems_walks : ∀ es : List Expr, Walks v keeps (.list (.expr keeps)) v.walkItems es
  | [] => .unchanged (by rw [walkItems]) (by simp)
  | e :: es =>
    .map (.cons (.expr keeps) e es) (.both (.expr (walkExpr_walks e)) (walkItems_walks es))
      (fun _ => by rw [walkItems]; rfl) rfl

theorem walkTail_walks : ∀ t : Tail, Walks v keeps .tail v.walkTail t
  | .absent => .unchanged (by rw [walkTail]) (by simp)
  | .present keyword value =>
    .map (Tail.present_encloses keyword value) (.expr (walkExpr_walks value))
      (fun _ => by rw [walkTail]; rfl) rfl

theorem editDataType_walks : ∀ t : DataType, Walks v keeps (.dataType keeps) v.editDataType t
  | .table type => .dataType (.unchanged (by rw [Edited.orOld, walkDataType]; rfl) (by simp))
  | .named name lparen args rparen =>
    .dataType (.node (DataType.named_encloses name lparen args rparen) (walkOptionalExpr_walks args)
      (fun _ => by rw [Edited.orOld, walkDataType]; rfl) rfl)

theorem walkWhens_walks : ∀ ws : List WhenClause, Walks v keeps .whens v.walkWhens ws
  | [] => .unchanged (by rw [walkWhens]) (by simp)
  | ⟨whenToken, condition, thenToken, result⟩ :: ws =>
    .map (WhenClause.cons_encloses whenToken condition thenToken result ws)
      (.both (.both (.expr (walkExpr_walks condition)) (.expr (walkExpr_walks result)))
        (walkWhens_walks ws))
      (fun _ => by rw [walkWhens]; rfl) rfl

theorem walkClause_walks : ∀ c : Clause, Walks v keeps .clause v.walkClause c
  | ⟨keywords, body⟩ =>
    .map (Clause.mk_encloses keywords body) (.expr (walkExpr_walks body))
      (fun _ => by rw [walkClause]; rfl) rfl

theorem walkOptionalClause_walks : ∀ c : Option Clause,
    Walks v keeps .optionalClause v.walkOptionalClause c
  | none => .unchanged (by rw [walkOptionalClause]) (by simp)
  | some c =>
    .map (Clause.some_encloses c) (walkClause_walks c) (fun _ => by rw [walkOptionalClause]) rfl

theorem walkOptionalTop_walks : ∀ t : Option TopClause,
    Walks v keeps .optionalTop v.walkOptionalTop t
  | none => .unchanged (by rw [walkOptionalTop]) (by simp)
  | some ⟨topToken, lparen, count, rparen, percent, withTies⟩ =>
    .map (TopClause.some_encloses topToken lparen count rparen percent withTies)
      (.expr (walkExpr_walks count)) (fun _ => by rw [walkOptionalTop]; rfl) rfl

theorem walkSelectClauses_walks : ∀ c : SelectClauses,
    Walks v keeps .selectClauses v.walkSelectClauses c
  | ⟨into, source, condition, grouping, having⟩ =>
    .map (SelectClauses.mk_encloses into source condition grouping having)
      (.both (.both (.both (.both (walkOptionalClause_walks into) (walkOptionalClause_walks source))
        (walkOptionalClause_walks condition)) (walkOptionalClause_walks grouping))
          (walkOptionalClause_walks having))
      (fun _ => by rw [walkSelectClauses]; rfl) rfl

theorem walkOver_walks : ∀ o : OverClause, Walks v keeps .overClause v.walkOver o
  | ⟨overToken, lparen, partition, order, frame, rparen⟩ =>
    .map (OverClause.mk_encloses overToken lparen partition order frame rparen)
      (.both (walkOptionalClause_walks partition) (walkOptionalClause_walks order))
      (fun _ => by rw [walkOver]; rfl) rfl

theorem walkOptionalFetch_walks : ∀ c : Option FetchClause,
    Walks v keeps .optionalFetch v.walkOptionalFetch c
  | none => .unchanged (by rw [walkOptionalFetch]) (by simp)
  | some ⟨fetchToken, direction, count, rows, only⟩ =>
    .map (FetchClause.some_encloses fetchToken direction count rows only)
      (.expr (walkExpr_walks count)) (fun _ => by rw [walkOptionalFetch]; rfl) rfl

theorem walkOptionalOffset_walks : ∀ o : Option OffsetFetch,
    Walks v keeps .optionalOffset v.walkOptionalOffset o
  | none => .unchanged (by rw [walkOptionalOffset]) (by simp)
  | some ⟨offsetToken, count, rows, fetch⟩ =>
    .map (OffsetFetch.some_encloses offsetToken count rows fetch)
      (.both (.expr (walkExpr_walks count)) (walkOptionalFetch_walks fetch))
      (fun _ => by rw [walkOptionalOffset]; rfl) rfl

end

end Editor

end

end TransactSql
