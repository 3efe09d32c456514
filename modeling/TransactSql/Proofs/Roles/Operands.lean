import TransactSql.Grammar.Query
import TransactSql.Proofs.Roles.Basic
import TransactSql.Proofs.Statement.Kinds

/-!
# Clauses of apt expressions

What the rules below the operators give: parentheses, data types, clauses and queries are apt if
the expressions in them are.
-/

namespace TransactSql

namespace Parser.Returns

variable {P : α → Prop}

theorem build_bind {Q : β → Prop} {made : Shaped α} {a : α} [Shaped.Makes made a] {k : α → Parser β}
    (rest : Returns Q (k a)) : Returns Q (Parser.build made >>= k) :=
  .seq (.build (P := (· = a)) rfl) fun _ same => same ▸ rest

theorem commaTail {item : Parser α} {first : α} (start : P first) (each : Returns P item) :
    Returns (fun read : List α × List Token => ∀ x ∈ read.1, P x) (Parser.commaTail first item) := by
  unfold Parser.commaTail
  refine .loop (fun read held => ?_) (List.forall_mem_singleton.mpr start)
  unfold commaItem
  refine .bind fun comma => ?_
  split
  · exact .pure held
  · refine .seq each fun x given => .pure ?_
    exact List.forall_mem_append.mpr ⟨held, List.forall_mem_singleton.mpr given⟩

theorem commaSeparated {item : Parser α} (each : Returns P item) :
    Returns (fun read : List α × List Token => ∀ x ∈ read.1, P x) (Parser.commaSeparated item) := by
  unfold Parser.commaSeparated
  exact .seq each fun first given => commaTail given each

end Parser.Returns

namespace Grammar

open TransactSql.Parser

/-- Parsers of expressions, one for each power, that give apt expressions. None of them starts at
a comma or at a set operator. -/
structure GivesApt (sub : Precedence → Parser Expr) : Prop where
  stands : ∀ min, Returns (Expr.Stands min) (sub min)
  starts : ∀ {min : Precedence} {c d : Cursor} {e : Expr}, sub min c = .ok e d →
    c.current.kind ≠ .comma ∧ c.current.precedence ≠ .setOperator

variable {sub : Precedence → Parser Expr}

theorem GivesApt.apt (gives : GivesApt sub) (min : Precedence) : Returns Expr.AllApt (sub min) :=
  (gives.stands min).mono fun _ stands => stands.apt

theorem GivesApt.item (gives : GivesApt sub) {min : Precedence} (tight : .comma ≤ min) :
    Returns Expr.Item (sub min) :=
  (gives.stands min).mono fun _ stands => stands.item tight

/-! ### Lists -/

theorem list_apt {items : List Expr} {separators : List Token} (each : ∀ x ∈ items, x.Item) :
    (Expr.list items separators).AllApt :=
  .intro ⟨fun x member => (each x member).single, trivial⟩ fun x member => (each x member).apt

theorem listOrSingle_apt {read : List Expr × List Token} (each : ∀ x ∈ read.1, x.Item) :
    Returns Expr.AllApt (build (listOrSingle read)) := by
  unfold listOrSingle
  split
  · next e single =>
    rw [single] at each
    exact .build (each e (List.mem_singleton_self e)).apt
  · exact .build (list_apt each)

/-! ### Parentheses and data types -/

theorem rawParenBody_apt : Returns (fun body => ∀ e ∈ body.1, Expr.AllApt e) rawParenBody := by
  unfold rawParenBody
  refine .bind fun read => .build_bind (.pure ?_)
  rintro _ ⟨⟩
  exact Expr.Strong.apt (Expr.strong_node trivial trivial rfl (by simp [Expr.children]))

section

variable (gives : GivesApt sub)

include gives

theorem parenBody_apt : Returns (fun body => ∀ e ∈ body.1, Expr.AllApt e) (parenBody sub) := by
  unfold parenBody
  refine .bind fun rparen => ?_
  split
  · exact .pure (by simp)
  · refine .withAssignment (.recording (.attempt (gives.apt .none) (fun inner apt => ?_) fun e => ?_))
    · refine .bind fun closed => .ite (.bind fun rparen => .pure ?_) rawParenBody_apt
      rintro _ ⟨⟩
      exact apt
    · cases e with
      | grammar => exact .bind fun token => .ite ⟨fun run => absurd run throw_ok⟩ rawParenBody_apt
      | _ => exact ⟨fun run => absurd run throw_ok⟩

theorem dataType_apt : Returns (fun type => ∀ e ∈ type.exprs, Expr.AllApt e) (dataType sub) := by
  unfold dataType
  refine .bind fun isTable => .ite (.bind fun type => .pure (by simp [DataType.exprs])) ?_
  refine .bind fun name => .bind fun lparen => ?_
  split
  · exact .pure (by simp [simpleType, DataType.exprs])
  · refine .seq (parenBody_apt gives) fun body apt => ?_
    dsimp only
    split
    · exact .fail_bind
    · exact .build (by simpa [DataType.exprs] using apt)

end

/-! ### Clauses -/

section

variable {P : Expr → Prop} {body : Parser Expr} (held : Returns P body)

include held

theorem optionalClause_each (k : Keyword) :
    Returns (fun c => ∀ e ∈ Clause.exprs c, P e) (optionalClause k body) := by
  unfold optionalClause
  refine .bind fun found => ?_
  split
  · exact .pure (by simp [Clause.exprs])
  · exact .seq held fun e given => .build_bind (.pure (by simpa [Clause.exprs] using given))

theorem optionalByClause_each (k : Keyword) :
    Returns (fun c => ∀ e ∈ Clause.exprs c, P e) (optionalByClause k body) := by
  unfold optionalByClause
  refine .bind fun present => ?_
  split
  · exact .pure (by simp [Clause.exprs])
  · refine .bind fun first => .bind fun second => .seq held fun e given => ?_
    exact .build_bind (.pure (by simpa [Clause.exprs] using given))

end

section

variable (gives : GivesApt sub)

include gives

theorem sortItem_item : Returns Expr.Item (sortItem sub) := by
  unfold sortItem
  refine .seq (gives.item (by decide)) fun e item => .bind fun direction => ?_
  split
  · refine .build (Expr.Strong.item ?_)
    exact Expr.strong_node trivial trivial rfl (by simpa [Expr.children] using item.apt)
  · exact .pure item

theorem sortItems_apt : Returns Expr.AllApt (sortItems sub) := by
  unfold sortItems
  exact .seq (.commaSeparated (sortItem_item gives)) fun read each => listOrSingle_apt each

theorem topCount_apt : Returns (fun count => count.2.1.AllApt) (topCount sub) := by
  unfold topCount
  refine .bind fun lparen => ?_
  split
  · exact .seq (gives.apt .none) fun count apt => .bind fun rparen => .pure apt
  · exact .seq (gives.apt .unary) fun count apt => .pure apt

theorem optionalTop_apt : Returns (fun top => ∀ t ∈ top, t.count.AllApt) (optionalTop sub) := by
  have read : Returns (fun top => top.count.AllApt) (topClause sub) := by
    unfold topClause
    refine .bind fun topToken => .withAssignment (.seq (topCount_apt gives) fun count apt => ?_)
    exact .bind fun percent => .bind fun withTies => .build apt
  unfold optionalTop
  refine .bind fun present => .ite (.seq read fun top apt => .pure ?_) (.pure (by simp))
  rintro _ ⟨⟩
  exact apt

omit gives in
/-- An alias takes an expression as it is. -/
theorem aliased_item {e : Expr} (item : e.Item) (accepts : Token → Bool) :
    Returns Expr.Item (aliased e accepts) := by
  have named : ∀ asToken name, (Expr.aliased e asToken name).Item := fun asToken name =>
    Expr.Strong.item (Expr.strong_node trivial trivial rfl (by simpa [Expr.children] using item.apt))
  unfold aliased
  refine .bind fun asToken => ?_
  split
  · exact .bind fun name => .build (named _ _)
  · refine .bind fun token => .ite (.bind fun name => .build (named _ _)) (.pure item)

theorem selectColumns_apt :
    Returns (fun e => e.AllApt ∧ e.kind = .exprList) (selectColumns sub) := by
  have item : Returns Expr.Item (selectItem sub) := by
    unfold selectItem
    exact .seq (gives.item (by decide)) fun e item => aliased_item item _
  unfold selectColumns
  exact .seq (.commaSeparated item) fun read each => .build ⟨list_apt each, rfl⟩

/-! ### Table sources -/

theorem joinCondition_apt (operator : List Token) :
    Returns (fun on => ∀ e ∈ on.value?, Expr.AllApt e) (joinCondition sub operator) := by
  unfold joinCondition
  refine .ite (.pure (by simp [Tail.value?])) (.bind fun keyword => ?_)
  exact .seq (gives.apt .comma) fun e apt => .pure (by simpa [Tail.value?] using apt)

theorem joinChain_item {source : Parser Expr} (read : Returns Expr.Item source) :
    Returns Expr.Item (joinChain sub source) := by
  unfold joinChain
  refine .seq read fun first item => .loop (fun left item => ?_) item
  unfold joinStep
  refine .bind fun operator => ?_
  split
  · exact .pure item
  · refine .seq read fun right item' => .seq (joinCondition_apt gives _) fun on condition => ?_
    refine .build_bind (.pure (Expr.Strong.item ?_))
    refine Expr.strong_node trivial trivial rfl ?_
    simpa [Expr.children] using ⟨item.apt, item'.apt, condition⟩

theorem tableOrJoin_item {sources : Parser Expr} (read : Returns Expr.AllApt sources) :
    Returns Expr.Item (tableOrJoin sub sources) := by
  unfold tableOrJoin
  refine .bind fun next => .bind fun opens => .ite ?_ (gives.item (by decide))
  refine .bind fun lparen => .seq read fun inner apt => .bind fun rparen => ?_
  refine .build (Expr.Strong.item ?_)
  exact Expr.strong_node trivial trivial rfl (by simpa [Expr.children] using apt)

theorem hinted_item {table : Expr} (item : table.Item) :
    Returns Expr.Item (hinted sub table) := by
  unfold hinted
  refine .bind fun isWith => .bind fun next => ?_
  split
  · exact .pure item
  · refine .bind fun keyword => .bind fun lparen => .seq (parenBody_apt gives) fun body apt => ?_
    split
    · next hints rparen =>
      refine .build (Expr.Strong.item ?_)
      refine Expr.strong_node trivial trivial rfl ?_
      simpa [Expr.children] using ⟨item.apt, apt hints rfl⟩
    · exact .fail

theorem tableSources_apt (limit : Nat) : Returns Expr.AllApt (tableSources sub limit) := by
  induction limit with
  | zero => exact .fail
  | succ limit ih =>
    have source : Returns Expr.Item (tableSource sub (tableSources sub limit)) := by
      unfold tableSource
      refine .seq (tableOrJoin_item gives ih) fun source item => ?_
      exact .seq (aliased_item item _) fun named item => hinted_item gives item
    unfold tableSources
    exact .seq (.commaSeparated (joinChain_item gives source)) fun read each => listOrSingle_apt each

theorem fromSources_apt : Returns Expr.AllApt (fromSources sub) := by
  unfold fromSources
  exact .bind fun c => tableSources_apt gives _

/-! ### Queries -/

theorem selectClauses_apt :
    Returns (fun clauses => ∀ e ∈ clauses.exprs, Expr.AllApt e) (selectClauses sub) := by
  unfold selectClauses
  refine .seq (optionalClause_each (gives.apt .unary) _) fun into apt => ?_
  refine .seq (optionalClause_each (fromSources_apt gives) _) fun source apt' => ?_
  refine .seq (optionalClause_each (gives.apt .comma) _) fun condition apt'' => ?_
  refine .seq (optionalByClause_each (gives.apt .setOperator) _) fun grouping apt''' => ?_
  refine .seq (optionalClause_each (gives.apt .comma) _) fun having apt'''' => .pure ?_
  simp only [SelectClauses.exprs, List.forall_mem_append]
  exact ⟨⟨⟨⟨apt, apt'⟩, apt''⟩, apt'''⟩, apt''''⟩

theorem select_strong : Returns Expr.Strong (select sub) := by
  unfold select
  refine .bind fun keyword => .bind fun quantifier => .seq (optionalTop_apt gives) fun top counted => ?_
  refine .seq (.withAssignment (selectColumns_apt gives)) fun columns ⟨apt, isList⟩ => ?_
  refine .seq (.withAssignment (selectClauses_apt gives)) fun clauses apt' => .build ?_
  refine Expr.strong_node isList trivial rfl ?_
  simp only [Expr.children, List.forall_mem_append, List.forall_mem_cons]
  exact ⟨by simpa using counted, apt, apt'⟩

theorem fetchClause_apt :
    Returns (fun fetch => ∀ f ∈ fetch, f.count.AllApt) (fetchClause sub) := by
  unfold fetchClause
  refine .bind fun fetchToken => ?_
  split
  · exact .pure (by simp)
  · refine .bind fun direction => .seq (gives.apt .comma) fun count apt => ?_
    refine .bind fun rows => .bind fun only => .build_bind (.pure ?_)
    rintro _ ⟨⟩
    exact apt

theorem optionalOffset_apt :
    Returns (fun offset => ∀ e ∈ (offset.map OffsetFetch.exprs).getD [], Expr.AllApt e)
      (optionalOffset sub) := by
  have read : Returns (fun offset => ∀ e ∈ offset.exprs, Expr.AllApt e) (offsetFetch sub) := by
    unfold offsetFetch
    refine .bind fun offsetToken => .seq (gives.apt .comma) fun count apt => .bind fun rows => ?_
    refine .seq (fetchClause_apt gives) fun fetch apt' => .build ?_
    simpa [OffsetFetch.exprs] using ⟨apt, apt'⟩
  unfold optionalOffset
  exact .bind fun present => .ite (.seq read fun offset apt => .pure apt) (.pure (by simp))

end

end Grammar

end TransactSql
