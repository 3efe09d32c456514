import TransactSql.Grammar.Query
import TransactSql.Proofs.Likeness.Checks
import TransactSql.Proofs.Likeness.Parsers

/-!
# Names, types and queries on related inputs

Each rule is related to itself, given that the parsers it is handed are.
-/

namespace TransactSql.Grammar

open TransactSql.Parser

variable {R : Correspondence}

/-! ### Names -/

theorem related_namePart {ts us : List Token} (h : Related R ts us) :
    Related R (namePart ts) (namePart us) := by
  have dots : Related R (takeRun fun ts => (ts.takeWhile (·.kind == .dot)).length)
      (takeRun fun ts => (ts.takeWhile (·.kind == .dot)).length) :=
    related_takeRun fun _ _ h => h.length_takeWhile fun _ _ _ => inferInstance
  unfold namePart
  refine related_test inferInstance fun dot => .cond inferInstance inferInstance ?_
  refine related_bind dots fun dots dots' _ => ?_
  refine related_test inferInstance fun star => .cond inferInstance ?_ ?_
  · exact related_bind inferInstance fun _ _ _ => inferInstance
  · exact related_bind inferInstance fun _ _ _ => inferInstance

instance : Related R name name := by
  unfold name
  refine related_bind inferInstance fun first first' _ => ?_
  refine related_bind ?_ fun parts parts' _ => inferInstance
  exact related_loop (fun _ _ h => related_namePart h) inferInstance

/-! ### Parentheses -/

instance {t u : Token} [Related R t u] : Related R (isCutShort t) (isCutShort u) := by
  unfold isCutShort; infer_instance

theorem outcome_rawParenBody {c d : Cursor} (cursors : Related R c d) :
    Outcome R (rawParenBody c) (rawParenBody d) := by
  refine outcome_bind (outcome_readToCloseParen cursors) fun x y h => ?_
  obtain ⟨_, _, _, _, rfl, rfl, _, _⟩ := h.pair
  exact related_bind inferInstance fun _ _ _ => inferInstance

instance : Related R rawParenBody rawParenBody :=
  ⟨fun _ _ cursors _ => outcome_rawParenBody cursors⟩

section Expressions

variable {sub sub' : Precedence → Parser Expr} [∀ min, Related R (sub min) (sub' min)]

instance : Related R (parenBody sub) (parenBody sub') := by
  unfold parenBody
  refine related_bind inferInstance fun rparen rparen' h => ?_
  obtain ⟨rfl, rfl⟩ | ⟨_, _, rfl, rfl, _⟩ := h.option
  · refine related_withAssignment false (related_recording ?_)
    refine related_attempt inferInstance (fun inner inner' _ => ?_) ?_ (fun _ => ⟨rfl, rfl⟩)
      (fun _ => ⟨rfl, rfl⟩)
    · refine related_test inferInstance fun closed => .cond inferInstance ?_ inferInstance
      exact related_bind inferInstance fun _ _ _ => inferInstance
    · intro x y c d diagnostics cursors fault fault'
      have short : isCutShort c.rawCurrent = isCutShort d.rawCurrent :=
        Bool.eq_of_related (R := R) inferInstance
      show Outcome R
        ((if isCutShort c.rawCurrent then throw (.grammar x) else rawParenBody : Parser _) c)
        ((if isCutShort d.rawCurrent then throw (.grammar y) else rawParenBody : Parser _) d)
      rw [short]
      split
      · exact .grammar diagnostics cursors fault fault'
      · exact outcome_rawParenBody cursors
  · dsimp only
    infer_instance

/-! ### Data types -/

instance : Related R tableType tableType := by
  unfold tableType
  refine related_bind inferInstance fun tableToken tableToken' _ => ?_
  refine related_bind inferInstance fun lparen lparen' _ => ?_
  refine related_bind inferInstance fun x y h => ?_
  obtain ⟨definition, rparen, definition', rparen', rfl, rfl, _, _⟩ := h.pair
  refine .cond inferInstance inferInstance ?_
  exact related_bind inferInstance fun _ _ _ => inferInstance

instance {n n' : Name} [Related R n n'] : Related R (simpleType n) (simpleType n') := by
  unfold simpleType; infer_instance

instance : Related R (dataType sub) (dataType sub') := by
  unfold dataType
  refine related_test inferInstance fun table => .cond inferInstance ?_ ?_
  · exact related_bind inferInstance fun _ _ _ => inferInstance
  · refine related_bind inferInstance fun name name' _ => ?_
    refine related_bind inferInstance fun lparen lparen' h => ?_
    obtain ⟨rfl, rfl⟩ | ⟨_, _, rfl, rfl, _⟩ := h.option
    · dsimp only
      infer_instance
    · refine related_bind inferInstance fun x y h => ?_
      obtain ⟨args, rparen, args', rparen', rfl, rfl, _, _⟩ := h.pair
      exact .cond inferInstance inferInstance inferInstance

instance : Related R assignSign assignSign := by unfold assignSign; infer_instance

/-! ### Clauses -/

theorem related_listOrSingle {x y : List Expr × List Token} (h : Related R x y) :
    Related R (listOrSingle x) (listOrSingle y) := by
  obtain ⟨es, ts, es', ts', rfl, rfl, items, _⟩ := h.pair
  unfold listOrSingle
  obtain ⟨rfl, rfl⟩ | ⟨e, _, f, _, rfl, rfl, _, rest⟩ := items.list
  · dsimp only
    infer_instance
  · obtain ⟨rfl, rfl⟩ | ⟨_, _, _, _, rfl, rfl, _, _⟩ := rest.list
    · dsimp only
      infer_instance
    · dsimp only
      infer_instance

instance (k : Keyword) {body body' : Parser Expr} [Related R body body'] :
    Related R (optionalClause k body) (optionalClause k body') := by
  unfold optionalClause
  refine related_bind inferInstance fun t t' h => ?_
  obtain ⟨rfl, rfl⟩ | ⟨_, _, rfl, rfl, _⟩ := h.option
  · dsimp only
    infer_instance
  · refine related_bind inferInstance fun e e' _ => ?_
    exact related_bind inferInstance fun _ _ _ => inferInstance

instance (k : Keyword) {body body' : Parser Expr} [Related R body body'] :
    Related R (optionalByClause k body) (optionalByClause k body') := by
  unfold optionalByClause
  refine related_test inferInstance fun there => .cond inferInstance inferInstance ?_
  refine related_bind inferInstance fun first first' _ => ?_
  refine related_bind inferInstance fun second second' _ => ?_
  refine related_bind inferInstance fun e e' _ => ?_
  exact related_bind inferInstance fun _ _ _ => inferInstance

instance : Related R (sortItem sub) (sortItem sub') := by
  unfold sortItem
  refine related_bind inferInstance fun e e' _ => ?_
  refine related_bind inferInstance fun direction direction' h => ?_
  obtain ⟨rfl, rfl⟩ | ⟨_, _, rfl, rfl, _⟩ := h.option <;> dsimp only <;> infer_instance

instance : Related R (sortItems sub) (sortItems sub') := by
  unfold sortItems
  refine related_bind inferInstance fun x y h => ?_
  have list := related_listOrSingle h
  infer_instance

instance : Related R (topCount sub) (topCount sub') := by
  unfold topCount
  refine related_bind inferInstance fun lparen lparen' h => ?_
  obtain ⟨rfl, rfl⟩ | ⟨_, _, rfl, rfl, _⟩ := h.option
  · exact related_bind inferInstance fun _ _ _ => inferInstance
  · refine related_bind inferInstance fun count count' _ => ?_
    exact related_bind inferInstance fun _ _ _ => inferInstance

instance (first second : Keyword) :
    Related R (optionalPair first second) (optionalPair first second) := by
  unfold optionalPair
  refine related_test inferInstance fun there => .cond inferInstance ?_ inferInstance
  refine related_bind inferInstance fun t t' _ => ?_
  exact related_bind inferInstance fun _ _ _ => inferInstance

instance : Related R (topClause sub) (topClause sub') := by
  unfold topClause
  refine related_bind inferInstance fun topToken topToken' _ => related_withAssignment false ?_
  refine related_bind inferInstance fun x y h => ?_
  obtain ⟨lparen, x, lparen', y, rfl, rfl, _, h⟩ := h.pair
  obtain ⟨count, rparen, count', rparen', rfl, rfl, _, _⟩ := h.pair
  refine related_bind inferInstance fun percent percent' _ => ?_
  refine related_bind inferInstance fun withTies withTies' _ => ?_
  infer_instance

instance : Related R (optionalTop sub) (optionalTop sub') := by
  unfold optionalTop
  refine related_test inferInstance fun there => .cond inferInstance ?_ inferInstance
  exact related_bind inferInstance fun _ _ _ => inferInstance

theorem related_aliased {e e' : Expr} (h : Related R e e') {accepts accepts' : Token → Bool}
    (same : ∀ t u, Related R t u → Related R (accepts t) (accepts' u)) :
    Related R (aliased e accepts) (aliased e' accepts') := by
  have names : Related R (require (fun t => t.isWord || t.kind == .literal .string) "alias")
      (require (fun t => t.isWord || t.kind == .literal .string) "alias") :=
    related_require _ fun _ _ _ => inferInstance
  unfold aliased
  refine related_bind inferInstance fun asToken asToken' h => ?_
  obtain ⟨rfl, rfl⟩ | ⟨_, _, rfl, rfl, _⟩ := h.option
  · refine related_bind inferInstance fun t u token => .cond (same t u token) ?_ inferInstance
    exact related_bind inferInstance fun _ _ _ => inferInstance
  · exact related_bind inferInstance fun _ _ _ => inferInstance

instance : Related R (selectItem sub) (selectItem sub') := by
  unfold selectItem
  refine related_bind inferInstance fun e e' h => ?_
  exact related_aliased h fun _ _ _ => inferInstance

instance : Related R (selectColumns sub) (selectColumns sub') := by
  unfold selectColumns
  refine related_bind inferInstance fun x y h => ?_
  obtain ⟨_, _, _, _, rfl, rfl, _, _⟩ := h.pair
  dsimp only
  infer_instance

/-! ### Table sources -/

instance : Related R joinOperator joinOperator := by
  unfold joinOperator
  refine related_bind inferInstance fun t u token => ?_
  rw [Token.keyword?_of_related token]
  generalize u.keyword? = k
  split
  · exact related_bind inferInstance fun _ _ _ => inferInstance
  · refine related_bind inferInstance fun _ _ _ => ?_
    exact related_bind inferInstance fun _ _ _ => inferInstance
  case h_6 =>
    refine related_bind inferInstance fun cross cross' _ => ?_
    refine related_bind inferInstance fun apply apply' h => ?_
    obtain ⟨rfl, rfl⟩ | ⟨_, _, rfl, rfl, _⟩ := h.option
    · exact related_bind inferInstance fun _ _ _ => inferInstance
    · dsimp only
      infer_instance
  case h_7 =>
    refine related_bind inferInstance fun next next' _ => .cond inferInstance ?_ inferInstance
    refine related_bind inferInstance fun outer outer' _ => ?_
    exact related_bind inferInstance fun _ _ _ => inferInstance
  case h_8 => infer_instance
  -- One side for each of `LEFT`, `RIGHT` and `FULL`.
  all_goals
    refine related_bind inferInstance fun next next' _ => .cond inferInstance inferInstance ?_
    refine related_bind inferInstance fun side side' _ => ?_
    refine related_bind inferInstance fun outer outer' _ => ?_
    exact related_bind inferInstance fun _ _ _ => inferInstance

instance {ts ts' : List Token} [Related R ts ts'] :
    Related R (joinCondition sub ts) (joinCondition sub' ts') := by
  unfold joinCondition
  refine .cond inferInstance inferInstance ?_
  refine related_bind inferInstance fun keyword keyword' _ => ?_
  exact related_bind inferInstance fun _ _ _ => inferInstance

theorem related_joinStep {source source' : Parser Expr} (h : Related R source source') {e e' : Expr}
    (left : Related R e e') : Related R (joinStep sub source e) (joinStep sub' source' e') := by
  unfold joinStep
  refine related_bind inferInstance fun operator operator' h => ?_
  obtain ⟨rfl, rfl⟩ | ⟨_, _, rfl, rfl, _⟩ := h.option
  · dsimp only
    infer_instance
  · refine related_bind inferInstance fun right right' _ => ?_
    refine related_bind inferInstance fun on on' _ => ?_
    exact related_bind inferInstance fun _ _ _ => inferInstance

instance {source source' : Parser Expr} [h : Related R source source'] :
    Related R (joinChain sub source) (joinChain sub' source') := by
  unfold joinChain
  refine related_bind inferInstance fun e e' left => ?_
  exact related_loop (fun _ _ left => related_joinStep h left) left

instance {sources sources' : Parser Expr} [Related R sources sources'] :
    Related R (tableOrJoin sub sources) (tableOrJoin sub' sources') := by
  unfold tableOrJoin
  refine related_bind inferInstance fun next next' _ => ?_
  refine related_test inferInstance fun there => .cond inferInstance ?_ inferInstance
  refine related_bind inferInstance fun lparen lparen' _ => ?_
  refine related_bind inferInstance fun inner inner' _ => ?_
  exact related_bind inferInstance fun _ _ _ => inferInstance

instance {e e' : Expr} [Related R e e'] : Related R (hinted sub e) (hinted sub' e') := by
  unfold hinted
  refine related_test inferInstance fun there => ?_
  refine related_bind inferInstance fun next next' _ => .cond inferInstance inferInstance ?_
  refine related_bind inferInstance fun keyword keyword' _ => ?_
  refine related_bind inferInstance fun lparen lparen' _ => ?_
  refine related_bind inferInstance fun x y h => ?_
  obtain ⟨hints, rparen, hints', rparen', rfl, rfl, h, _⟩ := h.pair
  obtain ⟨rfl, rfl⟩ | ⟨_, _, rfl, rfl, _⟩ := h.option <;> dsimp only <;> infer_instance

instance {sources sources' : Parser Expr} [Related R sources sources'] :
    Related R (tableSource sub sources) (tableSource sub' sources') := by
  unfold tableSource
  refine related_bind inferInstance fun source source' h => ?_
  refine related_bind (related_aliased h fun _ _ _ => inferInstance) fun _ _ _ => ?_
  infer_instance

instance (limit : Nat) : Related R (tableSources sub limit) (tableSources sub' limit) := by
  induction limit with
  | zero =>
    unfold tableSources
    infer_instance
  | succ limit ih =>
    unfold tableSources
    refine related_bind inferInstance fun x y h => ?_
    have list := related_listOrSingle h
    infer_instance

instance : Related R (fromSources sub) (fromSources sub') := by
  refine ⟨fun c d cursors ready => ?_⟩
  have run : ∀ (sub : Precedence → Parser Expr) (e : Cursor),
      fromSources sub e = tableSources sub (e.ahead.length + 1) e := fun _ _ => rfl
  rw [run, run, (Cursor.alike cursors).ahead.length_eq]
  exact outcome inferInstance cursors ready

/-! ### Select -/

instance : Related R (selectClauses sub) (selectClauses sub') := by
  unfold selectClauses
  refine related_bind inferInstance fun into into' _ => ?_
  refine related_bind inferInstance fun source source' _ => ?_
  refine related_bind inferInstance fun condition condition' _ => ?_
  refine related_bind inferInstance fun grouping grouping' _ => ?_
  refine related_bind inferInstance fun having having' _ => ?_
  have clauses : Related R (SelectClauses.mk into source condition grouping having)
      (SelectClauses.mk into' source' condition' grouping' having') :=
    ⟨⟨inferInstance, inferInstance, inferInstance, inferInstance, inferInstance⟩⟩
  infer_instance

instance : Related R (select sub) (select sub') := by
  unfold select
  refine related_bind inferInstance fun keyword keyword' _ => ?_
  refine related_bind inferInstance fun quantifier quantifier' _ => ?_
  refine related_bind inferInstance fun top top' _ => ?_
  refine related_bind inferInstance fun columns columns' _ => ?_
  refine related_bind inferInstance fun clauses clauses' _ => ?_
  infer_instance

/-! ### Operators on queries -/

instance {t t' : Token} [Related R t t'] : Related R (optionalAll t) (optionalAll t') := by
  unfold optionalAll; infer_instance

instance {e e' : Expr} [Related R e e'] : Related R (setOperation sub e) (setOperation sub' e') := by
  unfold setOperation
  refine related_bind inferInstance fun operator operator' _ => ?_
  refine related_bind inferInstance fun all all' _ => ?_
  refine related_bind inferInstance fun right right' _ => ?_
  exact .cond inferInstance inferInstance inferInstance

instance : Related R rowsKeyword rowsKeyword := by
  unfold rowsKeyword
  refine related_bind inferInstance fun t t' h => ?_
  obtain ⟨rfl, rfl⟩ | ⟨_, _, rfl, rfl, _⟩ := h.option <;> dsimp only <;> infer_instance

instance : Related R (fetchClause sub) (fetchClause sub') := by
  have directions : Related R (require (·.isAnyKeyword [.FIRST, .NEXT]) "FIRST or NEXT")
      (require (·.isAnyKeyword [.FIRST, .NEXT]) "FIRST or NEXT") :=
    related_require _ fun _ _ _ => inferInstance
  unfold fetchClause
  refine related_bind inferInstance fun fetchToken fetchToken' h => ?_
  obtain ⟨rfl, rfl⟩ | ⟨_, _, rfl, rfl, _⟩ := h.option
  · dsimp only
    infer_instance
  · refine related_bind inferInstance fun direction direction' _ => ?_
    refine related_bind inferInstance fun count count' _ => ?_
    refine related_bind inferInstance fun rows rows' _ => ?_
    refine related_bind inferInstance fun only only' _ => ?_
    exact related_bind inferInstance fun _ _ _ => inferInstance

instance : Related R (offsetFetch sub) (offsetFetch sub') := by
  unfold offsetFetch
  refine related_bind inferInstance fun offsetToken offsetToken' _ => ?_
  refine related_bind inferInstance fun count count' _ => ?_
  refine related_bind inferInstance fun rows rows' _ => ?_
  exact related_bind inferInstance fun _ _ _ => inferInstance

instance : Related R (optionalOffset sub) (optionalOffset sub') := by
  unfold optionalOffset
  refine related_test inferInstance fun there => .cond inferInstance ?_ inferInstance
  exact related_bind inferInstance fun _ _ _ => inferInstance

instance {e e' : Expr} [Related R e e'] : Related R (orderBy sub e) (orderBy sub' e') := by
  unfold orderBy
  refine related_withAssignment false ?_
  refine related_bind inferInstance fun first first' _ => ?_
  refine related_bind inferInstance fun second second' _ => ?_
  refine related_bind inferInstance fun items items' _ => ?_
  refine related_bind inferInstance fun order order' _ => ?_
  exact related_bind inferInstance fun _ _ _ => inferInstance

end Expressions

/-! ### Statements kept as tokens -/

instance {t u : Token} [Related R t u] : Related R (startsStatement t) (startsStatement u) := by
  unfold startsStatement; infer_instance

section Extents

variable {t t' u u' v v' : Token} [Related R t t'] [Related R u u'] [Related R v v']

instance : Related R (continues t u v) (continues t' u' v') := by unfold continues; infer_instance

end Extents

theorem endsStatement_of_related {ts us : List Token} {t u : Token} (before : Related R ts us)
    (h : Related R t u) : endsStatement ts t = endsStatement us u := by
  have drops : Related R (ts.head?.any (·.isKeyword .DROP)) (us.head?.any (·.isKeyword .DROP)) :=
    .any inferInstance fun _ _ _ => inferInstance
  have first : Related R ts.head? us.head? := inferInstance
  have last : Related R ts.getLast? us.getLast? := inferInstance
  refine Bool.eq_of_related (R := R) ?_
  unfold endsStatement
  rw [before.length_eq]
  refine .cond inferInstance inferInstance (.cond inferInstance inferInstance
    (.cond inferInstance inferInstance ?_))
  obtain ⟨left, right⟩ | ⟨_, _, left, right, _⟩ := first.option
  · rw [left, right]
    infer_instance
  · obtain ⟨left', right'⟩ | ⟨_, _, left', right', _⟩ := last.option
    · rw [left, right, left', right']
      infer_instance
    · rw [left, right, left', right']
      dsimp only
      infer_instance

theorem statementExtent_of_related {ts us : List Token} (h : Related R ts us) :
    ∀ {before before' : List Token} (parens cases : Nat), Related R before before' →
      statementExtent before parens cases ts = statementExtent before' parens cases us := by
  have tokens : List.Forall₂ R.tokens ts us := h.rel
  clear h
  induction tokens with
  | nil => intros; rfl
  | @cons t u ts us first _ rest =>
    intro before before' parens cases earlier
    have token : Related R t u := ⟨first⟩
    have appended : Related R (before ++ [t]) (before' ++ [u]) := inferInstance
    have further := fun parens cases => rest parens cases appended
    have ends := endsStatement_of_related earlier token
    unfold statementExtent
    obtain same | ⟨_, _, left, right⟩ := Token.kind_of_related token
    · simp only [same, further, ends]
    · simp only [left, right]

instance {ts us : List Token} [h : Related R ts us] :
    Related R (statementTail ts) (statementTail us) :=
  related_takeRun fun _ _ ahead => statementExtent_of_related ahead 0 0 h

instance {e e' : Expr} [Related R e e'] : Related R (forOption e) (forOption e') := by
  unfold forOption
  refine related_bind inferInstance fun keyword keyword' _ => ?_
  refine related_bind inferInstance fun options options' _ => ?_
  exact related_bind inferInstance fun _ _ _ => inferInstance

instance {e e' : Expr} [Related R e e'] : Related R (hintOption e) (hintOption e') := by
  unfold hintOption
  refine related_bind inferInstance fun keyword keyword' _ => ?_
  refine related_bind inferInstance fun lparen lparen' _ => ?_
  refine related_bind inferInstance fun x y h => ?_
  obtain ⟨tokens, rparen, tokens', rparen', rfl, rfl, _, _⟩ := h.pair
  exact related_bind inferInstance fun _ _ _ => inferInstance

end TransactSql.Grammar
