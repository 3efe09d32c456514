import TransactSql.Parse
import TransactSql.Proofs.Likeness.Expressions
import TransactSql.Proofs.Likeness.Statements

/-!
# Statements and scripts on related inputs

Where a statement ends, what it is, and whether a block is kept as tokens is decided in the same
way for related inputs.
-/

namespace TransactSql.Grammar

open TransactSql.Parser

variable {R : Correspondence} {expr expr' : Precedence → Parser Expr} {statement statement' : Parser Statement}
  [∀ min, Related R (expr min) (expr' min)] [hstatement : Related R statement statement']

/-! ### Sequences of statements -/

theorem related_moreStatements {ss ss' : List Statement} (h : Related R ss ss') :
    Related R (moreStatements statement ss) (moreStatements statement' ss') := by
  unfold moreStatements
  refine related_test inferInstance fun ended => .cond inferInstance inferInstance ?_
  exact related_bind inferInstance fun _ _ _ => inferInstance

instance : Related R (statements statement) (statements statement') :=
  related_loop (fun _ _ h => related_moreStatements h) inferInstance

instance : Related R atBlockEnd atBlockEnd :=
  related_bind inferInstance fun _ _ _ => related_bind inferInstance fun _ _ _ => inferInstance

theorem related_moreBlockStatements {ss ss' : List Statement} (h : Related R ss ss') :
    Related R (moreBlockStatements statement ss) (moreBlockStatements statement' ss') := by
  unfold moreBlockStatements
  refine related_test inferInstance fun ended => related_test inferInstance fun closed => ?_
  refine .cond inferInstance inferInstance ?_
  exact related_bind inferInstance fun _ _ _ => inferInstance

instance : Related R (blockBody statement) (blockBody statement') :=
  related_loop (fun _ _ h => related_moreBlockStatements h) inferInstance

instance : Related R (block statement) (block statement') := by
  unfold block
  refine related_bind inferInstance fun beginToken beginToken' _ => ?_
  refine related_bind inferInstance fun body body' _ => ?_
  refine related_bind inferInstance fun endToken endToken' _ => ?_
  exact related_bind inferInstance fun _ _ _ => inferInstance

/-! ### Recovery -/

theorem related_recovering [Relatable α] {p q : Parser α}
    {recover recover' : List Token → Option Token → Parser α} (h : Related R p q)
    (rest : ∀ ts us x y, Related R ts us → Related R x y → Related R (recover ts x) (recover' us y)) :
    Related R (recovering p recover) (recovering q recover') := by
  refine related_recording (related_attempt h (fun _ _ _ => ?_) ?_ (fun _ => ⟨rfl, rfl⟩)
    (fun _ => ⟨rfl, rfl⟩))
  · dsimp only
    infer_instance
  · intro x y c d _ cursors _ _
    refine outcome_bind (outcome_readToEnd cursors) fun x y h => ?_
    obtain ⟨_, _, _, _, rfl, rfl, tokens, terminator⟩ := h.pair
    exact rest _ _ _ _ tokens terminator

instance {ts us : List Token} {t u : Token} [Related R ts us] [Related R t u] :
    Related R (rawStatement ts t) (rawStatement us u) := by
  unfold rawStatement
  exact related_bind inferInstance fun _ _ _ => inferInstance

instance {ts us : List Token} [Related R ts us] :
    Related R (recoveredStatements ts) (recoveredStatements us) := by
  unfold recoveredStatements
  refine .cond inferInstance inferInstance ?_
  exact related_bind inferInstance fun _ _ _ => inferInstance

theorem related_recoveredBlock {ts us : List Token} {x y : Option Token} (tokens : Related R ts us)
    (terminator : Related R x y) : Related R (recoveredBlock ts x) (recoveredBlock us y) := by
  have first : Related R ts.head? us.head? := inferInstance
  have last : Related R ts.tail.getLast? us.tail.getLast? := inferInstance
  unfold recoveredBlock
  obtain ⟨left, right⟩ | ⟨_, _, left, right, _⟩ := first.option
  · rw [left, right]
    dsimp only
    infer_instance
  · obtain ⟨left', right'⟩ | ⟨_, _, left', right', _⟩ := last.option
    · rw [left, right, left', right']
      dsimp only
      infer_instance
    · rw [left, right, left', right']
      refine .cond inferInstance inferInstance ?_
      exact related_bind inferInstance fun _ _ _ => inferInstance

instance : Related R (blockRecovering statement) (blockRecovering statement') :=
  related_recovering inferInstance fun _ _ _ _ => related_recoveredBlock

instance : Related R atBlock atBlock :=
  related_bind inferInstance fun _ _ _ => related_bind inferInstance fun _ _ _ => inferInstance

theorem related_recoveredBody {ts us : List Token} {x y : Option Token} (tokens : Related R ts us)
    (terminator : Related R x y) : Related R (recoveredBody ts x) (recoveredBody us y) := by
  have begins : Related R (ts.head?.any (·.isKeyword .BEGIN)) (us.head?.any (·.isKeyword .BEGIN)) :=
    .any inferInstance fun _ _ _ => inferInstance
  have ends : Related R (ts.getLast?.any (·.isKeyword .END)) (us.getLast?.any (·.isKeyword .END)) :=
    .any inferInstance fun _ _ _ => inferInstance
  unfold recoveredBody
  refine .cond inferInstance ?_ (.cond inferInstance inferInstance ?_)
  · exact related_bind (related_recoveredBlock tokens terminator) fun _ _ _ => inferInstance
  · exact related_bind inferInstance fun _ _ _ => inferInstance

instance : Related R (procedureBody statement) (procedureBody statement') := by
  have recovered : Related R (recovering (statements statement) recoveredBody)
      (recovering (statements statement') recoveredBody) :=
    related_recovering inferInstance fun _ _ _ _ => related_recoveredBody
  unfold procedureBody
  infer_instance

/-! ### Declarations -/

instance (min : Precedence) : Related R (value expr min) (value expr' min) := by
  unfold value; infer_instance

instance : Related R (varDecl expr) (varDecl expr') := by
  unfold varDecl
  refine related_bind inferInstance fun name name' _ => ?_
  refine related_bind inferInstance fun asToken asToken' _ => ?_
  refine related_bind inferInstance fun type type' _ => ?_
  refine related_bind inferInstance fun eq eq' h => ?_
  obtain ⟨rfl, rfl⟩ | ⟨_, _, rfl, rfl, _⟩ := h.option
  · dsimp only
    infer_instance
  · refine .cond inferInstance inferInstance ?_
    exact related_bind inferInstance fun _ _ _ => inferInstance

instance : Related R updateClause updateClause := by
  unfold updateClause
  refine related_test inferInstance fun there => .cond inferInstance ?_ inferInstance
  refine related_bind inferInstance fun tokens tokens' _ => ?_
  exact related_bind inferInstance fun _ _ _ => inferInstance

instance (k : Keyword) :
    Related R (takeRun (rawExtent (·.isKeyword k))) (takeRun (rawExtent (·.isKeyword k))) :=
  related_takeRun fun _ _ h => rawExtent_of_related h fun _ _ _ => inferInstance

instance {t t' : Token} [Related R t t'] : Related R (declareCursor expr t) (declareCursor expr' t') := by
  unfold declareCursor
  refine related_bind inferInstance fun name name' _ => ?_
  refine related_bind inferInstance fun isoTokens isoTokens' _ => ?_
  refine related_bind inferInstance fun cursorToken cursorToken' _ => ?_
  refine related_bind inferInstance fun optionTokens optionTokens' _ => ?_
  refine related_bind inferInstance fun forToken forToken' _ => ?_
  refine related_bind inferInstance fun query query' _ => ?_
  refine .cond inferInstance inferInstance ?_
  refine related_bind inferInstance fun update update' _ => ?_
  refine related_bind inferInstance fun isoOptions isoOptions' _ => ?_
  refine related_bind inferInstance fun options options' _ => ?_
  exact related_bind inferInstance fun _ _ _ => inferInstance

instance : Related R (declare expr) (declare expr') := by
  unfold declare
  refine related_bind inferInstance fun declareToken declareToken' _ => ?_
  refine related_bind inferInstance fun t t' _ => .cond inferInstance inferInstance ?_
  refine related_bind inferInstance fun x y h => ?_
  obtain ⟨items, separators, items', separators', rfl, rfl, _, _⟩ := h.pair
  refine related_bind inferInstance fun declarations declarations' _ => ?_
  exact related_bind inferInstance fun _ _ _ => inferInstance

instance : Related R modifiers modifiers :=
  related_takeRun fun _ _ h => h.length_takeWhile fun _ _ _ => inferInstance

instance : Related R (paramDefault expr) (paramDefault expr') := by
  unfold paramDefault
  refine related_bind inferInstance fun eq eq' h => ?_
  obtain ⟨rfl, rfl⟩ | ⟨_, _, rfl, rfl, _⟩ := h.option
  · dsimp only
    infer_instance
  · exact related_bind inferInstance fun _ _ _ => inferInstance

instance : Related R (paramDecl expr) (paramDecl expr') := by
  unfold paramDecl
  refine related_bind inferInstance fun name name' _ => ?_
  refine related_bind inferInstance fun asToken asToken' _ => ?_
  refine related_bind inferInstance fun type type' _ => ?_
  refine related_bind inferInstance fun varying varying' _ => ?_
  refine related_bind inferInstance fun initial initial' _ => ?_
  exact related_bind inferInstance fun _ _ _ => inferInstance

instance : Related R (params expr) (params expr') := by
  unfold params
  refine related_bind inferInstance fun x y h => ?_
  obtain ⟨_, _, _, _, rfl, rfl, _, _⟩ := h.pair
  dsimp only
  infer_instance

instance : Related R (optionalParams expr) (optionalParams expr') := by
  unfold optionalParams
  refine related_test inferInstance fun closed => .cond inferInstance inferInstance ?_
  exact related_bind inferInstance fun _ _ _ => inferInstance

/-! ### Routines -/

instance : Related R rejectExternal rejectExternal := by unfold rejectExternal; infer_instance

theorem optionsExtent_of_related {ts us : List Token} (h : Related R ts us) (afterExecute : Bool) :
    optionsExtent afterExecute ts = optionsExtent afterExecute us := by
  have tokens : List.Forall₂ R.tokens ts us := h.rel
  clear h
  induction tokens generalizing afterExecute with
  | nil => rfl
  | @cons t u ts us first _ rest =>
    have token : Related R t u := ⟨first⟩
    have stops : (t.isError || t.kind == .semicolon || (t.isKeyword .AS && !afterExecute)
        || t.isAnyKeyword [.FOR, .BEGIN, .RETURN]) =
        (u.isError || u.kind == .semicolon || (u.isKeyword .AS && !afterExecute)
        || u.isAnyKeyword [.FOR, .BEGIN, .RETURN]) := Bool.eq_of_related (R := R) inferInstance
    have executes : t.isAnyKeyword [.EXEC, .EXECUTE] = u.isAnyKeyword [.EXEC, .EXECUTE] :=
      Bool.eq_of_related (R := R) inferInstance
    unfold optionsExtent
    rw [stops, executes, rest]

instance : Related R routineOptions routineOptions := by
  have options : Related R (takeRun (optionsExtent false)) (takeRun (optionsExtent false)) :=
    related_takeRun fun _ _ h => optionsExtent_of_related h false
  unfold routineOptions
  refine related_bind inferInstance fun withToken withToken' h => ?_
  obtain ⟨rfl, rfl⟩ | ⟨_, _, rfl, rfl, _⟩ := h.option
  · dsimp only
    infer_instance
  · refine related_bind inferInstance fun tokens tokens' _ => .cond inferInstance inferInstance ?_
    refine related_bind inferInstance fun options options' _ => ?_
    exact related_bind inferInstance fun _ _ _ => inferInstance

instance (what : String) : Related R (queryBody expr what) (queryBody expr' what) := by
  unfold queryBody
  refine related_bind inferInstance fun query query' _ => ?_
  exact .cond inferInstance inferInstance inferInstance

instance : Related R (procedureParams expr) (procedureParams expr') := by
  unfold procedureParams
  refine related_bind inferInstance fun lparen lparen' h => ?_
  obtain ⟨rfl, rfl⟩ | ⟨_, _, rfl, rfl, _⟩ := h.option
  · refine related_bind inferInstance fun t t' _ => .cond inferInstance ?_ inferInstance
    exact related_bind inferInstance fun _ _ _ => inferInstance
  · refine related_bind inferInstance fun params params' _ => ?_
    exact related_bind inferInstance fun _ _ _ => inferInstance

section Routines

variable {ts ts' : List Token} [Related R ts ts'] {f f' : FunctionSignature} [Related R f f']

instance : Related R (procedure expr statement ts) (procedure expr' statement' ts') := by
  unfold procedure
  refine related_bind inferInstance fun procedureToken procedureToken' _ => ?_
  refine related_bind inferInstance fun name name' _ => ?_
  refine related_bind inferInstance fun x y h => ?_
  obtain ⟨lparen, x, lparen', y, rfl, rfl, _, h⟩ := h.pair
  obtain ⟨params, rparen, params', rparen', rfl, rfl, _, _⟩ := h.pair
  refine related_bind inferInstance fun options options' _ => ?_
  refine related_bind inferInstance fun replication replication' _ => ?_
  refine related_bind inferInstance fun asToken asToken' _ => ?_
  refine related_bind inferInstance fun _ _ _ => ?_
  exact related_bind inferInstance fun _ _ _ => inferInstance

instance : Related R columnNames columnNames := by
  unfold columnNames
  refine related_bind inferInstance fun x y h => ?_
  obtain ⟨_, _, _, _, rfl, rfl, _, _⟩ := h.pair
  dsimp only
  infer_instance

instance : Related R viewColumns viewColumns := by
  unfold viewColumns
  refine related_bind inferInstance fun lparen lparen' h => ?_
  obtain ⟨rfl, rfl⟩ | ⟨_, _, rfl, rfl, _⟩ := h.option
  · dsimp only
    infer_instance
  · refine related_bind inferInstance fun columns columns' _ => ?_
    exact related_bind inferInstance fun _ _ _ => inferInstance

instance : Related R checkOption checkOption := by
  unfold checkOption
  refine related_test inferInstance fun there => .cond inferInstance ?_ inferInstance
  refine related_bind inferInstance fun withToken withToken' _ => ?_
  refine related_bind inferInstance fun check check' _ => ?_
  exact related_bind inferInstance fun _ _ _ => inferInstance

instance : Related R (view expr ts) (view expr' ts') := by
  unfold view
  refine related_bind inferInstance fun viewToken viewToken' _ => ?_
  refine related_bind inferInstance fun name name' _ => ?_
  refine related_bind inferInstance fun x y h => ?_
  obtain ⟨lparen, x, lparen', y, rfl, rfl, _, h⟩ := h.pair
  obtain ⟨columns, rparen, columns', rparen', rfl, rfl, _, _⟩ := h.pair
  refine related_bind inferInstance fun options options' _ => ?_
  refine related_bind inferInstance fun asToken asToken' _ => ?_
  refine related_bind inferInstance fun query query' _ => ?_
  refine related_bind inferInstance fun checkOption checkOption' _ => ?_
  exact related_bind inferInstance fun _ _ _ => inferInstance

instance : Related R (functionBody statement) (functionBody statement') := by
  unfold functionBody; infer_instance

instance : Related R (functionSignature expr ts) (functionSignature expr' ts') := by
  unfold functionSignature
  refine related_bind inferInstance fun functionToken functionToken' _ => ?_
  refine related_bind inferInstance fun name name' _ => ?_
  refine related_bind inferInstance fun lparen lparen' _ => ?_
  refine related_bind inferInstance fun params params' _ => ?_
  refine related_bind inferInstance fun rparen rparen' _ => ?_
  exact related_bind inferInstance fun _ _ _ => inferInstance

instance : Related R (inlineFunction expr f) (inlineFunction expr' f') := by
  unfold inlineFunction
  refine related_bind inferInstance fun tableToken tableToken' _ => ?_
  refine related_bind inferInstance fun options options' _ => ?_
  refine related_bind inferInstance fun asToken asToken' _ => ?_
  refine related_bind inferInstance fun returnToken returnToken' _ => ?_
  refine related_bind inferInstance fun query query' _ => ?_
  exact related_bind inferInstance fun _ _ _ => inferInstance

instance : Related R (tableFunction statement f) (tableFunction statement' f') := by
  unfold tableFunction
  refine related_bind inferInstance fun result result' _ => ?_
  refine related_bind inferInstance fun tableType tableType' _ => ?_
  refine related_bind inferInstance fun options options' _ => ?_
  refine related_bind inferInstance fun asToken asToken' _ => ?_
  refine related_bind inferInstance fun _ _ _ => ?_
  exact related_bind inferInstance fun _ _ _ => inferInstance

instance : Related R (scalarFunction expr statement f) (scalarFunction expr' statement' f') := by
  unfold scalarFunction
  refine related_bind inferInstance fun returnType returnType' _ => ?_
  refine related_bind inferInstance fun options options' _ => ?_
  refine related_bind inferInstance fun asToken asToken' _ => ?_
  refine related_bind inferInstance fun _ _ _ => ?_
  exact related_bind inferInstance fun _ _ _ => inferInstance

instance : Related R (function expr statement ts) (function expr' statement' ts') := by
  unfold function
  refine related_bind inferInstance fun signature signature' _ => ?_
  refine related_test inferInstance fun table => .cond inferInstance inferInstance ?_
  exact related_bind inferInstance fun _ _ _ => inferInstance

instance {t t' : Token} [Related R t t'] : Related R (orAlter t) (orAlter t') := by
  unfold orAlter
  refine related_test inferInstance fun there => .cond inferInstance ?_ inferInstance
  refine related_bind inferInstance fun or or' _ => ?_
  exact related_bind inferInstance fun _ _ _ => inferInstance

instance : Related R (unmodeledFrom ts) (unmodeledFrom ts') := by
  unfold unmodeledFrom
  refine related_bind inferInstance fun tail tail' _ => ?_
  exact related_bind inferInstance fun _ _ _ => inferInstance

end Routines

instance : Related R (create expr statement) (create expr' statement') := by
  unfold create
  refine related_bind inferInstance fun first first' _ => ?_
  refine related_bind inferInstance fun more more' _ => ?_
  refine related_bind inferInstance fun t u token => ?_
  rw [Token.keyword?_of_related token]
  generalize u.keyword? = k
  split <;> infer_instance

/-! ### Statements -/

instance : Related R (expressionStatement expr) (expressionStatement expr') := by
  unfold expressionStatement
  refine related_bind inferInstance fun e e' _ => ?_
  exact related_bind inferInstance fun _ _ _ => inferInstance

instance : Related R unmodeled unmodeled :=
  related_bind inferInstance fun _ _ _ => inferInstance

instance : Related R beginTransaction beginTransaction := by
  have names : Related R (eat fun t => t.isWord && !t.isReserved)
      (eat fun t => t.isWord && !t.isReserved) := related_eat fun _ _ _ => inferInstance
  unfold beginTransaction
  refine related_bind inferInstance fun beginToken beginToken' _ => ?_
  refine related_bind inferInstance fun transaction transaction' _ => ?_
  refine related_bind inferInstance fun name name' _ => ?_
  exact related_bind inferInstance fun _ _ _ => inferInstance

instance (first second : Keyword) :
    Related R (keywordPair first second) (keywordPair first second) := by
  unfold keywordPair
  refine related_bind inferInstance fun t t' _ => ?_
  exact related_bind inferInstance fun _ _ _ => inferInstance

instance : Related R (tryCatch statement) (tryCatch statement') := by
  unfold tryCatch
  refine related_bind inferInstance fun beginToken beginToken' _ => ?_
  refine related_bind inferInstance fun tryToken tryToken' _ => ?_
  refine related_bind inferInstance fun tryBody tryBody' _ => ?_
  refine related_bind inferInstance fun endTry endTry' _ => ?_
  refine related_bind inferInstance fun beginCatch beginCatch' _ => ?_
  refine related_bind inferInstance fun catchBody catchBody' _ => ?_
  refine related_bind inferInstance fun endCatch endCatch' _ => ?_
  exact related_bind inferInstance fun _ _ _ => inferInstance

instance : Related R (beginStatement statement) (beginStatement statement') := by
  have blocks : Related R (do return Statement.block (← block statement))
      (do return Statement.block (← block statement')) :=
    related_bind inferInstance fun _ _ _ => inferInstance
  unfold beginStatement
  refine related_bind inferInstance fun t u token => ?_
  rw [Token.keyword?_of_related token]
  generalize u.keyword? = k
  split <;> infer_instance

instance : Related R (elseBranch statement) (elseBranch statement') := by
  unfold elseBranch
  refine related_bind inferInstance fun keyword keyword' h => ?_
  obtain ⟨rfl, rfl⟩ | ⟨_, _, rfl, rfl, _⟩ := h.option
  · dsimp only
    infer_instance
  · exact related_bind inferInstance fun _ _ _ => inferInstance

instance : Related R (ifElse expr statement) (ifElse expr' statement') := by
  unfold ifElse
  refine related_bind inferInstance fun ifToken ifToken' _ => ?_
  refine related_bind inferInstance fun condition condition' _ => ?_
  refine related_bind inferInstance fun thenBranch thenBranch' _ => ?_
  exact related_bind inferInstance fun _ _ _ => inferInstance

instance : Related R (whileLoop expr statement) (whileLoop expr' statement') := by
  unfold whileLoop
  refine related_bind inferInstance fun whileToken whileToken' _ => ?_
  refine related_bind inferInstance fun condition condition' _ => ?_
  exact related_bind inferInstance fun _ _ _ => inferInstance

instance : Related R loopControl loopControl := by
  unfold loopControl
  refine related_bind inferInstance fun keyword keyword' _ => ?_
  exact related_bind inferInstance fun _ _ _ => inferInstance

instance : Related R (optionalValue expr) (optionalValue expr') := by
  unfold optionalValue
  refine related_bind inferInstance fun t t' _ => .cond inferInstance ?_ inferInstance
  exact related_bind inferInstance fun _ _ _ => inferInstance

instance : Related R (returnValue expr) (returnValue expr') := by
  unfold returnValue
  refine related_bind inferInstance fun returnToken returnToken' _ => ?_
  refine related_bind inferInstance fun value value' _ => ?_
  exact related_bind inferInstance fun _ _ _ => inferInstance

instance : Related R goto goto := by
  unfold goto
  refine related_bind inferInstance fun gotoToken gotoToken' _ => ?_
  refine related_bind inferInstance fun label label' _ => ?_
  exact related_bind inferInstance fun _ _ _ => inferInstance

instance : Related R label label := by
  unfold label
  refine related_bind inferInstance fun label label' _ => ?_
  exact related_bind inferInstance fun _ _ _ => inferInstance

section Set

variable {t t' : Token} [Related R t t']

instance : Related R (setVariable expr t) (setVariable expr' t') := by
  unfold setVariable
  refine related_bind inferInstance fun next next' _ => .cond inferInstance inferInstance ?_
  refine related_bind inferInstance fun variableName variableName' _ => ?_
  have assigned : Related R
      (withAssignment true do
        let operator ← take
        pure (operator, ← expr .assignment))
      (withAssignment true do
        let operator ← take
        pure (operator, ← expr' .assignment)) := by
    refine related_withAssignment true (related_bind inferInstance fun operator operator' _ => ?_)
    exact related_bind inferInstance fun _ _ _ => inferInstance
  refine related_bind assigned fun x y h => ?_
  obtain ⟨operator, value, operator', value', rfl, rfl, _, _⟩ := h.pair
  exact related_bind inferInstance fun _ _ _ => inferInstance

instance : Related R (setOption t) (setOption t') := by
  unfold setOption
  refine related_bind inferInstance fun x y h => ?_
  obtain ⟨items, separators, items', separators', rfl, rfl, _, _⟩ := h.pair
  refine related_bind inferInstance fun options options' _ => ?_
  refine related_bind inferInstance fun tokens tokens' _ => ?_
  refine related_bind inferInstance fun value value' _ => ?_
  exact related_bind inferInstance fun _ _ _ => inferInstance

end Set

instance : Related R (set expr) (set expr') := by
  unfold set
  refine related_bind inferInstance fun setToken setToken' _ => ?_
  exact related_bind inferInstance fun _ _ _ => inferInstance

instance {t t' : Token} [h : Related R t t'] :
    Related R (wordStatement expr statement t) (wordStatement expr' statement' t') := by
  unfold wordStatement
  refine related_bind inferInstance fun next next' _ => ?_
  rw [Token.keyword?_of_related h]
  generalize t'.keyword? = k
  split <;> infer_instance

instance : Related R (anyStatement expr statement) (anyStatement expr' statement') := by
  unfold anyStatement
  refine related_bind inferInstance fun t u token => ?_
  obtain same | ⟨_, _, left, right⟩ := Token.kind_of_related token
  · rw [same]
    generalize u.kind = k
    split
    case h_1 => exact related_bind inferInstance fun _ _ _ => inferInstance
    all_goals infer_instance
  · rw [left, right]
    dsimp only
    infer_instance

end TransactSql.Grammar

namespace TransactSql.Parser

variable {R : Correspondence}

instance related_statement (depth : Nat) : Related R (statement depth) (statement depth) := by
  induction depth with
  | zero =>
    unfold statement
    infer_instance
  | succ depth ih =>
    unfold statement
    infer_instance

instance (depth : Nat) : Related R (statements depth) (statements depth) := by
  unfold statements; infer_instance

instance (depth : Nat) : Related R (topStatement depth) (topStatement depth) := by
  unfold topStatement
  refine related_test inferInstance fun there => .cond inferInstance ?_ inferInstance
  exact related_bind inferInstance fun _ _ _ => inferInstance

end TransactSql.Parser
