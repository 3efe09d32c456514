import TransactSql.Parse
import TransactSql.Proofs.Parser.Frame

/-!
# Every grammar rule is framed

A rule reads tokens through the parsers of `TransactSql.Parser` only, so it is framed as they are.
-/

namespace TransactSql.Grammar

open TransactSql.Parser

/-! ### Names, parentheses and data types -/

instance (parts : List Token) : Framed (namePart parts) := by unfold namePart; infer_instance

instance : Framed name := by unfold name; infer_instance

instance : Framed rawParenBody := by unfold rawParenBody; infer_instance

instance : Framed tableType := by unfold tableType; infer_instance

instance (before : List Token) : Framed (statementTail before) := by
  unfold statementTail; infer_instance

section Expressions

variable (sub : Precedence → Parser Expr) [∀ min, Framed (sub min)]

instance : Framed (parenBody sub) := by
  unfold parenBody
  refine .bind inferInstance fun rparen => ?_
  split
  · infer_instance
  · refine .withAssignment _ (.recording (.bind inferInstance fun inner => ?_))
    split <;> infer_instance

instance : Framed (dataType sub) := by
  unfold dataType
  refine .bind inferInstance fun table => ?_
  split
  · infer_instance
  · refine .bind inferInstance fun name => .bind inferInstance fun lparen => ?_
    split <;> infer_instance

instance : Framed assignSign := by unfold assignSign; infer_instance

/-! ### Queries -/

instance (k : Keyword) (body : Parser Expr) [Framed body] : Framed (optionalClause k body) := by
  unfold optionalClause
  refine .bind inferInstance fun t => ?_
  split <;> infer_instance

instance (k : Keyword) (body : Parser Expr) [Framed body] : Framed (optionalByClause k body) := by
  unfold optionalByClause; infer_instance

instance : Framed (sortItem sub) := by
  unfold sortItem
  refine .bind inferInstance fun e => .bind inferInstance fun direction => ?_
  split <;> infer_instance

instance : Framed (sortItems sub) := by unfold sortItems; infer_instance

instance : Framed (topCount sub) := by
  unfold topCount
  refine .bind inferInstance fun lparen => ?_
  split <;> infer_instance

instance (first second : Keyword) : Framed (optionalPair first second) := by
  unfold optionalPair; infer_instance

instance : Framed (topClause sub) := by unfold topClause; infer_instance

instance : Framed (optionalTop sub) := by unfold optionalTop; infer_instance

instance (e : Expr) (accepts : Token → Bool) : Framed (aliased e accepts) := by
  unfold aliased
  refine .bind inferInstance fun asToken => ?_
  split <;> infer_instance

instance : Framed (selectItem sub) := by unfold selectItem; infer_instance

instance : Framed (selectColumns sub) := by unfold selectColumns; infer_instance

instance : Framed joinOperator := by
  unfold joinOperator
  refine .bind inferInstance fun token => ?_
  split
  case h_6 =>
    refine .bind inferInstance fun cross => .bind inferInstance fun apply => ?_
    split <;> infer_instance
  all_goals infer_instance

instance (operator : List Token) : Framed (joinCondition sub operator) := by
  unfold joinCondition; infer_instance

instance (source : Parser Expr) [Framed source] (left : Expr) : Framed (joinStep sub source left) := by
  unfold joinStep
  refine .bind inferInstance fun operator => ?_
  split <;> infer_instance

instance (source : Parser Expr) [Framed source] : Framed (joinChain sub source) := by
  unfold joinChain; infer_instance

instance (sources : Parser Expr) [Framed sources] : Framed (tableOrJoin sub sources) := by
  unfold tableOrJoin; infer_instance

instance (table : Expr) : Framed (hinted sub table) := by
  unfold hinted
  refine .bind inferInstance fun keyword => .bind inferInstance fun next => ?_
  split
  · infer_instance
  · refine .bind inferInstance fun _ => .bind inferInstance fun _ => .bind inferInstance fun body => ?_
    split <;> infer_instance

instance (sources : Parser Expr) [Framed sources] : Framed (tableSource sub sources) := by
  unfold tableSource; infer_instance

instance (limit : Nat) : Framed (tableSources sub limit) := by
  induction limit with
  | zero => unfold tableSources; infer_instance
  | succ limit ih => unfold tableSources; infer_instance

instance : Framed (fromSources sub) := by unfold fromSources; infer_instance

instance : Framed (selectClauses sub) := by unfold selectClauses; infer_instance

instance : Framed (select sub) := by unfold select; infer_instance

instance (operator : Token) : Framed (optionalAll operator) := by unfold optionalAll; infer_instance

instance (left : Expr) : Framed (setOperation sub left) := by unfold setOperation; infer_instance

instance : Framed rowsKeyword := by
  unfold rowsKeyword
  refine .bind inferInstance fun t => ?_
  split <;> infer_instance

instance : Framed (fetchClause sub) := by
  unfold fetchClause
  refine .bind inferInstance fun t => ?_
  split <;> infer_instance

instance : Framed (offsetFetch sub) := by unfold offsetFetch; infer_instance

instance : Framed (optionalOffset sub) := by unfold optionalOffset; infer_instance

instance (query : Expr) : Framed (orderBy sub query) := by unfold orderBy; infer_instance

instance (query : Expr) : Framed (forOption query) := by unfold forOption; infer_instance

instance (query : Expr) : Framed (hintOption query) := by unfold hintOption; infer_instance

/-! ### Operands and operators -/

instance : Framed (paren sub) := by
  unfold paren
  refine .bind inferInstance fun lparen => .bind inferInstance fun body => ?_
  split <;> infer_instance

instance : Framed (whenClause sub) := by unfold whenClause; infer_instance

instance (whens : List WhenClause) : Framed (moreWhens sub whens) := by unfold moreWhens; infer_instance

instance (k : Keyword) (value : Parser Expr) [Framed value] : Framed (optionalTail k value) := by
  unfold optionalTail
  refine .bind inferInstance fun t => ?_
  split <;> infer_instance

instance : Framed (caseOperand sub) := by unfold caseOperand; infer_instance

instance : Framed (caseExpr sub) := by unfold caseExpr; infer_instance

instance : Framed (operand sub) := by
  unfold operand
  refine .bind inferInstance fun token => ?_
  split <;> infer_instance

instance (left : Expr) : Framed (binary sub left) := by unfold binary; infer_instance

instance (target : Expr) : Framed (assignment sub target) := by unfold assignment; infer_instance

instance (first : Expr) : Framed (list sub first) := by unfold list; infer_instance

instance (e : Expr) : Framed (isNull e) := by unfold isNull; infer_instance

instance (e : Expr) (not : Option Token) : Framed (pattern sub e not) := by
  unfold pattern
  refine .bind inferInstance fun token => ?_
  split
  · infer_instance
  · infer_instance
  · refine .bind inferInstance fun _ => .bind inferInstance fun _ => .bind inferInstance fun body => ?_
    split <;> infer_instance

instance (e : Expr) : Framed (collate e) := by unfold collate; infer_instance

instance (keyword : Token) : Framed (cast sub keyword) := by unfold cast; infer_instance

instance (callee : Expr) : Framed (call sub callee) := by
  unfold call
  split <;> infer_instance

instance : Framed windowFrame := by
  unfold windowFrame
  refine .bind inferInstance fun rparen => ?_
  split <;> infer_instance

instance : Framed (overClause sub) := by unfold overClause; infer_instance

theorem keywordOperator_framed {left : Expr} {k : Keyword} {next : Token} {p : Parser Expr}
    (h : keywordOperator sub left k next = some p) : Framed p := by
  unfold keywordOperator at h
  repeat' split at h
  all_goals cases h
  all_goals infer_instance

theorem operator?_framed {left : Expr} {token next : Token} {p : Parser Expr}
    (h : operator? sub left token next = some p) : Framed p := by
  unfold operator? at h
  split at h
  case h_6 => exact keywordOperator_framed sub h
  all_goals repeat' split at h
  all_goals cases h
  all_goals infer_instance

instance (min : Precedence) (left : Expr) : Framed (applyOperator sub min left) := by
  unfold applyOperator
  refine .bind inferInstance fun token => ?_
  split
  · refine .bind inferInstance fun next => ?_
    split
    · next operator found =>
      have framed := operator?_framed sub found
      infer_instance
    · infer_instance
  · infer_instance

instance (min : Precedence) : Framed (expression sub min) := by unfold expression; infer_instance

end Expressions

end TransactSql.Grammar

namespace TransactSql.Parser

instance (depth : Nat) (min : Precedence) : Framed (expr depth min) := by
  induction depth generalizing min with
  | zero => unfold expr; infer_instance
  | succ depth ih => unfold expr; infer_instance

end TransactSql.Parser

namespace TransactSql.Grammar

open TransactSql.Parser

section Statements

variable (expr : Precedence → Parser Expr) [∀ min, Framed (expr min)]
variable (statement : Parser Statement) [Framed statement]

/-! ### Declarations -/

instance (min : Precedence) : Framed (value expr min) := by unfold value; infer_instance

instance : Framed (varDecl expr) := by
  unfold varDecl
  refine .bind inferInstance fun name => .bind inferInstance fun asToken => ?_
  refine .bind inferInstance fun type => .bind inferInstance fun eq => ?_
  split <;> infer_instance

instance : Framed updateClause := by unfold updateClause; infer_instance

instance (declareToken : Token) : Framed (declareCursor expr declareToken) := by
  unfold declareCursor; infer_instance

instance : Framed (declare expr) := by unfold declare; infer_instance

instance : Framed modifiers := by unfold modifiers; infer_instance

instance : Framed (paramDefault expr) := by
  unfold paramDefault
  refine .bind inferInstance fun eq => ?_
  split <;> infer_instance

instance : Framed (paramDecl expr) := by unfold paramDecl; infer_instance

instance : Framed (params expr) := by unfold params; infer_instance

instance : Framed (optionalParams expr) := by unfold optionalParams; infer_instance

/-! ### Sequences of statements -/

instance (ss : List Statement) : Framed (moreStatements statement ss) := by
  unfold moreStatements; infer_instance

instance : Framed (statements statement) := by unfold statements; infer_instance

instance : Framed atBlockEnd := by unfold atBlockEnd; infer_instance

instance (ss : List Statement) : Framed (moreBlockStatements statement ss) := by
  unfold moreBlockStatements; infer_instance

instance : Framed (blockBody statement) := by unfold blockBody; infer_instance

instance : Framed (block statement) := by unfold block; infer_instance

instance (p : Parser α) [Framed p] (recover : List Token → Option Token → Parser α)
    [∀ ts t, Framed (recover ts t)] : Framed (recovering p recover) := by
  unfold recovering
  refine .recording (.bind inferInstance fun reply => ?_)
  split <;> infer_instance

instance (tokens : List Token) (terminator : Token) : Framed (rawStatement tokens terminator) := by
  unfold rawStatement; infer_instance

instance (tokens : List Token) : Framed (recoveredStatements tokens) := by
  unfold recoveredStatements; infer_instance

instance (tokens : List Token) (terminator : Option Token) :
    Framed (recoveredBlock tokens terminator) := by
  unfold recoveredBlock
  split <;> infer_instance

instance : Framed (blockRecovering statement) := by unfold blockRecovering; infer_instance

instance : Framed atBlock := by unfold atBlock; infer_instance

instance (tokens : List Token) (terminator : Option Token) :
    Framed (recoveredBody tokens terminator) := by
  unfold recoveredBody; infer_instance

instance : Framed (procedureBody statement) := by unfold procedureBody; infer_instance

/-! ### Routines -/

instance : Framed rejectExternal := by unfold rejectExternal; infer_instance

instance : Framed routineOptions := by
  unfold routineOptions
  refine .bind inferInstance fun withToken => ?_
  split <;> infer_instance

instance (what : String) : Framed (queryBody expr what) := by unfold queryBody; infer_instance

instance : Framed (procedureParams expr) := by
  unfold procedureParams
  refine .bind inferInstance fun lparen => ?_
  split <;> infer_instance

instance (create : List Token) : Framed (procedure expr statement create) := by
  unfold procedure; infer_instance

instance : Framed columnNames := by unfold columnNames; infer_instance

instance : Framed viewColumns := by
  unfold viewColumns
  refine .bind inferInstance fun lparen => ?_
  split <;> infer_instance

instance : Framed checkOption := by unfold checkOption; infer_instance

instance (create : List Token) : Framed (view expr create) := by unfold view; infer_instance

instance : Framed (functionBody statement) := by unfold functionBody; infer_instance

instance (create : List Token) : Framed (functionSignature expr create) := by
  unfold functionSignature; infer_instance

instance (signature : FunctionSignature) : Framed (inlineFunction expr signature) := by
  unfold inlineFunction; infer_instance

instance (signature : FunctionSignature) : Framed (tableFunction statement signature) := by
  unfold tableFunction; infer_instance

instance (signature : FunctionSignature) : Framed (scalarFunction expr statement signature) := by
  unfold scalarFunction; infer_instance

instance (create : List Token) : Framed (function expr statement create) := by
  unfold function; infer_instance

instance (first : Token) : Framed (orAlter first) := by unfold orAlter; infer_instance

instance (before : List Token) : Framed (unmodeledFrom before) := by
  unfold unmodeledFrom; infer_instance

instance : Framed (create expr statement) := by
  unfold create
  refine .bind inferInstance fun first => .bind inferInstance fun tokens => ?_
  refine .bind inferInstance fun token => ?_
  split <;> infer_instance

/-! ### Statements -/

instance : Framed (expressionStatement expr) := by unfold expressionStatement; infer_instance

instance : Framed unmodeled := by unfold unmodeled; infer_instance

instance : Framed beginTransaction := by unfold beginTransaction; infer_instance

instance (first second : Keyword) : Framed (keywordPair first second) := by
  unfold keywordPair; infer_instance

instance : Framed (tryCatch statement) := by unfold tryCatch; infer_instance

instance : Framed (beginStatement statement) := by
  unfold beginStatement
  refine .bind inferInstance fun next => ?_
  split <;> infer_instance

instance : Framed (elseBranch statement) := by
  unfold elseBranch
  refine .bind inferInstance fun keyword => ?_
  split <;> infer_instance

instance : Framed (ifElse expr statement) := by unfold ifElse; infer_instance

instance : Framed (whileLoop expr statement) := by unfold whileLoop; infer_instance

instance : Framed loopControl := by unfold loopControl; infer_instance

instance : Framed (optionalValue expr) := by unfold optionalValue; infer_instance

instance : Framed (returnValue expr) := by unfold returnValue; infer_instance

instance : Framed goto := by unfold goto; infer_instance

instance : Framed label := by unfold label; infer_instance

instance (setToken : Token) : Framed (setVariable expr setToken) := by
  unfold setVariable
  refine .bind inferInstance fun next => ?_
  dsimp only
  infer_instance

instance (setToken : Token) : Framed (setOption setToken) := by unfold setOption; infer_instance

instance : Framed (set expr) := by unfold set; infer_instance

instance (token : Token) : Framed (wordStatement expr statement token) := by
  unfold wordStatement
  refine .bind inferInstance fun next => ?_
  split <;> infer_instance

instance : Framed (anyStatement expr statement) := by
  unfold anyStatement
  refine .bind inferInstance fun token => ?_
  split <;> infer_instance

end Statements

end TransactSql.Grammar

namespace TransactSql.Parser

instance (depth : Nat) : Framed (statement depth) := by
  induction depth with
  | zero => unfold statement; infer_instance
  | succ depth ih => unfold statement; infer_instance

instance (depth : Nat) : Framed (statements depth) := by unfold statements; infer_instance

instance (depth : Nat) : Framed (topStatement depth) := by unfold topStatement; infer_instance

end TransactSql.Parser
