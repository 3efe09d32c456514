import TransactSql.Proofs.Depth.Expressions

/-!
# Statements and their depth

A statement reads its expressions one level deeper, the first one perhaps where it starts itself, but
it takes a token before it reads a statement inside it. So a depth above the number of tokens by two is
as good as any, and the failure that ends the nesting could be anything else.
-/

namespace TransactSql.Grammar

open TransactSql.Parser

variable {n : Nat} {expr expr' : Precedence → Parser Expr} [∀ min, Framed (expr min)]
  [∀ min, Agrees n (expr min) (expr' min)]
variable {statement statement' : Parser Statement} [Framed statement] [Agrees n statement statement']

/-! ### Declarations -/

instance (min : Precedence) : Agrees n (value expr min) (value expr' min) := by
  unfold value; infer_instance

instance : Agrees n (varDecl expr) (varDecl expr') := by
  unfold varDecl
  refine .bind inferInstance fun name => .bind inferInstance fun asToken => ?_
  refine .bind inferInstance fun type => .bind inferInstance fun eq => ?_
  cases eq <;> infer_instance

instance (declareToken : Token) :
    Agrees n (declareCursor expr declareToken) (declareCursor expr' declareToken) := by
  unfold declareCursor; infer_instance

instance : Agrees (n + 1) (declare expr) (declare expr') := by
  unfold declare
  exact .behind fun declareToken => inferInstance

instance : Agrees n (paramDefault expr) (paramDefault expr') := by
  unfold paramDefault
  refine .bind inferInstance fun eq => ?_
  cases eq <;> infer_instance

instance : Agrees n (paramDecl expr) (paramDecl expr') := by unfold paramDecl; infer_instance

instance : Agrees n (params expr) (params expr') := by unfold params; infer_instance

instance : Agrees n (optionalParams expr) (optionalParams expr') := by
  unfold optionalParams; infer_instance

/-! ### Sequences of statements -/

instance (ss : List Statement) :
    Agrees n (moreStatements statement ss) (moreStatements statement' ss) := by
  unfold moreStatements; infer_instance

instance : Agrees n (statements statement) (statements statement') := by
  unfold statements; infer_instance

instance (ss : List Statement) :
    Agrees n (moreBlockStatements statement ss) (moreBlockStatements statement' ss) := by
  unfold moreBlockStatements; infer_instance

instance : Agrees n (blockBody statement) (blockBody statement') := by
  unfold blockBody; infer_instance

instance : Agrees (n + 1) (block statement) (block statement') := by
  unfold block
  exact .behind fun beginToken => inferInstance

instance {p q : Parser α} [Framed p] [Agrees n p q] (recover : List Token → Option Token → Parser α) :
    Agrees n (recovering p recover) (recovering q recover) := by
  unfold recovering; infer_instance

instance : Agrees (n + 1) (blockRecovering statement) (blockRecovering statement') := by
  unfold blockRecovering; infer_instance

instance : Agrees n (procedureBody statement) (procedureBody statement') := by
  unfold procedureBody; infer_instance

/-! ### Routines -/

instance (what : String) : Agrees n (queryBody expr what) (queryBody expr' what) := by
  unfold queryBody; infer_instance

instance : Agrees n (procedureParams expr) (procedureParams expr') := by
  unfold procedureParams
  refine .bind inferInstance fun lparen => ?_
  cases lparen <;> infer_instance

instance (create : List Token) :
    Agrees n (procedure expr statement create) (procedure expr' statement' create) := by
  unfold procedure; infer_instance

instance (create : List Token) : Agrees n (view expr create) (view expr' create) := by
  unfold view; infer_instance

instance : Agrees n (functionBody statement) (functionBody statement') := by
  have body : Agrees (n + 1) (blockRecovering statement) (blockRecovering statement') := inferInstance
  have body := body.mono (Nat.le_succ n)
  unfold functionBody
  infer_instance

instance (create : List Token) :
    Agrees n (functionSignature expr create) (functionSignature expr' create) := by
  unfold functionSignature; infer_instance

instance (signature : FunctionSignature) :
    Agrees n (inlineFunction expr signature) (inlineFunction expr' signature) := by
  unfold inlineFunction; infer_instance

instance (signature : FunctionSignature) :
    Agrees n (tableFunction statement signature) (tableFunction statement' signature) := by
  unfold tableFunction; infer_instance

instance (signature : FunctionSignature) : Agrees n (scalarFunction expr statement signature)
    (scalarFunction expr' statement' signature) := by
  unfold scalarFunction; infer_instance

instance (create : List Token) :
    Agrees n (function expr statement create) (function expr' statement' create) := by
  unfold function; infer_instance

instance : AgreesAtToken (n + 1) (create expr statement) (create expr' statement') := by
  unfold create
  refine .take fun first => .bind inferInstance fun tokens => .bind inferInstance fun token => ?_
  split <;> infer_instance

/-! ### Statements -/

instance : Agrees n (expressionStatement expr) (expressionStatement expr') := by
  unfold expressionStatement; infer_instance

instance : AgreesAtToken (n + 1) (tryCatch statement) (tryCatch statement') := by
  unfold tryCatch; infer_instance

instance : AgreesAtToken (n + 1) (beginStatement statement) (beginStatement statement') := by
  unfold beginStatement
  refine .lookahead fun next => ?_
  split <;> infer_instance

instance : Agrees n (elseBranch statement) (elseBranch statement') := by
  unfold elseBranch
  refine .bind inferInstance fun keyword => ?_
  cases keyword <;> infer_instance

instance : AgreesAtToken (n + 1) (ifElse expr statement) (ifElse expr' statement') := by
  unfold ifElse; infer_instance

instance : AgreesAtToken (n + 1) (whileLoop expr statement) (whileLoop expr' statement') := by
  unfold whileLoop; infer_instance

instance : Agrees n (optionalValue expr) (optionalValue expr') := by
  unfold optionalValue; infer_instance

instance : AgreesAtToken (n + 1) (returnValue expr) (returnValue expr') := by
  unfold returnValue; infer_instance

instance (setToken : Token) : Agrees n (setVariable expr setToken) (setVariable expr' setToken) := by
  unfold setVariable
  refine .bind inferInstance fun next => ?_
  dsimp only
  infer_instance

instance : AgreesAtToken (n + 1) (set expr) (set expr') := by unfold set; infer_instance

/-- A statement that is an expression starts where the expression starts. -/
theorem agreesAtToken_wordStatement (shallow : ∀ min, Agrees (n + 1) (expr min) (expr' min))
    (token : Token) : AgreesAtToken (n + 1) (wordStatement expr statement token)
      (wordStatement expr' statement' token) := by
  unfold wordStatement
  refine .lookahead fun next => ?_
  split <;> infer_instance

theorem agrees_anyStatement (shallow : ∀ min, Agrees (n + 1) (expr min) (expr' min)) :
    Agrees (n + 1) (anyStatement expr statement) (anyStatement expr' statement') := by
  refine ⟨fun c eof few => ?_⟩
  unfold anyStatement
  simp only [current_bind]
  generalize here : c.current.kind = k
  split
  case h_2 => exact Agrees.below c eof few
  case h_3 =>
    have source := Token.isSource_of_kind_eq rfl here
    exact (agreesAtToken_wordStatement shallow c.current).below c eof source few
  all_goals rfl

end TransactSql.Grammar

namespace TransactSql.Parser

/-- Statements where `limit` and `exprLimit` stand in the place of the failure that ends the nesting. -/
def statementWithin (limit : Parser Statement) (exprLimit : Precedence → Parser Expr) :
    (depth : Nat) → Parser Statement
  | 0 => limit
  | depth + 1 =>
    Grammar.anyStatement (exprWithin exprLimit depth) (statementWithin limit exprLimit depth)

theorem statementWithin_fail (depth : Nat) :
    statementWithin (fail .nestingTooDeep) (fun _ => fail .nestingTooDeep) depth = statement depth := by
  induction depth with
  | zero => rfl
  | succ depth ih => rw [statementWithin, statement, ih, funext (exprWithin_fail depth)]

/-- An expression takes a level more than the statement that starts with it. -/
theorem agrees_statement (limit : Parser Statement) (exprLimit : Precedence → Parser Expr)
    {n depth depth' : Nat} (enough : n < depth) (enough' : n < depth') :
    Agrees n (statement depth) (statementWithin limit exprLimit depth') := by
  induction n generalizing depth depth' with
  | zero => exact agrees_zero _ _
  | succ n ih =>
    obtain ⟨depth, rfl⟩ := Nat.exists_eq_add_one_of_ne_zero (Nat.ne_zero_of_lt enough)
    obtain ⟨depth', rfl⟩ := Nat.exists_eq_add_one_of_ne_zero (Nat.ne_zero_of_lt enough')
    have room : n < depth ∧ n < depth' := ⟨by omega, by omega⟩
    have inner := ih room.1 room.2
    have shallow := agrees_expr exprLimit (Nat.succ_le_of_lt room.1) (Nat.succ_le_of_lt room.2)
    have deeper := fun min => (shallow min).mono (Nat.le_succ n)
    unfold statement statementWithin
    exact Grammar.agrees_anyStatement shallow

/-- At the cursor the parsers of depth `d` do what those of depth `d'` do with other parsers at the
limit. -/
structure SameWithin (limit : Parser Statement) (exprLimit : Precedence → Parser Expr) (d d' : Nat)
    (c : Cursor) : Prop where
  expr : ∀ min, Parser.expr d min c = exprWithin exprLimit d' min c
  statement : Parser.statement d c = statementWithin limit exprLimit d' c
  statements : Parser.statements d c = Grammar.statements (statementWithin limit exprLimit d') c

/-- At the cursor the depth `d` is as good as `d'`, and nothing is nested so deep that it is met. -/
structure DepthIrrelevant (d d' : Nat) (c : Cursor) : Prop where
  expr : ∀ min, Parser.expr d min c = Parser.expr d' min c
  statement : Parser.statement d c = Parser.statement d' c
  statements : Parser.statements d c = Parser.statements d' c
  /-- What ends the nesting is not run, so any parsers may stand in its place. -/
  unmet : ∀ limit exprLimit, SameWithin limit exprLimit d d c

section

variable {c : Cursor} {d d' : Nat} (eof : c.eof.isEof = true) (enough : c.ahead.length + 1 < d)
  (enough' : c.ahead.length + 1 < d')

include eof enough enough'

/-- A depth above the number of tokens by two is enough. -/
theorem sameWithin_of_lt (limit : Parser Statement) (exprLimit : Precedence → Parser Expr) :
    SameWithin limit exprLimit d d' c := by
  have few : c.ahead.length < c.ahead.length + 1 := Nat.lt_succ_self _
  have statements := agrees_statement limit exprLimit enough enough'
  constructor
  · exact fun min =>
      (agrees_expr exprLimit (Nat.le_of_lt enough) (Nat.le_of_lt enough') min).below c eof few
  · exact statements.below c eof few
  · unfold Parser.statements
    exact Agrees.below c eof few

theorem depthIrrelevant_of_lt : DepthIrrelevant d d' c := by
  have same := sameWithin_of_lt eof enough enough' (fail .nestingTooDeep) fun _ => fail .nestingTooDeep
  constructor
  · intro min
    rw [same.expr, exprWithin_fail]
  · rw [same.statement, statementWithin_fail]
  · rw [same.statements, statementWithin_fail]
    rfl
  · exact sameWithin_of_lt eof enough enough

end

end TransactSql.Parser

namespace TransactSql

/-- With two levels for each token and two more, the depth makes no difference to what a token list is
read as, or why it is refused: the failure that ends the nesting does not occur. -/
theorem parsers_depth_irrelevant (ts : List Token) (assignment : Bool) {d d' : Nat}
    (enough : 2 * ts.countP (!·.isEof) + 2 ≤ d) (enough' : 2 * ts.countP (!·.isEof) + 2 ≤ d') :
    Parser.DepthIrrelevant d d' ((Cursor.ofTokens ts).setAssignment assignment) := by
  have tokens : (Cursor.ofTokens ts).ahead.length ≤ ts.countP (!·.isEof) := by
    have all : (ts.takeWhile (!·.isEof)).countP (!·.isEof) = (ts.takeWhile (!·.isEof)).length :=
      List.countP_eq_length.mpr fun t inside => List.mem_takeWhile_imp (p := (!Token.isEof ·)) inside
    rw [Cursor.ofTokens, ← all]
    exact (List.takeWhile_sublist _).countP_le
  have eof : ((Cursor.ofTokens ts).setAssignment assignment).eof.isEof = true :=
    Cursor.isEof_ofTokens ts
  have ahead : ((Cursor.ofTokens ts).setAssignment assignment).ahead.length =
      (Cursor.ofTokens ts).ahead.length := rfl
  exact Parser.depthIrrelevant_of_lt eof (by omega) (by omega)

/-- A statement in a statement, with an operand in parentheses. -/
theorem parsers_depth_irrelevant_nested :
    2 * (lex "IF ((1)) = 2 BREAK").countP (!·.isEof) + 2 ≤ 20 ∧
    Parser.DepthIrrelevant 20 defaultDepth
      ((Cursor.ofTokens (lex "IF ((1)) = 2 BREAK")).setAssignment false) := by
  have enough : 2 * (lex "IF ((1)) = 2 BREAK").countP (!·.isEof) + 2 ≤ 20 := by decide +kernel
  exact ⟨enough, parsers_depth_irrelevant _ false enough (Nat.le_trans enough (by decide))⟩

/-- A limit that is met need not show as a failure: what is nested too deep may be kept raw. -/
example : (Parser.expr 1 .none (.ofText "(1)") matches .ok (.paren _ (.raw _) _) _) = true ∧
    (Parser.expr 2 .none (.ofText "(1)") matches .ok (.paren _ (.literal _) _) _) = true := by
  decide +kernel

end TransactSql
