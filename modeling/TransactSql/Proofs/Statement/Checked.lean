import TransactSql.Proofs.Expr.Checked
import TransactSql.Statement.Checked

/-!
# What checked construction of statements gives
-/

namespace TransactSql.Checked

open TransactSql.Shaped

variable (s t u v w : Token) (e : Expr)

instance (items separators : List Token) : Makes (names items separators) ⟨items, separators⟩ := by
  unfold names; infer_instance

instance (items : List α) (separators : List Token) :
    Makes (declarations items separators) ⟨items, separators⟩ := by
  unfold declarations; infer_instance

instance : Makes (empty t) (.empty t) := by unfold empty; infer_instance

instance : Makes (expression e t) (.expression e t) := by unfold expression; infer_instance

instance : Makes (loopControl t u) (.loopControl t u) := by unfold loopControl; infer_instance

instance (value : Option Expr) : Makes (returnValue t value u) (.returnValue t value u) := by
  unfold returnValue; infer_instance

instance : Makes (goto t u v) (.goto t u v) := by unfold goto; infer_instance

instance : Makes (label t u) (.label t u) := by unfold label; infer_instance

instance : Makes (setVariable t u v e w) (.setVariable t u v e w) := by
  unfold setVariable; infer_instance

instance (options : SeparatedList Token) (value : RawTokens) :
    Makes (setOption t options value u) (.setOption t options value u) := by
  unfold setOption; infer_instance

instance (tokens : RawTokens) : Makes (unmodeled tokens t) (.unmodeled tokens t) := by
  unfold unmodeled; infer_instance

instance (body : List Statement) : Makes (block t body u v) ⟨t, body, u, v⟩ := by
  unfold block; infer_instance

instance (name : Option Token) :
    Makes (beginTransaction t u name v) (.beginTransaction t u name v) := by
  unfold beginTransaction
  cases name <;> dsimp only <;> infer_instance

instance (beginTry endTry beginCatch endCatch : Token × Token) (tryBody catchBody : List Statement) :
    Makes (tryCatch beginTry tryBody endTry beginCatch catchBody endCatch t)
      (.tryCatch beginTry tryBody endTry beginCatch catchBody endCatch t) := by
  unfold tryCatch; infer_instance

instance (thenBranch : Statement) (otherwise : ElseBranch) :
    Makes (ifElse t e thenBranch otherwise) (.ifElse t e thenBranch otherwise) := by
  unfold ifElse
  cases otherwise <;> dsimp only <;> infer_instance

instance (body : Statement) : Makes (whileLoop t e body) (.whileLoop t e body) := by
  unfold whileLoop; infer_instance

instance (type : DataType) (value : Tail) : Makes (varDecl t u type value) ⟨t, u, type, value⟩ := by
  unfold varDecl; infer_instance

instance (declarations : SeparatedList VarDecl) :
    Makes (declare t declarations u) (.declare t declarations u) := by
  unfold declare; infer_instance

instance (cursor : CursorDecl) : Makes (declareCursor cursor) (.declareCursor cursor) := by
  unfold declareCursor; infer_instance

instance (type : DataType) (varying : Option Token) (initial : Tail) (modifiers : List Token) :
    Makes (paramDecl t u type varying initial modifiers) ⟨t, u, type, varying, initial, modifiers⟩ := by
  unfold paramDecl; infer_instance

instance (options : RawTokens) : Makes (routineOptions t options) ⟨t, options⟩ := by
  unfold routineOptions; infer_instance

instance (header : ProcedureHeader) (body : List Statement) :
    Makes (createProcedure header body) (.createProcedure header body) := by
  unfold createProcedure; infer_instance

instance (view : ViewDef) : Makes (createView view) (.createView view) := by
  unfold createView; infer_instance

instance (signature : FunctionSignature) : Makes (functionSignature signature) signature := by
  unfold functionSignature; infer_instance

instance (signature : FunctionSignature) (type : DataType) (options : Option RoutineOptions)
    (body : Block) :
    Makes (createScalarFunction signature type options t body)
      (.createScalarFunction signature type options t body) := by
  unfold createScalarFunction; infer_instance

instance (function : InlineFunction) :
    Makes (createInlineFunction function) (.createInlineFunction function) := by
  unfold createInlineFunction; infer_instance

instance (signature : FunctionSignature) (type : TableType) (options : Option RoutineOptions)
    (body : Block) :
    Makes (createTableFunction signature t type options u body)
      (.createTableFunction signature t type options u body) := by
  unfold createTableFunction; infer_instance

end TransactSql.Checked
