import TransactSql.Proofs.Grammar.Frame
import TransactSql.Session

/-!
# Scopes are left as they were entered

A rule may read `=` in another context, record tokens, give up an attempt, or read on to the end of
the input. However it ends, the context and the open recordings are those before it, and each
recording holds the tokens that were passed over, those of inner recordings and failed attempts
included. The nesting is handed down and not kept in the cursor, so the steps that follow a step
have as much of it as the step had.
-/

namespace TransactSql

/-- The scopes at `d` are those at `c`, from where `d` was reached. -/
structure Cursor.Restored (c d : Cursor) : Prop where
  assignment : d.assignment = c.assignment
  recordings : d.recordings.length = c.recordings.length
  /-- Apart from a fault, the current token is the raw one as the context reads it. -/
  current : d.clear.current = if c.assignment then d.rawCurrent.asAssignment else d.rawCurrent
  /-- Every recording grew by the tokens that were passed over. -/
  passed : ∃ raw, c.ahead = raw ++ d.ahead ∧ d.recordings = c.recordings.map (· ++ raw)

namespace Cursor

theorem Moved.restored {c d : Cursor} {raw : List Token} (moved : c.Moved raw d) :
    c.Restored d where
  assignment := moved.assignment
  recordings := by rw [moved.recordings, List.length_map]
  current := by
    show d.normalize d.rawCurrent = _
    rw [normalize, moved.assignment]
  passed := ⟨raw, moved.ahead, moved.recordings⟩

theorem Restored.refl (c : Cursor) : c.Restored c := (Moved.refl c).restored

theorem Restored.trans {c d e : Cursor} (first : c.Restored d) (second : d.Restored e) :
    c.Restored e where
  assignment := second.assignment.trans first.assignment
  recordings := second.recordings.trans first.recordings
  current := by rw [second.current, first.assignment]
  passed := by
    obtain ⟨raw, ahead, recordings⟩ := first.passed
    obtain ⟨more, ahead', recordings'⟩ := second.passed
    refine ⟨raw ++ more, ?_, ?_⟩
    · rw [ahead, ahead', List.append_assoc]
    · rw [recordings', recordings]
      simp [Function.comp_def]

end Cursor

namespace Parser

/-- However a run ends, it leaves the scopes as they were. -/
def Restores (p : Parser α) : Prop := ∀ c : Cursor, c.Restored (p.final c)

theorem restores (p : Parser α) [Framed p] : p.Restores := by
  intro c
  obtain ⟨raw, moved⟩ := p.final_moved c
  exact moved.restored

end Parser

namespace Grammar

open TransactSql.Parser

/-- The rules of the grammar, over the rules for expressions and statements that they call. -/
structure RestoresScopes (expr : Precedence → Parser Expr) (statement : Parser Statement) :
    Prop where
  -- Lists and recoveries
  commaSeparated : ∀ {α} (item : Parser α) [Framed item], (commaSeparated item).Restores
  readToCloseParen : readToCloseParen.Restores
  readToEnd : readToEnd.Restores
  recovering : ∀ {α} (p : Parser α) [Framed p] (recover : List Token → Option Token → Parser α)
    [∀ tokens terminator, Framed (recover tokens terminator)], (recovering p recover).Restores
  -- Names, parentheses and data types
  namePart : ∀ parts, (namePart parts).Restores
  name : name.Restores
  rawParenBody : rawParenBody.Restores
  parenBody : (parenBody expr).Restores
  tableType : tableType.Restores
  dataType : (dataType expr).Restores
  assignSign : assignSign.Restores
  statementTail : ∀ before, (statementTail before).Restores
  -- Queries
  optionalClause : ∀ k body [Framed body], (optionalClause k body).Restores
  optionalByClause : ∀ k body [Framed body], (optionalByClause k body).Restores
  sortItem : (sortItem expr).Restores
  sortItems : (sortItems expr).Restores
  topCount : (topCount expr).Restores
  optionalPair : ∀ first second, (optionalPair first second).Restores
  topClause : (topClause expr).Restores
  optionalTop : (optionalTop expr).Restores
  aliased : ∀ e accepts, (aliased e accepts).Restores
  selectItem : (selectItem expr).Restores
  selectColumns : (selectColumns expr).Restores
  joinOperator : joinOperator.Restores
  joinCondition : ∀ operator, (joinCondition expr operator).Restores
  joinStep : ∀ source [Framed source] left, (joinStep expr source left).Restores
  joinChain : ∀ source [Framed source], (joinChain expr source).Restores
  tableOrJoin : ∀ sources [Framed sources], (tableOrJoin expr sources).Restores
  hinted : ∀ table, (hinted expr table).Restores
  tableSource : ∀ sources [Framed sources], (tableSource expr sources).Restores
  tableSources : ∀ limit, (tableSources expr limit).Restores
  fromSources : (fromSources expr).Restores
  selectClauses : (selectClauses expr).Restores
  select : (select expr).Restores
  optionalAll : ∀ operator, (optionalAll operator).Restores
  setOperation : ∀ left, (setOperation expr left).Restores
  rowsKeyword : rowsKeyword.Restores
  fetchClause : (fetchClause expr).Restores
  offsetFetch : (offsetFetch expr).Restores
  optionalOffset : (optionalOffset expr).Restores
  orderBy : ∀ query, (orderBy expr query).Restores
  forOption : ∀ query, (forOption query).Restores
  hintOption : ∀ query, (hintOption query).Restores
  -- Expressions
  paren : (paren expr).Restores
  whenClause : (whenClause expr).Restores
  moreWhens : ∀ whens, (moreWhens expr whens).Restores
  optionalTail : ∀ k value [Framed value], (optionalTail k value).Restores
  caseOperand : (caseOperand expr).Restores
  caseExpr : (caseExpr expr).Restores
  operand : (operand expr).Restores
  binary : ∀ left, (binary expr left).Restores
  assignment : ∀ target, (assignment expr target).Restores
  list : ∀ first, (list expr first).Restores
  isNull : ∀ e, (isNull e).Restores
  pattern : ∀ e not, (pattern expr e not).Restores
  collate : ∀ e, (collate e).Restores
  cast : ∀ keyword, (cast expr keyword).Restores
  call : ∀ callee, (call expr callee).Restores
  windowFrame : windowFrame.Restores
  overClause : (overClause expr).Restores
  applyOperator : ∀ min left, (applyOperator expr min left).Restores
  expression : ∀ min, (expression expr min).Restores
  -- Declarations
  value : ∀ min, (value expr min).Restores
  varDecl : (varDecl expr).Restores
  updateClause : updateClause.Restores
  declareCursor : ∀ declareToken, (declareCursor expr declareToken).Restores
  declare : (declare expr).Restores
  modifiers : modifiers.Restores
  paramDefault : (paramDefault expr).Restores
  paramDecl : (paramDecl expr).Restores
  params : (params expr).Restores
  optionalParams : (optionalParams expr).Restores
  -- Blocks
  moreStatements : ∀ read, (moreStatements statement read).Restores
  statements : (statements statement).Restores
  atBlockEnd : atBlockEnd.Restores
  moreBlockStatements : ∀ read, (moreBlockStatements statement read).Restores
  blockBody : (blockBody statement).Restores
  block : (block statement).Restores
  rawStatement : ∀ tokens terminator, (rawStatement tokens terminator).Restores
  recoveredStatements : ∀ tokens, (recoveredStatements tokens).Restores
  recoveredBlock : ∀ tokens terminator, (recoveredBlock tokens terminator).Restores
  blockRecovering : (blockRecovering statement).Restores
  atBlock : atBlock.Restores
  recoveredBody : ∀ tokens terminator, (recoveredBody tokens terminator).Restores
  procedureBody : (procedureBody statement).Restores
  -- Routines
  rejectExternal : rejectExternal.Restores
  routineOptions : routineOptions.Restores
  queryBody : ∀ what, (queryBody expr what).Restores
  procedureParams : (procedureParams expr).Restores
  procedure : ∀ create, (procedure expr statement create).Restores
  columnNames : columnNames.Restores
  viewColumns : viewColumns.Restores
  checkOption : checkOption.Restores
  view : ∀ create, (view expr create).Restores
  functionBody : (functionBody statement).Restores
  functionSignature : ∀ create, (functionSignature expr create).Restores
  inlineFunction : ∀ signature, (inlineFunction expr signature).Restores
  tableFunction : ∀ signature, (tableFunction statement signature).Restores
  scalarFunction : ∀ signature, (scalarFunction expr statement signature).Restores
  function : ∀ create, (function expr statement create).Restores
  orAlter : ∀ first, (orAlter first).Restores
  unmodeledFrom : ∀ before, (unmodeledFrom before).Restores
  create : (create expr statement).Restores
  -- Statements
  expressionStatement : (expressionStatement expr).Restores
  unmodeled : unmodeled.Restores
  beginTransaction : beginTransaction.Restores
  keywordPair : ∀ first second, (keywordPair first second).Restores
  tryCatch : (tryCatch statement).Restores
  beginStatement : (beginStatement statement).Restores
  elseBranch : (elseBranch statement).Restores
  ifElse : (ifElse expr statement).Restores
  whileLoop : (whileLoop expr statement).Restores
  loopControl : loopControl.Restores
  optionalValue : (optionalValue expr).Restores
  returnValue : (returnValue expr).Restores
  goto : goto.Restores
  label : label.Restores
  setVariable : ∀ setToken, (setVariable expr setToken).Restores
  setOption : ∀ setToken, (setOption setToken).Restores
  set : (set expr).Restores
  wordStatement : ∀ token, (wordStatement expr statement token).Restores
  anyStatement : (anyStatement expr statement).Restores

-- Every rule is framed by inference, so there is one proof for all of them.
theorem restoresScopes (expr : Precedence → Parser Expr) (statement : Parser Statement)
    [∀ min, Framed (expr min)] [Framed statement] : RestoresScopes expr statement := by
  constructor
  all_goals
    intros
    apply restores

end Grammar

/-! ### Steps in turn -/

namespace Session

instance (depth : Nat) (step : Step) : Parser.Framed (step.parser depth) := by
  cases step <;> unfold Step.parser <;> infer_instance

/-- The cursor where steps end that run one after another, whatever the outcome of each. -/
def after (depth : Nat) : List Step → Cursor → Cursor
  | [], c => c
  | step :: steps, c => after depth steps ((step.parser depth).final c)

theorem run_cons (depth : Nat) (step : Step) (steps : List Step) (c : Cursor) :
    run depth (step :: steps) c =
      run depth [step] c ++ run depth steps ((step.parser depth).final c) := by
  cases outcome : step.parser depth c <;> simp [run, Parser.final, outcome]

theorem run_append (depth : Nat) (steps more : List Step) (c : Cursor) :
    run depth (steps ++ more) c = run depth steps c ++ run depth more (after depth steps c) := by
  induction steps generalizing c with
  | nil => rfl
  | cons step steps ih =>
    rw [List.cons_append, run_cons, ih, run_cons depth step steps, List.append_assoc, after]

theorem after_restored (depth : Nat) (steps : List Step) (c : Cursor) :
    c.Restored (after depth steps c) := by
  induction steps generalizing c with
  | nil => exact .refl c
  | cons step steps ih => exact ((step.parser depth).restores c).trans (ih _)

/-- Whatever a parser is started on and however it ends, it leaves the scopes as they were, and so
do the rules it calls, which all read one level deeper than it does. So does every run of steps,
and the steps behind it have the nesting that it had. -/
theorem scopes_restored (depth : Nat) :
    (∀ min, (Parser.expr depth min).Restores) ∧ (Parser.statement depth).Restores ∧
    (Parser.statements depth).Restores ∧ (Parser.topStatement depth).Restores ∧
    Parser.expectEnd.Restores ∧
    Grammar.RestoresScopes (Parser.expr depth) (Parser.statement depth) ∧
    (∀ min, Parser.expr (depth + 1) min = Grammar.expression (Parser.expr depth) min) ∧
    Parser.statement (depth + 1) =
      Grammar.anyStatement (Parser.expr depth) (Parser.statement depth) ∧
    (∀ steps (c : Cursor), c.Restored (after depth steps c)) ∧
    ∀ steps more c,
      run depth (steps ++ more) c = run depth steps c ++ run depth more (after depth steps c) :=
  ⟨fun _ => Parser.restores _, Parser.restores _, Parser.restores _, Parser.restores _,
    Parser.restores _, Grammar.restoresScopes _ _, fun _ => rfl, rfl, after_restored depth,
    run_append depth⟩

end Session

end TransactSql
