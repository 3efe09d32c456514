import TransactSql.Grammar.Routine
import TransactSql.Proofs.Grammar.ExpressionYield
import TransactSql.Proofs.Statement.Checked
import TransactSql.Statement.Tree

/-!
# Declarations, blocks and routines keep their tokens

Also where the grammar gives up: what is recovered of a body holds the tokens recorded since the
body began.
-/

namespace TransactSql

@[simp]
theorem Statement.slotsOf_eq (ss : List Statement) : Statement.slotsOf ss = ss.map Statement.tree := by
  induction ss with
  | nil => rfl
  | cons s ss ih => simp [Statement.slotsOf, ih]

attribute [simp] Tree.tokenPair SeparatedList.tree SeparatedList.nameTree VarDecl.tree CursorDecl.tree
  ParamDecl.tree ParamDecl.listSlot RoutineOptions.tree RoutineOptions.optionalSlot
  ProcedureHeader.slots ViewDef.tree FunctionSignature.tree InlineFunction.tree Block.tree
  ElseBranch.slots

namespace Grammar

open TransactSql.Parser

variable (expr : Precedence → Parser Expr) [∀ min, Yields (expr min) fun e => [e.tree]]

/-! ### Declarations -/

instance (min : Precedence) : Yields (value expr min) fun e => [e.tree] :=
  inferInstanceAs (Yields (withAssignment _ _) _)

instance : Yields updateClause fun u => (u.map RawTokens.tree).toList where
  reads ready h := by
    unfold updateClause statementTail at h
    simp only [atKeywords_bind] at h
    split at h
    · obtain ⟨tokens, _, run, h⟩ := bind_ok h
      obtain ⟨source, h⟩ := Checked.rawTokens_bind_ok h
      cases h
      exact (takeRun_reads ready run source).node
    · cases h
      exact .start ready

-- The options are checked only after the query, so the runs that took them are read last.
theorem declareCursor_reads {b c d : Cursor} {declareToken : Token} {s : Statement}
    (r : b.Reads [.token declareToken] c) (source : c.current.isSource = true)
    (h : declareCursor expr declareToken c = .ok s d) : b.Reads [s.tree] d := by
  unfold declareCursor at h
  obtain ⟨r, h⟩ := r.take source h
  obtain ⟨isoOptions, _, isoRun, h⟩ := bind_ok h
  obtain ⟨cursorToken, _, cursorRun, h⟩ := bind_ok h
  obtain ⟨options, _, optionsRun, h⟩ := bind_ok h
  obtain ⟨forToken, _, forRun, h⟩ := bind_ok h
  obtain ⟨query, _, queryRun, h⟩ := bind_ok h
  dsimp only at h
  split at h
  · exact absurd h fail_ok
  · obtain ⟨update, _, updateRun, h⟩ := bind_ok h
    obtain ⟨isoSource, h⟩ := Checked.rawTokens_bind_ok h
    obtain ⟨optionsSource, h⟩ := Checked.rawTokens_bind_ok h
    have r := (r.takeRun isoRun isoSource).next cursorRun
    have r := (r.takeRun optionsRun optionsSource).next forRun
    have r := (r.next queryRun).next updateRun
    obtain ⟨terminator, _, r, h⟩ := r.bind h
    obtain ⟨rfl, rfl⟩ := build_ok h
    exact r.of_tokens (by simp [Statement.tree])

variable [∀ min, Framed (expr min)]

instance : Yields (varDecl expr) fun v => [v.tree] where
  reads ready h := by
    unfold varDecl at h
    obtain ⟨name, _, r, h⟩ := (Cursor.Reads.start ready).bind h
    obtain ⟨asToken, _, r, h⟩ := r.bind h
    obtain ⟨type, _, r, h⟩ := r.bind h
    obtain ⟨eq, _, r, h⟩ := r.bind h
    cases eq with
    | none =>
      obtain ⟨rfl, rfl⟩ := build_ok h
      exact r.of_tokens (by simp)
    | some eq =>
      dsimp only at h
      split at h
      · exact absurd h fail_ok
      · obtain ⟨value, _, r, h⟩ := r.bind h
        obtain ⟨rfl, rfl⟩ := build_ok h
        exact r.of_tokens (by simp)

instance : Yields (declare expr) fun s => [s.tree] where
  reads ready h := by
    unfold declare at h
    obtain ⟨declareToken, _, r, h⟩ := (Cursor.Reads.start ready).bind h
    simp only [current_bind] at h
    split at h
    · next named =>
      exact declareCursor_reads expr r (Token.isSource_of_isPlainIdentifier named) h
    · obtain ⟨⟨items, separators⟩, _, r, h⟩ := r.bind h
      have h := build_bind_ok h
      obtain ⟨terminator, _, r, h⟩ := r.bind h
      obtain ⟨rfl, rfl⟩ := build_ok h
      exact r.of_tokens (by simp [Statement.tree])

instance : Yields modifiers Tree.tokenSlots where
  reads ready h := takeWhile_reads ready Token.isSource_of_isAnyKeyword h

instance : Yields (paramDefault expr) Tail.slots where
  reads ready h := by
    unfold paramDefault at h
    obtain ⟨eq, _, r, h⟩ := (Cursor.Reads.start ready).bind h
    cases eq with
    | none =>
      cases h
      exact r
    | some eq =>
      obtain ⟨value, _, r, h⟩ := r.bind h
      cases h
      exact r

instance : Yields (paramDecl expr) fun p => [p.tree] where
  reads ready h := by
    unfold paramDecl at h
    obtain ⟨name, _, r, h⟩ := (Cursor.Reads.start ready).bind h
    obtain ⟨asToken, _, r, h⟩ := r.bind h
    obtain ⟨type, _, r, h⟩ := r.bind h
    obtain ⟨varying, _, r, h⟩ := r.bind h
    obtain ⟨initial, _, r, h⟩ := r.bind h
    obtain ⟨modifiers, _, r, h⟩ := r.bind h
    obtain ⟨rfl, rfl⟩ := build_ok h
    exact r.of_tokens (by simp)

instance : Yields (params expr) fun ps => [ps.tree .separatedList ParamDecl.tree] where
  reads ready h := by
    unfold params at h
    obtain ⟨⟨items, separators⟩, _, r, h⟩ := (Cursor.Reads.start ready).bind h
    obtain ⟨rfl, rfl⟩ := build_ok h
    exact r.node

instance : Yields (optionalParams expr) ParamDecl.listSlot where
  reads ready h := by
    unfold optionalParams at h
    simp only [atKind_bind] at h
    split at h
    · cases h
      exact .start ready
    · obtain ⟨ps, _, r, h⟩ := (Cursor.Reads.start ready).bind h
      cases h
      exact r

/-! ### Sequences of statements -/

section

variable (statement : Parser Statement) [Yields statement fun s => [s.tree]]

theorem moreStatements_reads {b c d : Cursor} {ss : List Statement} {next : Option (List Statement)}
    (r : b.Reads (ss.map Statement.tree) c) (h : moreStatements statement ss c = .ok next d) :
    b.Reads ((next.getD ss).map Statement.tree) d := by
  unfold moreStatements at h
  simp only [atEnd_bind] at h
  split at h
  · cases h
    exact r
  · obtain ⟨s, _, r, h⟩ := r.bind h
    cases h
    exact r.of_tokens (by simp)

instance : Yields (statements statement) fun ss => ss.map Statement.tree where
  reads {c _ _} ready h :=
    loop_invariant (fun ss d => c.Reads (ss.map Statement.tree) d) (moreStatements_reads statement)
      (.start ready) h

theorem moreBlockStatements_reads {b c d : Cursor} {ss : List Statement}
    {next : Option (List Statement)} (r : b.Reads (ss.map Statement.tree) c)
    (h : moreBlockStatements statement ss c = .ok next d) :
    b.Reads ((next.getD ss).map Statement.tree) d := by
  unfold moreBlockStatements atBlockEnd at h
  simp only [atEnd_bind, bind_assoc, current_bind, lookahead_bind, pure_bind'] at h
  split at h
  · cases h
    exact r
  · obtain ⟨s, _, r, h⟩ := r.bind h
    cases h
    exact r.of_tokens (by simp)

instance : Yields (blockBody statement) fun ss => ss.map Statement.tree where
  reads {c _ _} ready h :=
    loop_invariant (fun ss d => c.Reads (ss.map Statement.tree) d) (moreBlockStatements_reads statement)
      (.start ready) h

instance : Yields (block statement) fun b => [b.tree] where
  reads ready h := by
    unfold block at h
    obtain ⟨beginToken, _, r, h⟩ := (Cursor.Reads.start ready).bind h
    obtain ⟨body, _, r, h⟩ := r.bind h
    obtain ⟨endToken, _, r, h⟩ := r.bind h
    obtain ⟨terminator, _, r, h⟩ := r.bind h
    obtain ⟨rfl, rfl⟩ := build_ok h
    exact r.of_tokens (by simp)

end

/-! ### Recovery -/

/-- A value is made of tokens that stand for text, without reading more. -/
def Rebuilds (recover : List Token → Option Token → Parser α) (slots : α → List Tree) : Prop :=
  ∀ {tokens last c d a}, recover tokens last c = .ok a d → d = c ∧ (∀ t ∈ tokens, t.isSource = true)
    ∧ Tree.tokensOf (slots a) = Tree.tokensOf (Tree.tokenSlots tokens ++ Tree.optionalToken last)

theorem recovering_yields {p : Parser α} {recover : List Token → Option Token → Parser α}
    {slots : α → List Tree} [Yields p slots] [Framed p] (rebuilds : Rebuilds recover slots) :
    Yields (recovering p recover) slots := by
  refine ⟨fun {c d a} ready h => ?_⟩
  unfold recovering at h
  obtain ⟨e, inside, h, leave⟩ := reads_recording (.start ready) h
  refine leave ?_
  rw [attempt_bind] at h
  cases run : p c.beginRecording with
  | ok x f =>
    rw [run] at h
    cases h
    exact inside.next run
  | error failure f =>
    obtain ⟨raw, moved⟩ := Framed.error run
    rw [run] at h
    cases failure with
    | grammar x =>
      obtain ⟨⟨tokens, last⟩, g, read, h⟩ := bind_ok h
      obtain ⟨rfl, source, same⟩ := rebuilds h
      exact (readToEnd_reads moved ready.eof read source).of_tokens same
    | _ => exact absurd h throw_ok

theorem rawStatement_ok {tokens : List Token} {terminator : Token} {c d : Cursor} {s : Statement}
    (h : rawStatement tokens terminator c = .ok s d) :
    d = c ∧ s = .unmodeled ⟨tokens⟩ terminator ∧ ∀ t ∈ tokens, t.isSource = true := by
  unfold rawStatement at h
  obtain ⟨source, h⟩ := Checked.rawTokens_bind_ok h
  obtain ⟨rfl, rfl⟩ := build_ok h
  exact ⟨rfl, rfl, source⟩

theorem recoveredStatements_ok {tokens : List Token} {c d : Cursor} {ss : List Statement}
    (h : recoveredStatements tokens c = .ok ss d) :
    d = c ∧ (∀ t ∈ tokens, t.isSource = true)
      ∧ Tree.tokensOf (ss.map Statement.tree) = Tree.tokensOf (Tree.tokenSlots tokens) := by
  unfold recoveredStatements at h
  split at h
  · next empty =>
    cases h
    rw [List.isEmpty_iff.mp empty]
    exact ⟨rfl, by simp, rfl⟩
  · obtain ⟨s, _, built, h⟩ := bind_ok h
    obtain ⟨rfl, rfl, source⟩ := rawStatement_ok built
    cases h
    exact ⟨rfl, source, by simp [Statement.tree]⟩

theorem recoveredBlock_rebuilds : Rebuilds recoveredBlock fun b => [b.tree] := by
  intro tokens last c d b h
  unfold recoveredBlock at h
  cases tokens with
  | nil => exact absurd h fail_ok
  | cons beginToken rest =>
    cases final : rest.getLast? with
    | none =>
      simp only [List.head?_cons, List.tail_cons, final] at h
      exact absurd h fail_ok
    | some endToken =>
      simp only [List.head?_cons, List.tail_cons, final] at h
      split at h
      · exact absurd h fail_ok
      · next keywords =>
        have both : beginToken.isKeyword .BEGIN = true ∧ endToken.isKeyword .END = true := by
          simpa using keywords
        obtain ⟨body, e, built, made⟩ := bind_ok h
        obtain ⟨rfl, source, same⟩ := recoveredStatements_ok built
        obtain ⟨rfl, rfl⟩ := build_ok made
        have parts := List.dropLast_append_getLast? endToken final
        refine ⟨rfl, ?_, ?_⟩
        · rw [← parts]
          intro t member
          simp only [List.mem_cons, List.mem_append, List.not_mem_nil, or_false] at member
          rcases member with rfl | inner | rfl
          · exact Token.isSource_of_isKeyword both.1
          · exact source t inner
          · exact Token.isSource_of_isKeyword both.2
        · conv => rhs; rw [← parts]
          cases last <;> simp [same]

instance (statement : Parser Statement) [Yields statement fun s => [s.tree]] [Framed statement] :
    Yields (blockRecovering statement) fun b => [b.tree] :=
  recovering_yields recoveredBlock_rebuilds

theorem recoveredBody_rebuilds : Rebuilds recoveredBody fun ss => ss.map Statement.tree := by
  intro tokens last c d ss h
  unfold recoveredBody at h
  split at h
  · obtain ⟨b, _, built, made⟩ := bind_ok h
    obtain ⟨rfl, source, same⟩ := recoveredBlock_rebuilds built
    cases made
    exact ⟨rfl, source, by simpa [Statement.tree] using same⟩
  · split at h
    · exact absurd h fail_ok
    · obtain ⟨s, _, built, made⟩ := bind_ok h
      obtain ⟨rfl, rfl, source⟩ := rawStatement_ok built
      cases made
      exact ⟨rfl, source, by cases last <;> simp [Statement.tree]⟩

instance (statement : Parser Statement) [Yields statement fun s => [s.tree]] [Framed statement] :
    Yields (procedureBody statement) fun ss => ss.map Statement.tree where
  reads ready h := by
    unfold procedureBody at h
    simp only [atEnd_bind] at h
    split at h
    · exact absurd h fail_ok
    · exact (recovering_yields recoveredBody_rebuilds).reads ready h

/-! ### Routines -/

/-- Refusing a routine reads nothing. -/
theorem rejectExternal_bind_ok {k : Unit → Parser α} {c d : Cursor} {a : α}
    (h : (rejectExternal >>= k) c = .ok a d) : k () c = .ok a d := by
  obtain ⟨_, e, checked, h⟩ := bind_ok h
  unfold rejectExternal at checked
  simp only [atKeywords_bind] at checked
  split at checked
  · exact absurd checked throw_ok
  · cases checked
    exact h

instance : Yields routineOptions RoutineOptions.optionalSlot where
  reads ready h := by
    unfold routineOptions at h
    obtain ⟨withToken, _, r, h⟩ := (Cursor.Reads.start ready).bind h
    cases withToken with
    | none =>
      cases h
      exact r
    | some withToken =>
      obtain ⟨tokens, _, run, h⟩ := bind_ok h
      dsimp only at h
      split at h
      · exact absurd h fail_ok
      · obtain ⟨source, h⟩ := Checked.rawTokens_bind_ok h
        have r := r.takeRun run source
        cases build_bind_ok h
        exact r.of_tokens (by simp)

instance (what : String) : Yields (queryBody expr what) fun e => [e.tree] where
  reads ready h := by
    unfold queryBody at h
    obtain ⟨query, _, r, h⟩ := (Cursor.Reads.start ready).bind h
    dsimp only at h
    split at h
    · exact absurd h fail_ok
    · cases h
      exact r

/-- What may stand in parentheses, given its slots. -/
def enclosed (slots : α → List Tree) (list : Token × α × Token) : List Tree :=
  .token list.1 :: slots list.2.1 ++ [.token list.2.2]

instance : Yields (procedureParams expr) (enclosed ParamDecl.listSlot) where
  reads ready h := by
    unfold procedureParams at h
    obtain ⟨lparen, _, r, h⟩ := (Cursor.Reads.start ready).bind h
    cases lparen with
    | some lparen =>
      obtain ⟨ps, _, r, h⟩ := r.bind h
      obtain ⟨rparen, _, r, h⟩ := r.bind h
      cases h
      exact r
    | none =>
      simp only [current_bind] at h
      split at h
      · obtain ⟨ps, _, r, h⟩ := r.hole.bind h
        cases h
        exact r.hole.of_tokens (by simp [enclosed])
      · cases h
        exact r.hole.hole

instance : Yields columnNames fun names => [names.nameTree] where
  reads ready h := by
    unfold columnNames at h
    obtain ⟨⟨items, separators⟩, _, r, h⟩ := (Cursor.Reads.start ready).bind h
    obtain ⟨rfl, rfl⟩ := build_ok h
    exact r.node

/-- The slot of optional column names. -/
def columnSlots (columns : Option (SeparatedList Token)) : List Tree :=
  (columns.map SeparatedList.nameTree).toList

instance : Yields viewColumns (enclosed columnSlots) where
  reads ready h := by
    unfold viewColumns at h
    obtain ⟨lparen, _, r, h⟩ := (Cursor.Reads.start ready).bind h
    cases lparen with
    | some lparen =>
      obtain ⟨columns, _, r, h⟩ := r.bind h
      obtain ⟨rparen, _, r, h⟩ := r.bind h
      cases h
      exact r
    | none =>
      cases h
      exact r.hole.hole

/-- The slots of `WITH CHECK OPTION`. -/
def checkSlots (check : Option (Token × Token × Token)) : List Tree :=
  (check.map fun (a, b, c) => Tree.tokenSlots [a, b, c]).getD []

instance : Yields checkOption checkSlots where
  reads ready h := by
    unfold checkOption at h
    simp only [atKeywords_bind] at h
    split at h
    · next found =>
      rw [Bool.and_eq_true] at found
      obtain ⟨_, _, _, r, h⟩ := takePair_reads (.start ready) (Token.isSource_of_isKeyword found.1)
        (Token.isSource_of_isKeyword found.2) h
      obtain ⟨option, _, r, h⟩ := r.bind h
      cases h
      exact r
    · cases h
      exact .start ready

omit [∀ min, Framed (expr min)] in
theorem view_reads {b c d : Cursor} {create : List Token} {s : Statement}
    (r : b.Reads (Tree.tokenSlots create) c) (source : c.current.isSource = true)
    (h : view expr create c = .ok s d) : b.Reads [s.tree] d := by
  unfold view at h
  obtain ⟨r, h⟩ := r.take source h
  obtain ⟨name, _, r, h⟩ := r.bind h
  obtain ⟨⟨lparen, columns, rparen⟩, _, r, h⟩ := r.bind h
  obtain ⟨options, _, r, h⟩ := r.bind h
  obtain ⟨asToken, _, r, h⟩ := r.bind h
  obtain ⟨query, _, r, h⟩ := r.bind h
  obtain ⟨checkOption, _, r, h⟩ := r.bind h
  obtain ⟨terminator, _, r, h⟩ := r.bind h
  obtain ⟨rfl, rfl⟩ := build_ok h
  exact r.of_tokens (by simp [Statement.tree, enclosed, columnSlots, checkSlots])

theorem functionSignature_reads {b c d : Cursor} {create : List Token} {signature : FunctionSignature}
    (r : b.Reads (Tree.tokenSlots create) c) (source : c.current.isSource = true)
    (h : functionSignature expr create c = .ok signature d) : b.Reads [signature.tree] d := by
  unfold functionSignature at h
  obtain ⟨r, h⟩ := r.take source h
  obtain ⟨name, _, r, h⟩ := r.bind h
  obtain ⟨lparen, _, r, h⟩ := r.bind h
  obtain ⟨params, _, r, h⟩ := r.bind h
  obtain ⟨rparen, _, r, h⟩ := r.bind h
  obtain ⟨returnsToken, _, r, h⟩ := r.bind h
  obtain ⟨rfl, rfl⟩ := build_ok h
  exact r.of_tokens (by simp)

omit [∀ min, Framed (expr min)] in
theorem inlineFunction_reads {b c d : Cursor} {signature : FunctionSignature} {s : Statement}
    (r : b.Reads [signature.tree] c) (source : c.current.isSource = true)
    (h : inlineFunction expr signature c = .ok s d) : b.Reads [s.tree] d := by
  unfold inlineFunction at h
  obtain ⟨r, h⟩ := r.take source h
  obtain ⟨options, _, r, h⟩ := r.bind h
  obtain ⟨asToken, _, r, h⟩ := r.bind h
  obtain ⟨returnToken, _, r, h⟩ := r.bind h
  obtain ⟨query, _, r, h⟩ := r.bind h
  obtain ⟨terminator, _, r, h⟩ := r.bind h
  obtain ⟨rfl, rfl⟩ := build_ok h
  exact r.of_tokens (by simp [Statement.tree])

variable (statement : Parser Statement) [Yields statement fun s => [s.tree]] [Framed statement]

theorem procedure_reads {b c d : Cursor} {create : List Token} {s : Statement}
    (r : b.Reads (Tree.tokenSlots create) c) (source : c.current.isSource = true)
    (h : procedure expr statement create c = .ok s d) : b.Reads [s.tree] d := by
  unfold procedure at h
  obtain ⟨r, h⟩ := r.take source h
  obtain ⟨name, _, r, h⟩ := r.bind h
  obtain ⟨⟨lparen, params, rparen⟩, _, r, h⟩ := r.bind h
  obtain ⟨options, _, r, h⟩ := r.bind h
  obtain ⟨replication, _, r, h⟩ := r.bind h
  obtain ⟨asToken, _, r, h⟩ := r.bind h
  have h := rejectExternal_bind_ok h
  obtain ⟨body, _, r, h⟩ := r.bind h
  obtain ⟨rfl, rfl⟩ := build_ok h
  refine r.of_tokens ?_
  cases replication <;> simp [Statement.tree, enclosed, pairSlots]

instance : Yields (functionBody statement) fun b => [b.tree] where
  reads ready h := by
    unfold functionBody at h
    simp only [atKeyword_bind] at h
    split at h
    · have r := (Cursor.Reads.start ready).next h
      exact r
    · exact absurd h failExpected_ok

theorem tableFunction_reads {b c d : Cursor} {signature : FunctionSignature} {s : Statement}
    (r : b.Reads [signature.tree] c) (source : c.current.isSource = true)
    (h : tableFunction statement signature c = .ok s d) : b.Reads [s.tree] d := by
  unfold tableFunction at h
  obtain ⟨r, h⟩ := r.take source h
  obtain ⟨type, _, r, h⟩ := r.bind h
  obtain ⟨options, _, r, h⟩ := r.bind h
  obtain ⟨asToken, _, r, h⟩ := r.bind h
  have h := rejectExternal_bind_ok h
  obtain ⟨body, _, r, h⟩ := r.bind h
  obtain ⟨rfl, rfl⟩ := build_ok h
  exact r.of_tokens (by simp [Statement.tree])

theorem scalarFunction_reads {b c d : Cursor} {signature : FunctionSignature} {s : Statement}
    (r : b.Reads [signature.tree] c) (h : scalarFunction expr statement signature c = .ok s d) :
    b.Reads [s.tree] d := by
  unfold scalarFunction at h
  obtain ⟨type, _, r, h⟩ := r.bind h
  obtain ⟨options, _, r, h⟩ := r.bind h
  obtain ⟨asToken, _, r, h⟩ := r.bind h
  have h := rejectExternal_bind_ok h
  obtain ⟨body, _, r, h⟩ := r.bind h
  obtain ⟨rfl, rfl⟩ := build_ok h
  exact r.of_tokens (by simp [Statement.tree])

theorem function_reads {b c d : Cursor} {create : List Token} {s : Statement}
    (r : b.Reads (Tree.tokenSlots create) c) (source : c.current.isSource = true)
    (h : function expr statement create c = .ok s d) : b.Reads [s.tree] d := by
  unfold function at h
  obtain ⟨signature, _, run, h⟩ := bind_ok h
  have r := functionSignature_reads expr r source run
  simp only [atKeyword_bind] at h
  split at h
  · next table => exact inlineFunction_reads expr r (Token.isSource_of_isKeyword table) h
  · simp only [current_bind] at h
    split at h
    · next result => exact tableFunction_reads statement r (Token.isSource_of_isVariable result) h
    · exact scalarFunction_reads expr statement r h

/-! ### All objects -/

instance (first : Token) : Yields (orAlter first) Tree.tokenSlots where
  reads {c d ts} ready h := by
    unfold orAlter at h
    by_cases creates : first.isKeyword .CREATE = true
    · simp only [creates, Bool.true_and, atKeywords_bind] at h
      split at h
      · next found =>
        rw [Bool.and_eq_true] at found
        obtain ⟨_, _, _, r, h⟩ := takePair_reads (.start ready) (Token.isSource_of_isKeyword found.1)
          (Token.isSource_of_isKeyword found.2) h
        cases h
        exact r
      · cases h
        exact .start ready
    · simp only [creates, Bool.false_and, atKeywords_bind] at h
      cases h
      exact .start ready

theorem unmodeledFrom_reads {b c d : Cursor} {before : List Token} {s : Statement}
    (r : b.Reads (Tree.tokenSlots before) c) (h : unmodeledFrom before c = .ok s d) :
    b.Reads [s.tree] d := by
  unfold unmodeledFrom statementTail at h
  obtain ⟨tail, _, run, h⟩ := bind_ok h
  obtain ⟨terminator, _, ended, h⟩ := bind_ok h
  obtain ⟨rfl, rfl, source⟩ := rawStatement_ok h
  have r := r.takeRun run fun t member => source t (List.mem_append_right before member)
  exact (r.next ended).of_tokens (by simp [Statement.tree])

theorem create_reads {c d : Cursor} {s : Statement} (ready : c.Ready)
    (source : c.current.isSource = true) (h : create expr statement c = .ok s d) :
    c.Reads [s.tree] d := by
  unfold create at h
  obtain ⟨r, h⟩ := (Cursor.Reads.start ready).take source h
  obtain ⟨more, e, r, h⟩ := r.bind h
  have words : c.Reads (Tree.tokenSlots (c.current :: more)) e := r
  simp only [current_bind] at h
  generalize found : e.current.keyword? = k at h
  split at h
  case h_1 | h_2 => exact procedure_reads expr statement words (Token.isSource_of_keyword? found) h
  case h_3 => exact view_reads expr words (Token.isSource_of_keyword? found) h
  case h_4 => exact function_reads expr statement words (Token.isSource_of_keyword? found) h
  case h_5 => exact unmodeledFrom_reads words h

end Grammar

end TransactSql
