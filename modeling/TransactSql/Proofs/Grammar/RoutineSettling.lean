import TransactSql.Grammar.Routine
import TransactSql.Proofs.Grammar.ExpressionSettling
import TransactSql.Proofs.Statement.Checked

/-!
# Declarations, blocks and routines settle

Recovery settles too: it clears the fault before it reads on, and the tokens it keeps are those of
the recording, so that only a token that does not stand for text is refused there.
-/

namespace TransactSql.Grammar

open TransactSql.Parser

variable {ts : List Token} {c : Cursor}

/-- Two words that both stand at the cursor are the first tokens ahead. -/
theorem exists_ahead_of_keywords {j k : Keyword} (stands : c.Stands ts)
    (first : c.current.isKeyword j = true) (second : c.lookahead.isKeyword k = true) :
    ∃ a b rest, c.ahead = a :: b :: rest ∧ a.isKeyword j = true ∧ b.isKeyword k = true := by
  have source := Token.isSource_of_isKeyword first
  obtain ⟨a, more, ahead, current⟩ := Cursor.exists_cons_of_isSource stands.toReady source
  rw [current, Cursor.isKeyword_normalize] at first
  cases more with
  | nil =>
    simp only [Cursor.lookahead, ahead, List.tail_cons, List.headD_nil] at second
    have isEof := Token.not_isEof_of_isSource (Token.isSource_of_isKeyword second)
    simp [stands.eof] at isEof
  | cons b rest => exact ⟨a, b, rest, ahead, first, by simpa [Cursor.lookahead, ahead] using second⟩

instance (before : List Token) :
    Settled ts (statementTail before) fun read => ∀ t ∈ read, t.isSource = true ∨ t ∈ ts := by
  unfold statementTail; infer_instance

section Declarations

variable (expr : Precedence → Parser Expr) [exprs : ∀ min, Settled ts (expr min) fun _ => True]

/-! ### Declarations -/

instance (min : Precedence) : Settled ts (value expr min) fun _ => True := by
  unfold value; infer_instance

instance : Settled ts (varDecl expr) fun _ => True where
  settles stands := by
    unfold varDecl
    refine .next stands fun name d stands isName => .next stands fun asToken d stands isAs => ?_
    refine .next stands fun type d stands _ => .next stands fun eq d stands isSign => ?_
    cases eq with
    | none =>
      refine settles_build stands ?_ trivial
      simp [Checked.varDecl, isName, isAs, Checked.initializer, Tail.value?]
    | some eq =>
      dsimp only
      split
      · exact .fail_bind stands
      · next scalar =>
        refine .next stands fun e d stands _ => settles_build stands ?_ trivial
        simp only [Option.all_some] at isSign
        simp [Checked.varDecl, isName, isAs, Checked.initializer, isSign, scalar]

/-- Neither word of `FOR UPDATE` ends the statement before it. -/
theorem statementExtent_forUpdate {a b : Token} (rest : List Token)
    (isFor : a.isKeyword .FOR = true) (isUpdate : b.isKeyword .UPDATE = true) :
    statementExtent [] 0 0 (a :: b :: rest) = statementExtent [a, b] 0 0 rest + 2 := by
  rw [Token.isKeyword, beq_iff_eq] at isFor isUpdate
  have goesOn : endsStatement [] a = false := by
    simp [endsStatement, startsStatement, Token.isAnyKeyword, isFor, boundaryKeywords,
      statementKeywords]
  have goesOnBehind : endsStatement [a] b = false := by
    simp [endsStatement, Token.isAnyKeyword, isFor, isUpdate, boundaryKeywords,
      standaloneKeywords, continues, continuingKeywords]
  rw [statementExtent_cons _ (Token.keyword?_eq_some_iff.mp isFor) (by decide) goesOn,
    List.nil_append,
    statementExtent_cons _ (Token.keyword?_eq_some_iff.mp isUpdate) (by decide) goesOnBehind]
  rfl

instance : Settled ts updateClause
    fun update => update.all (Checked.isUpdateClause ·.tokens) = true where
  settles {c} stands := by
    unfold updateClause statementTail
    rw [atKeywords_bind]
    split
    · next both =>
      rw [Bool.and_eq_true] at both
      obtain ⟨a, b, rest, ahead, isFor, isUpdate⟩ := exists_ahead_of_keywords stands both.1 both.2
      refine (takeRun_settles _ stands).bind fun tokens d stands held => ?_
      obtain ⟨read, known⟩ := held
      refine settles_rawTokens_bind stands known (.pure stands ?_)
      rw [ahead, statementExtent_forUpdate rest isFor isUpdate] at read
      simp [read, Checked.isUpdateClause, isFor, isUpdate]
    · exact .pure stands rfl

-- The options are checked only after the query.
theorem declareCursor_settles {declareToken : Token} (stands : c.Stands ts)
    (isDeclare : declareToken.isKeyword .DECLARE = true)
    (isName : c.current.isPlainIdentifier = true) :
    Settles ts (fun _ => True) (declareCursor expr declareToken c) := by
  unfold declareCursor
  rw [take_bind]
  refine .next stands.advance fun isoOptions d stands isoKnown => ?_
  refine .next stands fun cursorToken d stands isCursor => ?_
  refine .next stands fun options d stands known => .next stands fun forToken d stands isFor => ?_
  refine .next stands fun query d stands _ => ?_
  dsimp only
  split
  · exact .fail_bind stands
  · refine .next stands fun update d stands isUpdate => ?_
    refine settles_rawTokens_bind stands isoKnown (settles_rawTokens_bind stands known ?_)
    refine .next stands fun terminator d stands ends => settles_build stands ?_ trivial
    simp only [Token.isPlainIdentifier, Bool.and_eq_true] at isName
    simp_all [Checked.declareCursor]

instance : Settled ts (declare expr) fun _ => True where
  settles stands := by
    unfold declare
    refine .next stands fun declareToken d stands isDeclare => ?_
    rw [current_bind]
    split
    · next isName => exact declareCursor_settles expr stands isDeclare isName
    · refine .next stands fun read d stands list => ?_
      obtain ⟨items, separators⟩ := read
      refine settles_build_bind (list.isOk_bind fun _ => rfl) ?_
      refine .next stands fun terminator d stands ends => settles_build stands ?_ trivial
      simp [Checked.declare, isDeclare, ends]

instance : Settled ts modifiers
    fun read => ∀ t ∈ read, t.isAnyKeyword [.OUT, .OUTPUT, .READONLY] = true where
  settles {c} stands :=
    (takeWhile_settles stands (fun t => c.isAnyKeyword_normalize t _)
      Token.isSource_of_isAnyKeyword).mono fun _ => And.left

instance : Settled ts (paramDefault expr)
    fun initial => ∀ node slot, (Checked.initializer node slot initial).isOk = true where
  settles stands := by
    unfold paramDefault
    refine .next stands fun eq d stands isSign => ?_
    cases eq with
    | none => exact .pure stands fun _ _ => rfl
    | some eq =>
      refine .next stands fun e d stands _ => .pure stands fun node slot => ?_
      simp only [Option.all_some] at isSign
      simp [Checked.initializer, isSign]

instance : Settled ts (paramDecl expr) fun _ => True where
  settles stands := by
    unfold paramDecl
    refine .next stands fun name d stands isName => .next stands fun asToken d stands isAs => ?_
    refine .next stands fun type d stands _ => .next stands fun varying d stands isVarying => ?_
    refine .next stands fun initial d stands fits => .next stands fun read d stands words => ?_
    refine settles_build stands ?_ trivial
    simpa [Checked.paramDecl, isName, isAs, isVarying, fits] using words

instance : Settled ts (params expr) fun _ => True where
  settles stands := by
    unfold params
    refine .next stands fun read d stands list => ?_
    obtain ⟨items, separators⟩ := read
    exact settles_build stands (list.isOk_bind fun _ => rfl) trivial

instance : Settled ts (optionalParams expr) fun _ => True where
  settles stands := by
    unfold optionalParams
    rw [atKind_bind]
    split
    · exact .pure stands trivial
    · exact .next stands fun _ d stands _ => .pure stands trivial

end Declarations

/-! ### Sequences of statements -/

section Sequences

variable (statement : Parser Statement) [Settled ts statement fun _ => True]

instance (ss : List Statement) : Settled ts (moreStatements statement ss) fun _ => True where
  settles stands := by
    unfold moreStatements
    rw [atEnd_bind]
    split
    · exact .pure stands trivial
    · exact .next stands fun _ d stands _ => .pure stands trivial

instance : Settled ts (statements statement) fun _ => True where
  settles stands := by
    unfold statements
    refine settles_loop (fun _ => True) (fun stands _ => ?_) stands trivial
    exact .last stands fun _ _ _ _ => trivial

instance (ss : List Statement) : Settled ts (moreBlockStatements statement ss) fun _ => True where
  settles stands := by
    unfold moreBlockStatements atBlockEnd
    simp only [atEnd_bind, bind_assoc, current_bind, lookahead_bind, pure_bind']
    split
    · exact .pure stands trivial
    · exact .next stands fun _ d stands _ => .pure stands trivial

instance : Settled ts (blockBody statement) fun _ => True where
  settles stands := by
    unfold blockBody
    refine settles_loop (fun _ => True) (fun stands _ => ?_) stands trivial
    exact .last stands fun _ _ _ _ => trivial

instance : Settled ts (block statement) fun _ => True where
  settles stands := by
    unfold block
    refine .next stands fun beginToken d stands isBegin => .next stands fun body d stands _ => ?_
    refine .next stands fun endToken d stands isEnd => .next stands fun final d stands ends => ?_
    exact settles_build stands (by simp [Checked.block, isBegin, isEnd, ends]) trivial

end Sequences

/-! ### Recovery -/

theorem recovering_settles {p : Parser α} {recover : List Token → Option Token → Parser α}
    [settled : Settled ts p fun _ => True]
    (recovers : ∀ {tokens last c}, c.Stands ts → (∀ t ∈ tokens, t ∈ ts) →
      last.all (·.kind == .semicolon) = true →
      Settles ts (fun _ => True) (recover tokens last c))
    (stands : c.Stands ts) : Settles ts (fun _ => True) (recovering p recover c) := by
  refine settles_recording ?_
  have inside := settled.settles stands.beginRecording
  rw [attempt_bind]
  cases run : p c.beginRecording with
  | ok a d =>
    rw [run] at inside
    exact inside
  | error failure d =>
    rw [run] at inside
    cases failure with
    -- Only here does recovery read on; every other failure is that of the whole.
    | grammar x =>
      refine (readToEnd_settles inside.1).bind fun read e stands held => ?_
      exact recovers stands held.1 held.2
    | _ => exact inside

theorem rawStatement_settles {tokens : List Token} {last : Token} (stands : c.Stands ts)
    (some : tokens ≠ []) (known : ∀ t ∈ tokens, t.isSource = true ∨ t ∈ ts)
    (ends : (last.isPlaceholder || last.kind == .semicolon) = true) :
    Settles ts (fun _ => True) (rawStatement tokens last c) := by
  unfold rawStatement
  refine settles_rawTokens_bind stands known (settles_build stands ?_ trivial)
  simp [Checked.unmodeled, some, ends]

theorem recoveredStatements_settles {tokens : List Token} (stands : c.Stands ts)
    (known : ∀ t ∈ tokens, t ∈ ts) : Settles ts (fun _ => True) (recoveredStatements tokens c) := by
  unfold recoveredStatements
  split
  · exact .pure stands trivial
  · next some =>
    have raw : Settles ts (fun _ => True) (rawStatement tokens .placeholder c) :=
      rawStatement_settles stands (by simpa using some) (fun t member => .inr (known t member)) rfl
    exact raw.bind fun _ d stands _ => .pure stands trivial

theorem ends_getD {last : Option Token} (ends : last.all (·.kind == .semicolon) = true) :
    ((last.getD .placeholder).isPlaceholder ||
      (last.getD .placeholder).kind == .semicolon) = true := by
  cases last with
  | none => rfl
  | some t => simp_all

theorem recoveredBlock_settles {tokens : List Token} {last : Option Token} (stands : c.Stands ts)
    (known : ∀ t ∈ tokens, t ∈ ts) (ends : last.all (·.kind == .semicolon) = true) :
    Settles ts (fun _ => True) (recoveredBlock tokens last c) := by
  unfold recoveredBlock
  generalize tokens.head? = first, tokens.tail.getLast? = final
  split
  · next beginToken endToken =>
    dsimp only
    split
    · exact .fail_bind stands
    · next words =>
      have both : beginToken.isKeyword .BEGIN = true ∧ endToken.isKeyword .END = true := by
        simpa using words
      have inner : ∀ t ∈ tokens.tail.dropLast, t ∈ ts := fun t member =>
        known t (List.mem_of_mem_tail (List.dropLast_subset _ member))
      refine (recoveredStatements_settles stands inner).bind fun body d stands _ => ?_
      refine settles_build stands ?_ trivial
      simpa [Checked.block, both] using ends_getD ends
  · exact .fail stands

instance (statement : Parser Statement) [Settled ts statement fun _ => True] :
    Settled ts (blockRecovering statement) fun _ => True where
  settles stands := recovering_settles recoveredBlock_settles stands

theorem recoveredBody_settles {tokens : List Token} {last : Option Token} (stands : c.Stands ts)
    (known : ∀ t ∈ tokens, t ∈ ts) (ends : last.all (·.kind == .semicolon) = true) :
    Settles ts (fun _ => True) (recoveredBody tokens last c) := by
  unfold recoveredBody
  split
  · refine (recoveredBlock_settles stands known ends).bind fun block d stands _ => ?_
    exact .pure stands trivial
  · split
    · exact .fail stands
    · next some =>
      have raw := rawStatement_settles stands (by simpa using some)
        (fun t member => .inr (known t member)) (ends_getD ends)
      exact raw.bind fun _ d stands _ => .pure stands trivial

instance (statement : Parser Statement) [Settled ts statement fun _ => True] :
    Settled ts (procedureBody statement) fun _ => True where
  settles stands := by
    unfold procedureBody
    rw [atEnd_bind]
    split
    · exact .fail_bind stands
    · exact recovering_settles recoveredBody_settles stands

/-! ### Routines -/

/-- External code is refused only where its two words stand next to each other. -/
instance : Settled ts rejectExternal fun _ => True where
  settles stands := by
    unfold rejectExternal
    rw [atKeywords_bind]
    split
    · next both =>
      rw [Bool.and_eq_true] at both
      obtain ⟨a, b, rest, ahead, isExternal, isName⟩ :=
        exists_ahead_of_keywords stands both.1 both.2
      have front : [a, b] <+: a :: b :: rest := ⟨rest, rfl⟩
      have inside := stands.ahead.isInfix
      rw [ahead] at inside
      exact ⟨stands.clear, a, b, front.isInfix.trans inside, isExternal, isName⟩
    · exact .pure stands trivial

instance : Settled ts routineOptions fun _ => True where
  settles stands := by
    unfold routineOptions
    refine .next stands fun withToken d stands isWith => ?_
    cases withToken with
    | none => exact .pure stands trivial
    | some withToken =>
      refine .next stands fun tokens d stands known => ?_
      dsimp only
      split
      · exact .fail_bind stands
      · next some =>
        simp only [Option.all_some] at isWith
        refine settles_rawTokens_bind stands known ?_
        refine settles_build_bind ?_ (.pure stands trivial)
        simp [Checked.routineOptions, isWith, some]

/-- The parts of a list that may stand in parentheses: both of them are there, or neither is. -/
def Enclosed (list : Token × α × Token) : Prop := Check.isParenPair list.1 list.2.2 = true

instance : Settled ts columnNames fun _ => True where
  settles stands := by
    unfold columnNames
    refine .next stands fun read d stands list => ?_
    obtain ⟨items, separators⟩ := read
    exact settles_build stands (list.isOk_bind fun _ => rfl) trivial

instance : Settled ts viewColumns fun list =>
    Enclosed list ∧ list.1.isPlaceholder = list.2.1.isNone where
  settles stands := by
    unfold viewColumns
    refine .next stands fun lparen d stands isOpen => ?_
    cases lparen with
    | none => exact .pure stands ⟨rfl, rfl⟩
    | some lparen =>
      simp only [Option.all_some, beq_iff_eq] at isOpen
      refine .next stands fun columns d stands _ => .next stands fun rparen d stands isClosing => ?_
      refine .pure stands ⟨by simp [Enclosed, Check.isParenPair, isOpen, isClosing], ?_⟩
      simp [Token.isPlaceholder, isOpen]

instance : Settled ts checkOption fun found => found.all (fun words =>
    words.1.isKeyword .WITH && words.2.1.isKeyword .CHECK &&
      words.2.2.isKeyword .OPTION) = true where
  settles {c} stands := by
    unfold checkOption
    rw [atKeywords_bind]
    split
    · next both =>
      rw [Bool.and_eq_true] at both
      have source := Token.isSource_of_isKeyword both.1
      have next := Cursor.isKeyword_advance stands.toReady source .CHECK
      rw [take_bind, take_bind]
      refine .next stands.advance.advance fun option d stands isOption => ?_
      exact .pure stands (by simp [both, next, isOption])
    · exact .pure stands rfl

section Routines

variable (expr : Precedence → Parser Expr) [exprs : ∀ min, Settled ts (expr min) fun _ => True]
variable (statement : Parser Statement) [Settled ts statement fun _ => True]

instance (what : String) : Settled ts (queryBody expr what) fun query => query.isQuery = true where
  settles stands := by
    unfold queryBody
    refine .next stands fun query d stands _ => ?_
    dsimp only
    split
    · exact .fail_bind stands
    · next isQuery => exact .pure stands (by simpa using isQuery)

instance : Settled ts (procedureParams expr) Enclosed where
  settles stands := by
    unfold procedureParams
    refine .next stands fun lparen d stands isOpen => ?_
    cases lparen with
    | some lparen =>
      simp only [Option.all_some] at isOpen
      refine .next stands fun params d stands _ => .next stands fun rparen d stands isClosing => ?_
      exact .pure stands (by simp [Enclosed, Check.isParenPair, isOpen, isClosing])
    | none =>
      dsimp only
      rw [current_bind]
      split
      · exact .next stands fun params d stands _ => .pure stands rfl
      · exact .pure stands rfl

theorem procedure_settles {create : List Token} (stands : c.Stands ts)
    (creates : Checked.isCreate create = true)
    (isProcedure : c.current.isAnyKeyword [.PROC, .PROCEDURE] = true) :
    Settles ts (fun _ => True) (procedure expr statement create c) := by
  unfold procedure
  rw [take_bind]
  refine .next stands.advance fun name d stands _ => .next stands fun list d stands enclosed => ?_
  obtain ⟨lparen, params, rparen⟩ := list
  refine .next stands fun options d stands _ => ?_
  refine .next stands fun replication d stands isFor => .next stands fun asToken d stands isAs => ?_
  refine .next stands fun _ d stands _ => .next stands fun body d stands _ => ?_
  refine settles_build stands ?_ trivial
  have paired : (Check.parenPair .createProcedure lparen rparen).isOk = true :=
    Check.isOk_parenPair enclosed
  cases replication <;> simp_all [Checked.createProcedure, Checked.create]

theorem view_settles {create : List Token} (stands : c.Stands ts)
    (creates : Checked.isCreate create = true) (isView : c.current.isKeyword .VIEW = true) :
    Settles ts (fun _ => True) (view expr create c) := by
  unfold view
  rw [take_bind]
  refine .next stands.advance fun name d stands _ => .next stands fun list d stands enclosed => ?_
  obtain ⟨lparen, columns, rparen⟩ := list
  obtain ⟨enclosed, both⟩ := enclosed
  refine .next stands fun options d stands _ => .next stands fun asToken d stands isAs => ?_
  refine .next stands fun query d stands isQuery => .next stands fun check d stands isCheck => ?_
  refine .next stands fun terminator d stands ends => settles_build stands ?_ trivial
  have paired : (Check.parenPair .createView lparen rparen).isOk = true :=
    Check.isOk_parenPair enclosed
  cases check <;> simp_all [Checked.createView, Checked.create]

instance : Settled ts (functionBody statement) fun _ => True where
  settles stands := by
    unfold functionBody
    rw [atKeyword_bind]
    split
    · exact .last stands fun _ _ => trivial
    · exact .failExpected stands

theorem functionSignature_settles {create : List Token} (stands : c.Stands ts)
    (creates : Checked.isCreate create = true) (isFunction : c.current.isKeyword .FUNCTION = true) :
    Settles ts (fun _ => True) (functionSignature expr create c) := by
  unfold functionSignature
  rw [take_bind]
  refine .next stands.advance fun name d stands _ => .next stands fun lparen d stands isOpen => ?_
  refine .next stands fun params d stands _ => .next stands fun rparen d stands isClosing => ?_
  refine .next stands fun returns d stands isReturns => settles_build stands ?_ trivial
  simp [Checked.functionSignature, Checked.create, creates, isFunction, isOpen, isClosing,
    isReturns]

theorem inlineFunction_settles (signature : FunctionSignature) (stands : c.Stands ts)
    (isTable : c.current.isKeyword .TABLE = true) :
    Settles ts (fun _ => True) (inlineFunction expr signature c) := by
  unfold inlineFunction
  rw [take_bind]
  refine .next stands.advance fun options d stands _ => .next stands fun asToken d stands isAs => ?_
  refine .next stands fun returnToken d stands isReturn => ?_
  refine .next stands fun query d stands isQuery => ?_
  refine .next stands fun terminator d stands ends => settles_build stands ?_ trivial
  simp [Checked.createInlineFunction, isTable, isAs, isReturn, isQuery, ends]

theorem tableFunction_settles (signature : FunctionSignature) (stands : c.Stands ts)
    (isVariable : c.current.isVariable = true) :
    Settles ts (fun _ => True) (tableFunction statement signature c) := by
  unfold tableFunction
  rw [take_bind]
  refine .next stands.advance fun type d stands _ => .next stands fun options d stands _ => ?_
  refine .next stands fun asToken d stands isAs => .next stands fun _ d stands _ => ?_
  refine .next stands fun body d stands _ => settles_build stands ?_ trivial
  simp [Checked.createTableFunction, isVariable, isAs]

theorem scalarFunction_settles (signature : FunctionSignature) (stands : c.Stands ts)
    (notTable : c.current.isKeyword .TABLE = false) :
    Settles ts (fun _ => True) (scalarFunction expr statement signature c) := by
  unfold scalarFunction
  refine (dataType_settles expr stands).bind fun type d stands scalar => ?_
  refine .next stands fun options d stands _ => ?_
  refine .next stands fun asToken d stands isAs => .next stands fun _ d stands _ => ?_
  refine .next stands fun body d stands _ => settles_build stands ?_ trivial
  simp [Checked.createScalarFunction, scalar notTable, isAs]

theorem function_settles {create : List Token} (stands : c.Stands ts)
    (creates : Checked.isCreate create = true) (isFunction : c.current.isKeyword .FUNCTION = true) :
    Settles ts (fun _ => True) (function expr statement create c) := by
  unfold function
  refine (functionSignature_settles expr stands creates isFunction).bind
    fun signature d stands _ => ?_
  rw [atKeyword_bind]
  split
  · next isTable => exact inlineFunction_settles expr signature stands isTable
  · next notTable =>
    rw [current_bind]
    split
    · next isVariable => exact tableFunction_settles statement signature stands isVariable
    · exact scalarFunction_settles expr statement signature stands (by simpa using notTable)

/-! ### All objects -/

theorem orAlter_settles {first : Token} (stands : c.Stands ts)
    (isWord : first.isAnyKeyword [.CREATE, .ALTER] = true) :
    Settles ts (fun more => Checked.isCreate (first :: more) = true) (orAlter first c) := by
  unfold orAlter
  rw [atKeywords_bind]
  split
  · next three =>
    simp only [Bool.and_eq_true] at three
    obtain ⟨isCreate, isOr, isAlter⟩ := three
    have next := Cursor.isKeyword_advance stands.toReady (Token.isSource_of_isKeyword isOr) .ALTER
    rw [take_bind, take_bind]
    exact .pure stands.advance.advance (by simp [Checked.isCreate, isCreate, isOr, next, isAlter])
  · exact .pure stands (by simpa [Checked.isCreate] using isWord)

theorem unmodeledFrom_settles {before : List Token} (stands : c.Stands ts) (some : before ≠ [])
    (source : ∀ t ∈ before, t.isSource = true) :
    Settles ts (fun _ => True) (unmodeledFrom before c) := by
  unfold unmodeledFrom
  refine .next stands fun tail d stands known => .next stands fun last d stands ends => ?_
  refine rawStatement_settles stands (by simp [some]) (fun t member => ?_) ends
  rcases List.mem_append.mp member with read | behind
  · exact .inl (source t read)
  · exact known t behind

theorem isSource_of_isCreate {tokens : List Token} (creates : Checked.isCreate tokens = true) :
    ∀ t ∈ tokens, t.isSource = true := by
  unfold Checked.isCreate at creates
  split at creates
  · simpa using Token.isSource_of_isAnyKeyword creates
  · simp only [Bool.and_eq_true] at creates
    simp [Token.isSource_of_isKeyword creates.1.1, Token.isSource_of_isKeyword creates.1.2,
      Token.isSource_of_isKeyword creates.2]
  · cases creates

theorem create_settles (stands : c.Stands ts)
    (isWord : c.current.isAnyKeyword [.CREATE, .ALTER] = true) :
    Settles ts (fun _ => True) (create expr statement c) := by
  unfold create
  rw [take_bind]
  refine (orAlter_settles stands.advance isWord).bind fun more d stands creates => ?_
  rw [current_bind]
  generalize word : d.current.keyword? = k
  split
  case h_1 | h_2 =>
    exact procedure_settles expr statement stands creates (by simp [Token.isAnyKeyword, word])
  case h_3 => exact view_settles expr stands creates (by simp [Token.isKeyword, word])
  case h_4 => exact function_settles expr statement stands creates (by simp [Token.isKeyword, word])
  case h_5 => exact unmodeledFrom_settles stands (by simp) (isSource_of_isCreate creates)

end Routines

end TransactSql.Grammar
