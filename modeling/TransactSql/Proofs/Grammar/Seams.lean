import TransactSql.Proofs.ElseBranches
import TransactSql.Proofs.Grammar.Locality
import TransactSql.Proofs.Parser.Seams

/-!
# Statements before a last `;`

No rule of a statement looks behind the `;` that ends it, an `IF` apart, which looks for its `ELSE`.
So where the last token of a script is the `;` of a statement, that statement and those before it
are read in the same way when more tokens follow, if these do not start with an `ELSE`. Procedures
and the functions with a body are left out: they go on to the end of all tokens.
-/

namespace TransactSql

open TransactSql.Parser

theorem Token.isWord_of_isVariable {t : Token} (h : t.isVariable = true) : t.isWord = true := by
  unfold isVariable hasFlag at h
  unfold isWord
  cases kind : t.kind <;> simp_all [TokenKind.isWord]

namespace Statement

/-! ### Where statements end -/

/-- The token in the slot of the statement's own `;`, for statements that have such a slot. -/
def terminator? : Statement → Option Token
  | .empty t | .expression _ t | .beginTransaction _ _ _ t | .tryCatch _ _ _ _ _ _ t
  | .loopControl _ t | .returnValue _ _ t | .goto _ _ t | .setVariable _ _ _ _ t
  | .setOption _ _ _ t | .declare _ _ t | .unmodeled _ t => some t
  | .block b => some b.terminator
  | .declareCursor c => some c.terminator
  | .createView v => some v.terminator
  | .createInlineFunction f => some f.terminator
  | .ifElse .. | .whileLoop .. | .label .. | .createProcedure .. | .createScalarFunction ..
  | .createTableFunction .. => none

/-- The last token of the statement is a `;` in the slot for it, its own or that of the statement
with which an `IF` or a `WHILE` ends. -/
inductive Terminated : Statement → Prop
  | own {s : Statement} {t : Token} (slot : s.terminator? = some t) (present : t ≠ .placeholder) :
    Terminated s
  | thenBranch {ifToken : Token} {condition : Expr} {s : Statement} (ends : Terminated s) :
    Terminated (.ifElse ifToken condition s .absent)
  | elseBranch {ifToken keyword : Token} {condition : Expr} {thenBranch s : Statement}
    (ends : Terminated s) : Terminated (.ifElse ifToken condition thenBranch (.present keyword s))
  | body {whileToken : Token} {condition : Expr} {s : Statement} (ends : Terminated s) :
    Terminated (.whileLoop whileToken condition s)

theorem Terminated.ne_placeholder {s : Statement} {t : Token} (slot : s.terminator? = some t)
    (h : s.Terminated) : t ≠ .placeholder := by
  cases h with
  | own slot' present =>
    rw [slot] at slot'
    cases slot'
    exact present
  | _ => cases slot

theorem Terminated.of_body {whileToken : Token} {condition : Expr} {s : Statement}
    (h : (whileLoop whileToken condition s).Terminated) : s.Terminated := by
  cases h with
  | own slot => cases slot
  | body ends => exact ends

theorem Terminated.of_thenBranch {ifToken : Token} {condition : Expr} {s : Statement}
    (h : (ifElse ifToken condition s .absent).Terminated) : s.Terminated := by
  cases h with
  | own slot => cases slot
  | thenBranch ends => exact ends

theorem Terminated.of_elseBranch {ifToken keyword : Token} {condition : Expr}
    {thenBranch s : Statement}
    (h : (ifElse ifToken condition thenBranch (.present keyword s)).Terminated) : s.Terminated := by
  cases h with
  | own slot => cases slot
  | elseBranch ends => exact ends

theorem not_terminated_label {name colon : Token} : ¬ (label name colon).Terminated := by
  intro h
  cases h with
  | own slot => cases slot

/-- The kinds of routines whose bodies go on to the end of all tokens. -/
def routineKinds : List NodeKind := [.createProcedure, .createScalarFunction, .createTableFunction]

/-- No procedure and no function with a body is in the statement, at any depth. -/
def RoutineFree (s : Statement) : Prop := s.Everywhere fun t => t.kind ∉ routineKinds

theorem RoutineFree.of_children {s : Statement} (children : ∀ t ∈ s.children, t.RoutineFree)
    (other : s.kind ∉ routineKinds := by simp [Statement.kind, Statement.routineKinds]) : s.RoutineFree :=
  everywhere_iff.mpr ⟨other, children⟩

theorem RoutineFree.child {s t : Statement} (free : s.RoutineFree) (child : t ∈ s.children) :
    t.RoutineFree := (everywhere_iff.mp free).2 t child

end Statement

namespace Grammar

/-! ### Parts of statements -/

instance : Local atEnd := by unfold atEnd; infer_instance

instance (stop : Token → Bool) : Bounded (rawExtent stop) := by unfold rawExtent; infer_instance

instance (first second : Keyword) : Local (keywordPair first second) := by
  unfold keywordPair; infer_instance

instance : Local atBlockEnd where
  supported := nofun
  inStep k c eof := by
    have run : ∀ d : Cursor, atBlockEnd d =
        .ok (d.current.isKeyword .END && !d.lookahead.isKeyword .CONVERSATION) d := fun _ => rfl
    rw [run, run, ← k.current_eq]
    cases here : (k.here c).current.isKeyword .END with
    | false => exact .ok _ eof
    | true =>
      rw [k.lookahead_eq (Token.isSource_of_isKeyword here)
        (Token.not_isFence_of_isKeyword here (by decide))]
      exact .ok _ eof

section

variable (expr : Precedence → Parser Expr) [∀ min, Framed (expr min)] [∀ min, Local (expr min)]

instance : Local (varDecl expr) := by
  unfold varDecl
  refine .bind inferInstance fun name => .bind inferInstance fun asToken => ?_
  refine .bind inferInstance fun type => .bind inferInstance fun eq => ?_
  split <;> infer_instance

instance : Local updateClause := by
  have words : Local (atKeywords .FOR .UPDATE) := local_atKeywords (by decide) _
  unfold updateClause
  infer_instance

instance (what : String) : Local (queryBody expr what) := by unfold queryBody; infer_instance

instance : Local columnNames := by unfold columnNames; infer_instance

instance : Local viewColumns := by
  unfold viewColumns
  refine .bind inferInstance fun lparen => ?_
  split <;> infer_instance

instance : Local checkOption := by
  have words : Local (atKeywords .WITH .CHECK) := local_atKeywords (by decide) _
  unfold checkOption
  infer_instance

instance (create : List Token) : Local (functionSignature expr create) := by
  unfold functionSignature; infer_instance

instance : Local (optionalValue expr) := by unfold optionalValue; infer_instance

end

/-! ### Statements with a `;` of their own -/

section

variable (expr : Precedence → Parser Expr) [∀ min, Framed (expr min)]
  [∀ min, Local (expr min)]

/-- What is told of the rules: how their runs are joined. -/
abbrev JoinsStatement (p : Parser Statement) : Prop :=
  Joins Statement.RoutineFree Statement.Terminated p

theorem kind_of_empty {t : Token} {s : Statement} {c d : Cursor}
    (h : build (Checked.empty t) c = .ok s d) : t.kind = .semicolon := by
  by_cases semicolon : t.kind = .semicolon
  · exact semicolon
  · simp [Checked.empty, Check.kind, Check.token, semicolon, build, throw_ok] at h

/-- A statement that is just the `;`. -/
theorem joins_empty : JoinsStatement (do build (Checked.empty (← take))) where
  closes {c d s} eof h _ _ := by
    rw [take_bind] at h
    obtain ⟨rfl, _⟩ := Still.stays h
    exact .of_advance eof (kind_of_empty h)
  joined k {c} eof := by
    rw [take_bind, take_bind, ← k.fork.current_eq]
    cases made : build (Checked.empty (k.fork.here c).current) (k.fork.here c).advance with
    | error e d => exact .failed e d _
    | ok s d =>
      have source := Token.isSource_of_kind_eq rfl (kind_of_empty made)
      have ready := Cursor.ready_of_isSource (c := k.fork.here c) eof source
      obtain ⟨rfl, again⟩ := Still.stays made
      rw [again]
      exact joined_advance k _ _ s eof ready.fault

omit [∀ min, Framed (expr min)] in
theorem joins_expressionStatement : JoinsStatement (expressionStatement expr) := by
  unfold expressionStatement
  refine .seq inferInstance fun e => .terminator fun t => .build ?_
  exact Statement.Terminated.ne_placeholder rfl

theorem joins_unmodeledFrom (before : List Token) : JoinsStatement (unmodeledFrom before) := by
  unfold unmodeledFrom rawStatement
  refine .seq inferInstance fun tail => .terminator fun t => .bind fun raw => .build ?_
  exact Statement.Terminated.ne_placeholder rfl

theorem joins_unmodeled : JoinsStatement unmodeled := by
  unfold unmodeled
  exact .seq inferInstance fun first => joins_unmodeledFrom [first]

theorem joins_beginTransaction : JoinsStatement beginTransaction := by
  unfold beginTransaction
  refine .seq inferInstance fun beginToken => .seq inferInstance fun transaction => ?_
  refine .seq inferInstance fun name => .terminator fun t => .build ?_
  exact Statement.Terminated.ne_placeholder rfl

theorem joins_loopControl : JoinsStatement loopControl := by
  unfold loopControl
  refine .seq inferInstance fun keyword => .terminator fun t => .build ?_
  exact Statement.Terminated.ne_placeholder rfl

omit [∀ min, Framed (expr min)] in
theorem joins_returnValue : JoinsStatement (returnValue expr) := by
  unfold returnValue
  refine .seq inferInstance fun returnToken => .seq inferInstance fun value => ?_
  exact .terminator fun t => .build (Statement.Terminated.ne_placeholder rfl)

theorem joins_goto : JoinsStatement goto := by
  unfold goto
  refine .seq inferInstance fun gotoToken => .seq inferInstance fun label => ?_
  exact .terminator fun t => .build (Statement.Terminated.ne_placeholder rfl)

theorem joins_label : JoinsStatement label := by
  unfold label
  refine .of_local inferInstance (.bind fun name => .bind fun colon => .build ?_)
  exact Statement.not_terminated_label

theorem joins_setOption (setToken : Token) : JoinsStatement (setOption setToken) := by
  unfold setOption
  refine .seq inferInstance fun names => .seq inferInstance fun options => ?_
  refine .seq inferInstance fun tail => .seq inferInstance fun value => ?_
  exact .terminator fun t => .build (Statement.Terminated.ne_placeholder rfl)

omit [∀ min, Framed (expr min)] in
theorem joins_declare : JoinsStatement (declare expr) := by
  unfold declare declareCursor
  refine .seq inferInstance fun declareToken => .seq inferInstance fun token => ?_
  split
  · refine .seq inferInstance fun name => .seq inferInstance fun isoOptions => ?_
    refine .seq inferInstance fun cursorToken => .seq inferInstance fun options => ?_
    refine .seq inferInstance fun forToken => .seq inferInstance fun query => ?_
    dsimp only
    split
    · exact .of_other inferInstance .fail_bind
    · refine .seq inferInstance fun update => .seq inferInstance fun iso => ?_
      refine .seq inferInstance fun options => .terminator fun t => .build ?_
      exact Statement.Terminated.ne_placeholder rfl
  · refine .seq inferInstance fun read => .seq inferInstance fun declarations => ?_
    exact .terminator fun t => .build (Statement.Terminated.ne_placeholder rfl)

omit [∀ min, Framed (expr min)] in
theorem joins_view (create : List Token) : JoinsStatement (view expr create) := by
  unfold view
  refine .seq inferInstance fun viewToken => .seq inferInstance fun name => ?_
  refine .seq inferInstance fun columns => .seq inferInstance fun options => ?_
  refine .seq inferInstance fun asToken => .seq inferInstance fun query => ?_
  refine .seq inferInstance fun check => .terminator fun t => .build ?_
  exact Statement.Terminated.ne_placeholder rfl

omit [∀ min, Framed (expr min)] in
theorem joins_inlineFunction (signature : FunctionSignature) :
    JoinsStatement (inlineFunction expr signature) := by
  unfold inlineFunction
  refine .seq inferInstance fun tableToken => .seq inferInstance fun options => ?_
  refine .seq inferInstance fun asToken => .seq inferInstance fun returnToken => ?_
  refine .seq inferInstance fun query => .terminator fun t => .build ?_
  exact Statement.Terminated.ne_placeholder rfl

theorem joins_setVariable (setToken : Token) :
    JoinsAtWord Statement.RoutineFree Statement.Terminated (setVariable expr setToken) := by
  unfold setVariable
  refine .lookahead fun next => Joins.atWord ?_
  dsimp only
  split
  · exact .of_other inferInstance .fail_bind
  · refine .seq inferInstance fun variableName => .seq inferInstance fun read => ?_
    exact .terminator fun t => .build (Statement.Terminated.ne_placeholder rfl)

theorem joins_set : JoinsStatement (set expr) := by
  unfold set
  refine .seq inferInstance fun setToken => .current (fun token _ => ?_) fun token other => ?_
  · split
    · exact joins_setVariable expr setToken
    · exact (joins_setOption setToken).atWord
  · rw [if_neg]
    · exact joins_setOption setToken
    · intro isVariable
      rw [Token.isWord_of_isVariable isVariable] at other
      cases other

theorem joins_create (statement : Parser Statement) [Framed statement] :
    JoinsStatement (create expr statement) := by
  have routine : ∀ {p : Parser Statement} {kinds : List NodeKind}, Framed p → ReturnsKinds kinds p →
      (∀ kind ∈ kinds, kind ∈ Statement.routineKinds) → JoinsStatement p := by
    intro p kinds framed returns listed
    refine .of_other framed (returns.mono fun s member free => ?_)
    exact (Statement.everywhere_iff.mp free).1 (listed _ member)
  unfold create
  refine .seq inferInstance fun first => .seq inferInstance fun more => ?_
  refine .seq inferInstance fun token => ?_
  split
  case h_1 | h_2 =>
    exact routine inferInstance (returns_procedure expr statement _) (by simp [Statement.routineKinds])
  case h_3 => exact joins_view expr _
  case h_4 =>
    unfold function
    refine .seq inferInstance fun signature => .seq inferInstance fun isTable => ?_
    split
    · exact joins_inlineFunction expr signature
    · refine .seq inferInstance fun token => ?_
      split
      · exact routine inferInstance (returns_tableFunction statement _) (by simp [Statement.routineKinds])
      · exact routine inferInstance (returns_scalarFunction expr statement _)
          (by simp [Statement.routineKinds])
  case h_5 => exact joins_unmodeledFrom _

end

/-! ### Statements made of statements -/

section

variable (expr : Precedence → Parser Expr) [∀ min, Framed (expr min)]
  [∀ min, Local (expr min)] {statement : Parser Statement} (inner : JoinsStatement statement)

include inner

theorem joins_moreBlockStatements (ss : List Statement) :
    Joins (fun next => ∀ s ∈ next.getD ss, s.RoutineFree) (fun _ => False)
      (moreBlockStatements statement ss) := by
  unfold moreBlockStatements
  refine .seq inferInstance fun ended => .seq inferInstance fun closed => ?_
  split
  · exact .of_local inferInstance ⟨fun _ => not_false⟩
  · refine inner.make fun s => .pure ⟨fun free => ?_, False.elim⟩
    exact free s (by simp)

theorem joins_blockBody [Consumes statement] :
    Joins (fun ss => ∀ s ∈ ss, s.RoutineFree) (fun _ => False) (blockBody statement) := by
  have framed := inner.framed
  unfold blockBody
  refine .loop (fun ss => ?_) (joins_moreBlockStatements inner) []
  unfold moreBlockStatements
  refine .bind fun ended => .bind fun closed => .ite (.pure id) (.bind fun s => .pure ?_)
  exact fun free t member => free t (List.mem_append_left [s] member)

theorem joins_block [Consumes statement] :
    Joins (fun b => ∀ s ∈ b.body, s.RoutineFree) (fun b => b.terminator ≠ .placeholder)
      (block statement) := by
  unfold block
  refine .seq inferInstance fun beginToken => (joins_blockBody inner).bind (fun body => ?_) fun body => ?_
  · exact .bind fun endToken => .bind fun t => .build id
  · exact .seq inferInstance fun endToken => .terminator fun t => .build id

theorem joins_tryCatch [Consumes statement] : JoinsStatement (tryCatch statement) := by
  have body := joins_blockBody inner
  unfold tryCatch
  refine .seq inferInstance fun first => .seq inferInstance fun second => ?_
  refine body.bind (fun tryBody => ?_) fun tryBody => ?_
  · refine .bind fun endTry => .bind fun beginCatch => .bind fun catchBody => ?_
    refine .bind fun endCatch => .bind fun t => .build fun free s member => ?_
    exact free.child (List.mem_append_left _ member)
  refine .seq inferInstance fun endTry => .seq inferInstance fun beginCatch => ?_
  refine body.bind (fun catchBody => ?_) fun catchBody => ?_
  · refine .bind fun endCatch => .bind fun t => .build fun free s member => ?_
    exact free.child (List.mem_append_right _ member)
  refine .seq inferInstance fun endCatch => .terminator fun t => .build ?_
  exact Statement.Terminated.ne_placeholder rfl

theorem joins_begin [Consumes statement] :
    JoinsAtWord Statement.RoutineFree Statement.Terminated (beginStatement statement) := by
  unfold beginStatement
  refine .lookahead fun next => Joins.atWord ?_
  split
  case h_1 | h_2 => exact joins_beginTransaction
  case h_3 => exact joins_tryCatch inner
  case h_4 | h_5 | h_6 => exact joins_unmodeled
  case h_7 =>
    refine (joins_block inner).make fun b => .pure ⟨fun free s member => ?_, fun ends => ?_⟩
    · exact free.child member
    · exact ends.ne_placeholder rfl

omit [∀ min, Framed (expr min)] in
theorem joins_whileLoop : JoinsStatement (whileLoop expr statement) := by
  unfold whileLoop
  refine .seq inferInstance fun whileToken => .seq inferInstance fun condition => ?_
  refine inner.make fun body => .build ⟨fun free => ?_, fun ends => ?_⟩
  · exact free.child (by simp [Statement.children])
  · exact ends.of_body

/-- An `ELSE` with its statement, of which the `;` may be the end. -/
theorem joins_elseBranch :
    Joins (fun o => ∀ s ∈ o.statement?, s.RoutineFree) (fun o => ∃ s ∈ o.statement?, s.Terminated)
      (elseBranch statement) := by
  unfold elseBranch
  refine .seq inferInstance fun keyword => ?_
  split
  · exact inner.make fun s => .pure (by simp [ElseBranch.statement?])
  · exact .of_local inferInstance (.pure (by simp [ElseBranch.statement?]))

/-- What an `IF` reads behind its first branch. -/
def restOfIf (statement : Parser Statement) (ifToken : Token) (condition : Expr)
    (thenBranch : Statement) : Parser Statement := do
  build (Checked.ifElse ifToken condition thenBranch (← elseBranch statement))

omit inner in
theorem restOfIf_ok {ifToken : Token} {condition : Expr} {thenBranch s : Statement} {c d : Cursor}
    (h : restOfIf statement ifToken condition thenBranch c = .ok s d) :
    ∃ otherwise, elseBranch statement c = .ok otherwise d ∧
      s = .ifElse ifToken condition thenBranch otherwise ∧
      ∀ {c' d'}, elseBranch statement c' = .ok otherwise d' →
        restOfIf statement ifToken condition thenBranch c' = .ok s d' := by
  obtain ⟨otherwise, e, branch, made⟩ := bind_ok h
  have again := (Still.stays made).2
  obtain ⟨rfl, rfl⟩ := build_ok made
  exact ⟨otherwise, branch, rfl, fun run => (bind_of_ok _ run).trans (again _)⟩

/-- The rest of an `IF` whose first branch does not go up to the `;`. -/
theorem joined_restOfIf (k : Seam) (ifToken : Token) (condition : Expr) (thenBranch : Statement)
    {c : Cursor} (eof : c.eof.isEof = true) :
    Joined k Statement.RoutineFree Statement.Terminated
      (restOfIf statement ifToken condition thenBranch (k.fork.here c))
      (restOfIf statement ifToken condition thenBranch (k.fork.there c)) := by
  have branches := (joins_elseBranch inner).joined k eof
  cases read : restOfIf statement ifToken condition thenBranch (k.fork.here c) with
  | error e d => exact .failed e d _
  | ok s d =>
    obtain ⟨otherwise, branch, rfl, again⟩ := restOfIf_ok read
    rw [branch] at branches
    generalize branch' : elseBranch statement (k.fork.there c) = reply at branches
    cases branches with
    | other bad =>
      refine .other (fun free => bad fun s member => free.child ?_) _ _
      exact List.mem_cons_of_mem _ (by simpa using member)
    | before _ eof =>
      rw [again branch']
      exact .before _ eof
    | behind _ nothing again' =>
      refine .behind _ nothing fun ends => ?_
      rcases elseBranch_cases branch with ⟨_, rfl, _⟩ | ⟨keyword, s, _, rfl, _, _⟩
      · exact absurd nothing k.here_ahead_ne_nil
      · rw [again' ⟨s, rfl, ends.of_elseBranch⟩] at branch'
        exact again branch'

omit inner in
/-- The rest of an `IF` whose first branch goes up to the `;`: neither the end of input nor what
comes behind the `;` is an `ELSE`. -/
theorem restOfIf_of_nil (k : Seam) {ifToken : Token} {condition : Expr} {thenBranch s : Statement}
    {c d : Cursor} (eof : c.eof.isEof = true) (nothing : c.ahead = [])
    (h : restOfIf statement ifToken condition thenBranch c = .ok s d) :
    d = c ∧ s = .ifElse ifToken condition thenBranch .absent ∧
      restOfIf statement ifToken condition thenBranch (k.beyond c) = .ok s (k.beyond c) := by
  obtain ⟨otherwise, branch, rfl, again⟩ := restOfIf_ok h
  rcases elseBranch_cases branch with ⟨rfl, rfl, _⟩ | ⟨_, _, _, _, isElse, _⟩
  · have refused := eat_of_refused (p := (·.isKeyword .ELSE)) (k.not_isElse_beyond eof)
    refine ⟨rfl, rfl, again ?_⟩
    unfold elseBranch eatKeyword
    rw [bind_of_ok _ refused]
    rfl
  · have source := Token.isSource_of_isKeyword isElse
    rw [Cursor.not_isSource_of_nil eof nothing] at source
    cases source

/-- An `IF` ends with its second branch, or else with its first one. -/
theorem closes_ifElse {ifToken : Token} {condition : Expr} {c d : Cursor} {s : Statement}
    (eof : c.eof.isEof = true)
    (h : (statement >>= restOfIf statement ifToken condition) c = .ok s d)
    (free : s.RoutineFree) (ends : s.Terminated) : c.Closes d := by
  have framed := inner.framed
  obtain ⟨thenBranch, e, run, h⟩ := bind_ok h
  obtain ⟨otherwise, branch, rfl, _⟩ := restOfIf_ok h
  obtain ⟨raw, moved⟩ := framed.ok run
  rcases elseBranch_cases branch with ⟨rfl, rfl, _⟩ | ⟨keyword, t, _, rfl, _⟩
  · exact inner.closes eof run (free.child (by simp [Statement.children])) ends.of_thenBranch
  · refine ((joins_elseBranch inner).closes (moved.eof ▸ eof) branch ?_ ?_).after moved
    · intro t member
      exact free.child (List.mem_cons_of_mem _ (by simpa using member))
    · exact ⟨t, rfl, ends.of_elseBranch⟩

theorem joined_branches (k : Seam) (ifToken : Token) (condition : Expr) {c : Cursor}
    (eof : c.eof.isEof = true) :
    Joined k Statement.RoutineFree Statement.Terminated
      ((statement >>= restOfIf statement ifToken condition) (k.fork.here c))
      ((statement >>= restOfIf statement ifToken condition) (k.fork.there c)) := by
  have framed := inner.framed
  have first := inner.joined k eof
  cases run : statement (k.fork.here c) with
  | error e d =>
    rw [bind_of_error _ run]
    exact .failed e d _
  | ok thenBranch d =>
    obtain ⟨raw, moved⟩ := framed.ok run
    have eof' : d.eof.isEof = true := moved.eof ▸ eof
    rw [bind_of_ok _ run]
    rw [run] at first
    generalize run' : statement (k.fork.there c) = reply at first
    cases first with
    | before _ eof =>
      rw [bind_of_ok _ run']
      exact joined_restOfIf inner k ifToken condition thenBranch eof
    | other bad =>
      refine .of_other fun rest free => bad ?_
      obtain ⟨otherwise, _, rfl, _⟩ := restOfIf_ok rest
      exact free.child (by simp [Statement.children])
    | behind _ nothing again =>
      cases rest : restOfIf statement ifToken condition thenBranch d with
      | error e d' => exact .failed e d' _
      | ok s d' =>
        obtain ⟨rfl, rfl, rest'⟩ := restOfIf_of_nil k eof' nothing rest
        refine .behind _ nothing fun ends => ?_
        rw [again ends.of_thenBranch] at run'
        rw [bind_of_ok _ run', rest']

omit [∀ min, Framed (expr min)] in
theorem joins_ifElse : JoinsStatement (ifElse expr statement) := by
  have framed := inner.framed
  unfold ifElse
  refine .seq inferInstance fun ifToken => .seq inferInstance fun condition => ?_
  exact ⟨inferInstance, closes_ifElse inner, fun k c eof => joined_branches inner k ifToken condition eof⟩

theorem joins_wordStatement [Consumes statement] (token : Token) :
    JoinsAtWord Statement.RoutineFree Statement.Terminated
      (wordStatement expr statement token) := by
  have framed := inner.framed
  unfold wordStatement
  refine .lookahead fun next => ?_
  split
  case h_1 => exact joins_begin inner
  case h_2 => exact (joins_ifElse expr inner).atWord
  case h_3 => exact (joins_whileLoop expr inner).atWord
  case h_4 | h_5 => exact joins_loopControl.atWord
  case h_6 => exact (joins_returnValue expr).atWord
  case h_7 => exact joins_goto.atWord
  case h_8 => exact (joins_set expr).atWord
  case h_9 => exact (joins_declare expr).atWord
  case h_10 | h_11 => exact (joins_create expr statement).atWord
  case h_12 => exact (joins_expressionStatement expr).atWord
  case h_13 =>
    split
    · exact joins_unmodeled.atWord
    · exact Joins.atWord (.of_other inferInstance .fail)
  case h_14 => exact Joins.atWord (.of_other inferInstance .fail)
  case h_15 =>
    split
    · exact joins_label.atWord
    · split
      · exact joins_unmodeled.atWord
      · exact Joins.atWord (.of_other inferInstance .failExpected)

theorem joins_anyStatement [Consumes statement] : JoinsStatement (anyStatement expr statement) := by
  unfold anyStatement
  refine .current (fun token isWord => ?_) fun token other => ?_
  · obtain ⟨w, kind⟩ : ∃ w, token.kind = .word w := by
      unfold Token.isWord at isWord
      cases kind : token.kind <;> simp [kind, TokenKind.isWord] at isWord ⊢
    rw [kind]
    exact joins_wordStatement expr inner token
  · split
    case h_1 => exact joins_empty
    case h_2 => exact joins_expressionStatement expr
    case h_3 kind => simp [Token.isWord, kind, TokenKind.isWord] at other
    case h_4 => exact .of_other inferInstance ⟨fun h => absurd h failAtError_ok⟩
    case h_5 => exact .of_other inferInstance .failExpected

end

end Grammar

/-- Statements of every depth. -/
theorem Parser.statement_joins (depth : Nat) :
    Joins Statement.RoutineFree Statement.Terminated (statement depth) := by
  induction depth with
  | zero => exact .of_other inferInstance .fail
  | succ depth ih => exact Grammar.joins_anyStatement (Parser.expr depth) ih

end TransactSql
