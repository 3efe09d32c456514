import TransactSql.Proofs.Parser.Repetition
import TransactSql.Proofs.RoundTrip

/-!
# The grammar makes progress

Every expression and every statement takes a token, and so does every round of a loop that goes
on, on every token list and whatever faults it meets. The bounds that the grammar sets on rounds
and on parentheses around joins are therefore never felt, and a script has no more statements than
tokens.
-/

namespace TransactSql

open TransactSql.Parser

/-! ### Expressions -/

namespace Grammar

section Expressions

variable (sub : Precedence → Parser Expr) [∀ min, Framed (sub min)]

instance : Consumes name := by unfold name; infer_instance

instance : Consumes (select sub) := by unfold select; infer_instance

instance : Consumes (whenClause sub) := by unfold whenClause; infer_instance

instance : Consumes (operand sub) where
  shortens {c d e} eof h := by
    unfold operand at h
    simp only [current_bind] at h
    generalize here : c.current.kind = k at h
    have source : k.isSource = true → c.current.isSource = true :=
      fun text => Token.isSource_of_kind_eq text here
    split at h
    case h_1 => exact absurd h failAtError_ok
    case h_5 =>
      unfold paren at h
      refine @shortens_of_take _ _ (fun t => .bind inferInstance fun body => ?_) _ _ _ eof (source rfl) h
      split <;> infer_instance
    case h_2 | h_3 | h_4 | h_6 | h_7 | h_8 | h_9 | h_10 =>
      exact shortens_of_take eof (source rfl) h
    case h_11 => exact Consumes.shortens eof h
    case h_12 =>
      split at h
      · exact Consumes.shortens eof h
      · exact absurd h failExpected_ok
    case h_13 => exact absurd h failExpected_ok

instance (min : Precedence) : Consumes (expression sub min) := by
  unfold expression; infer_instance

instance (min : Precedence) : Advances (applyOperator sub min) where
  shortens {left e c d} eof h := by
    unfold applyOperator at h
    simp only [current_bind] at h
    split at h
    · next binds =>
      obtain ⟨ready, _⟩ := Cursor.ready_of_precedence eof binds
      simp only [lookahead_bind] at h
      cases found : operator? sub left c.current c.lookahead with
      | none =>
        rw [found] at h
        cases h
      | some operator =>
        rw [found] at h
        obtain ⟨x, f, run, h⟩ := bind_ok h
        cases h
        exact operator?_shortens sub ready found run
    · cases h

instance : Advances namePart where
  shortens {parts next c d} eof h := by
    unfold namePart at h
    simp only [atKind_bind] at h
    split at h
    · cases h
    · next goesOn =>
      have dot : c.current.kind = .dot := by
        simp only [Bool.or_eq_true, not_or, Bool.not_eq_true, Bool.not_eq_false'] at goesOn
        exact eq_of_beq goesOn.2
      have source := Token.isSource_of_kind_eq rfl dot
      have ready := Cursor.ready_of_isSource eof source
      obtain ⟨t, rest, ahead, current⟩ := Cursor.exists_cons_of_isSource ready source
      have first : t.kind = .dot := by
        rw [current, Cursor.normalize] at dot
        split at dot
        · unfold Token.asAssignment at dot
          split at dot
          · cases dot
          · exact dot
        · exact dot
      obtain ⟨dots, e, run, h⟩ := bind_ok h
      have passed := takesRuns_takeRun (length_takeWhile_le _) run
      have some : 0 < dots.length := by
        obtain ⟨rfl, _⟩ := takeRun_ok ready run
        simp [ahead, first]
      have taken : c.Shortens e := by
        unfold Cursor.Shortens
        omega
      exact taken.then h

instance (item : Parser α) [Framed item] : Advances (commaItem item) where
  shortens {read next c d} eof h := by
    unfold commaItem at h
    obtain ⟨comma, e, eaten, h⟩ := bind_ok h
    cases comma with
    | none => cases h
    | some comma => exact (eat_shortens eof (Token.isSource_of_kind rfl) eaten).then h

instance : Advances (moreWhens sub) where
  shortens {whens next c d} eof h := by
    unfold moreWhens at h
    simp only [atKeyword_bind] at h
    split at h
    · obtain ⟨w, e, run, h⟩ := bind_ok h
      exact (Consumes.shortens eof run).then h
    · cases h

/-! ### Table sources -/

theorem joinOperator_shortens {c d : Cursor} {operator : List Token} (eof : c.eof.isEof = true)
    (h : joinOperator c = .ok (some operator) d) : c.Shortens d := by
  unfold joinOperator at h
  simp only [current_bind] at h
  generalize here : c.current.keyword? = k at h
  have source : k ≠ none → c.current.isSource = true := by
    intro known
    obtain ⟨w, rfl⟩ := Option.ne_none_iff_exists'.mp known
    exact Token.isSource_of_keyword? here
  split at h
  case h_1 | h_2 => exact shortens_of_take eof (source (by simp)) h
  case h_3 | h_4 | h_5 =>
    simp only [lookahead_bind] at h
    split at h
    · cases h
    · exact shortens_of_take eof (source (by simp)) h
  case h_6 =>
    refine @shortens_of_take _ _ (fun t => .bind inferInstance fun apply => ?_) _ _ _ eof
      (source (by simp)) h
    split <;> infer_instance
  case h_7 =>
    simp only [lookahead_bind] at h
    split at h
    · exact shortens_of_take eof (source (by simp)) h
    · cases h
  case h_8 => cases h

instance (source : Parser Expr) [Framed source] : Advances (joinStep sub source) where
  shortens {left next c d} eof h := by
    unfold joinStep at h
    obtain ⟨operator, e, run, h⟩ := bind_ok h
    cases operator with
    | none => cases h
    | some operator => exact (joinOperator_shortens eof run).then h

omit [∀ min, Framed (sub min)] in
/-- Sources in parentheses are read behind the opening one. -/
theorem tableOrJoin_agree {n : Nat} {sources sources' : Parser Expr} [Framed sources]
    (same : AgreeBelow n sources sources') :
    AgreeBelow (n + 1) (tableOrJoin sub sources) (tableOrJoin sub sources') := by
  intro c eof few
  unfold tableOrJoin
  simp only [lookahead_bind, atKind_bind]
  split
  · next opens =>
    simp only [Bool.and_eq_true] at opens
    have source := Token.isSource_of_kind rfl opens.1.1
    have taken := Cursor.shortens_advance (Cursor.ready_of_isSource eof source) source
    have fewer : c.advance.ahead.length < c.ahead.length := taken
    obtain ⟨raw, moved⟩ := c.moved_advance
    simp only [take_bind]
    exact AgreeBelow.bind same (fun inner => .refl _) _ (moved.eof ▸ eof) (by omega)
  · rfl

/-- Any limit above the number of tokens ahead is as good as another. -/
theorem tableSources_agree {n limit limit' : Nat} (enough : n ≤ limit) (enough' : n ≤ limit') :
    AgreeBelow n (tableSources sub limit) (tableSources sub limit') := by
  induction n generalizing limit limit' with
  | zero => exact fun _ _ few => absurd few (Nat.not_lt_zero _)
  | succ n ih =>
    obtain ⟨limit, rfl⟩ := Nat.exists_eq_add_one_of_ne_zero (Nat.ne_zero_of_lt enough)
    obtain ⟨limit', rfl⟩ := Nat.exists_eq_add_one_of_ne_zero (Nat.ne_zero_of_lt enough')
    have inner := ih (Nat.le_of_succ_le_succ enough) (Nat.le_of_succ_le_succ enough')
    have source : AgreeBelow (n + 1) (tableSource sub (tableSources sub limit))
        (tableSource sub (tableSources sub limit')) :=
      .bind (tableOrJoin_agree sub inner) fun table => .refl _
    have chain : AgreeBelow (n + 1) (joinChain sub (tableSource sub (tableSources sub limit)))
        (joinChain sub (tableSource sub (tableSources sub limit'))) := by
      refine .bind source fun first => .loop (fun left => ?_) first
      refine .bind (.refl _) fun operator => ?_
      cases operator with
      | none => exact .refl _
      | some operator => exact .bind source fun right => .refl _
    unfold tableSources
    exact .bind (.commaSeparated chain) fun read => .refl _

theorem fromSources_eq {c : Cursor} (eof : c.eof.isEof = true) {limit : Nat}
    (enough : c.ahead.length < limit) : fromSources sub c = tableSources sub limit c :=
  tableSources_agree sub (Nat.le_refl _) enough c eof (Nat.lt_succ_self _)

end Expressions

/-! ### Runs of tokens -/

/-- Goes on with a token of a raw statement whose tokens before it are given, with the numbers of
parentheses and of `CASE`s that are open. -/
def tailStep : List Token × Nat × Nat → Token → Option (List Token × Nat × Nat)
  | (before, parens, cases), t =>
    match t.kind, parens, cases with
    | .error _, _, _ => none
    | .semicolon, 0, _ => none
    | .leftParen, parens, cases => some (before ++ [t], parens + 1, cases)
    | .rightParen, 0, _ => none
    | .rightParen, parens + 1, cases => some (before ++ [t], parens, cases)
    | .word (.keyword .CASE), 0, cases => some (before ++ [t], 0, cases + 1)
    | .word (.keyword .END), 0, cases + 1 => some (before ++ [t], 0, cases)
    | .word _, 0, 0 => if endsStatement before t then none else some (before ++ [t], 0, 0)
    | _, parens, cases => some (before ++ [t], parens, cases)

theorem statementExtent_eq (before : List Token) (parens cases : Nat) (ts : List Token) :
    statementExtent before parens cases ts = scanLength tailStep (before, parens, cases) ts := by
  fun_induction statementExtent before parens cases ts <;> simp_all [scanLength, tailStep]

theorem statementExtent_le (before : List Token) (parens cases : Nat) (ts : List Token) :
    statementExtent before parens cases ts ≤ ts.length := by
  rw [statementExtent_eq]
  exact scanLength_le _ _ _

/-- Goes on with an option of a routine. The state tells whether `EXECUTE` stands before it. -/
def optionStep (afterExecute : Bool) (t : Token) : Option Bool :=
  if t.isError || t.kind == .semicolon || (t.isKeyword .AS && !afterExecute)
      || t.isAnyKeyword [.FOR, .BEGIN, .RETURN] then none
  else some (t.isAnyKeyword [.EXEC, .EXECUTE])

theorem optionsExtent_eq (afterExecute : Bool) (ts : List Token) :
    optionsExtent afterExecute ts = scanLength optionStep afterExecute ts := by
  fun_induction optionsExtent afterExecute ts with
  | case1 => rfl
  | case2 afterExecute t ts ends => simp only [scanLength, optionStep, if_pos ends]
  | case3 afterExecute t ts goesOn ih => simp only [scanLength, optionStep, if_neg goesOn, ih]

theorem optionsExtent_le (afterExecute : Bool) (ts : List Token) :
    optionsExtent afterExecute ts ≤ ts.length := by
  rw [optionsExtent_eq]
  exact scanLength_le _ _ _

end Grammar

instance Parser.expr_consumes (depth : Nat) (min : Precedence) : Consumes (Parser.expr depth min) := by
  cases depth with
  | zero => exact ⟨fun _ h => absurd h fail_ok⟩
  | succ depth =>
    unfold Parser.expr
    infer_instance

/-! ### Statements -/

namespace Grammar

section Statements

variable (expr : Precedence → Parser Expr) [∀ min, Framed (expr min)] [∀ min, Consumes (expr min)]
variable (statement : Parser Statement) [Framed statement]

instance (min : Precedence) : Consumes (value expr min) := by unfold value; infer_instance

instance : Consumes (expressionStatement expr) := by unfold expressionStatement; infer_instance

instance : Consumes (declare expr) := by unfold declare; infer_instance

instance : Consumes (block statement) := by unfold block; infer_instance

theorem beginStatement_shortens {c d : Cursor} {s : Statement} (eof : c.eof.isEof = true)
    (source : c.current.isSource = true) (h : beginStatement statement c = .ok s d) :
    c.Shortens d := by
  unfold beginStatement at h
  simp only [lookahead_bind] at h
  generalize c.lookahead.keyword? = k at h
  split at h
  case h_7 =>
    obtain ⟨b, e, run, h⟩ := bind_ok h
    cases h
    exact Consumes.shortens eof run
  all_goals exact shortens_of_take eof source h

theorem wordStatement_shortens {c d : Cursor} {s : Statement} (eof : c.eof.isEof = true)
    (source : c.current.isSource = true) (h : wordStatement expr statement c.current c = .ok s d) :
    c.Shortens d := by
  unfold wordStatement at h
  simp only [lookahead_bind] at h
  generalize c.current.keyword? = k at h
  split at h
  case h_1 => exact beginStatement_shortens statement eof source h
  case h_9 | h_12 => exact Consumes.shortens eof h
  case h_13 =>
    split at h
    · exact shortens_of_take eof source h
    · exact absurd h fail_ok
  case h_14 => exact absurd h fail_ok
  case h_15 =>
    split at h
    · exact shortens_of_take eof source h
    · split at h
      · exact shortens_of_take eof source h
      · exact absurd h failExpected_ok
  case h_10 | h_11 =>
    unfold create at h
    refine @shortens_of_take _ _ (fun first => .bind inferInstance fun tokens => .bind inferInstance
      fun token => ?_) _ _ _ eof source h
    split <;> infer_instance
  all_goals exact shortens_of_take eof source h

instance : Consumes (anyStatement expr statement) where
  shortens {c d s} eof h := by
    unfold anyStatement at h
    simp only [current_bind] at h
    generalize here : c.current.kind = k at h
    have source : k.isSource = true → c.current.isSource = true :=
      fun text => Token.isSource_of_kind_eq text here
    split at h
    case h_1 => exact shortens_of_take eof (source rfl) h
    case h_2 => exact Consumes.shortens eof h
    case h_3 => exact wordStatement_shortens expr statement eof (source rfl) h
    case h_4 => exact absurd h failAtError_ok
    case h_5 => exact absurd h failExpected_ok

/-- A block that is recovered takes all tokens. -/
theorem blockRecovering_shortens {c d : Cursor} {b : Block} (eof : c.eof.isEof = true)
    (source : c.current.isSource = true) (h : blockRecovering statement c = .ok b d) :
    c.Shortens d := by
  obtain ⟨t, rest, ahead, _⟩ :=
    Cursor.exists_cons_of_isSource (Cursor.ready_of_isSource eof source) source
  unfold blockRecovering recovering at h
  obtain ⟨e, rfl, inside⟩ := recording_ok h
  rw [attempt_bind] at inside
  change e.ahead.length < c.ahead.length
  cases run : block statement c.beginRecording with
  | ok b' f =>
    rw [run] at inside
    cases inside
    have taken : c.beginRecording.Shortens _ := Consumes.shortens eof run
    exact taken
  | error x f =>
    rw [run] at inside
    cases x with
    | grammar y =>
      obtain ⟨⟨tokens, terminator⟩, g, read, recovered⟩ := bind_ok inside
      obtain ⟨_, g', read', all⟩ := readToEnd_ahead f
      rw [read] at read'
      cases read'
      obtain ⟨raw, moved⟩ := Framed.ok recovered
      have none := moved.length_le
      rw [all] at none
      rw [ahead]
      exact Nat.lt_of_le_of_lt none (Nat.succ_pos _)
    | _ => exact absurd inside throw_ok

variable [Consumes statement]

instance : Advances (moreStatements statement) where
  shortens {ss next c d} eof h := by
    unfold moreStatements at h
    simp only [atEnd_bind] at h
    split at h
    · cases h
    · obtain ⟨s, e, run, h⟩ := bind_ok h
      exact (Consumes.shortens eof run).then h

instance : Advances (moreBlockStatements statement) where
  shortens {ss next c d} eof h := by
    unfold moreBlockStatements atBlockEnd at h
    simp only [atEnd_bind, bind_assoc, current_bind, lookahead_bind, pure_bind'] at h
    split at h
    · cases h
    · obtain ⟨s, e, run, h⟩ := bind_ok h
      exact (Consumes.shortens eof run).then h

end Statements

end Grammar

namespace Parser

instance statement_consumes (depth : Nat) : Consumes (statement depth) := by
  cases depth with
  | zero => exact ⟨fun _ h => absurd h fail_ok⟩
  | succ depth =>
    unfold statement
    infer_instance

instance topStatement_consumes (depth : Nat) : Consumes (topStatement depth) where
  shortens {c d s} eof h := by
    unfold topStatement Grammar.atBlock at h
    simp only [bind_assoc, current_bind, lookahead_bind, pure_bind'] at h
    split at h
    · next opens =>
      rw [Bool.and_eq_true] at opens
      obtain ⟨b, e, run, h⟩ := bind_ok h
      cases h
      exact Grammar.blockRecovering_shortens _ eof (Token.isSource_of_isKeyword opens.1) run
    · exact Consumes.shortens eof h

/-- What a parser of the given depth does at a cursor ends, and by itself: expressions, statements
and operators take tokens, loops run as if no bound were set, and what is taken in a run is what
such a loop takes token by token. -/
structure Progresses (depth : Nat) (c : Cursor) : Prop where
  expr : ∀ {min e d}, Parser.expr depth min c = .ok e d → c.Shortens d
  statement : ∀ {s d}, Parser.statement depth c = .ok s d → c.Shortens d
  topStatement : ∀ {s d}, Parser.topStatement depth c = .ok s d → c.Shortens d
  operator : ∀ {min left e d},
    Grammar.applyOperator (Parser.expr depth) min left c = .ok (some e) d → c.Shortens d
  operators : ∀ min left,
    Repeats (Grammar.applyOperator (Parser.expr depth) min) left c
      (loop (Grammar.applyOperator (Parser.expr depth) min) left c)
  statements : ∀ ss,
    Repeats (Grammar.moreStatements (Parser.statement depth)) ss c
      (loop (Grammar.moreStatements (Parser.statement depth)) ss c)
  blockBody : ∀ ss,
    Repeats (Grammar.moreBlockStatements (Parser.statement depth)) ss c
      (loop (Grammar.moreBlockStatements (Parser.statement depth)) ss c)
  commaList : ∀ {α : Type} (item : Parser α) [Framed item] read,
    Repeats (commaItem item) read c (loop (commaItem item) read c)
  names : ∀ parts, Repeats Grammar.namePart parts c (loop Grammar.namePart parts c)
  whens : ∀ ws,
    Repeats (Grammar.moreWhens (Parser.expr depth)) ws c
      (loop (Grammar.moreWhens (Parser.expr depth)) ws c)
  joins : ∀ (source : Parser Expr) [Framed source] left,
    Repeats (Grammar.joinStep (Parser.expr depth) source) left c
      (loop (Grammar.joinStep (Parser.expr depth) source) left c)
  /-- The number of parentheses around joins is not bounded either. -/
  parentheses : ∀ {limit}, c.ahead.length < limit →
    Grammar.fromSources (Parser.expr depth) c = Grammar.tableSources (Parser.expr depth) limit c
  statementTail : ∀ before,
    TakesByRounds Grammar.tailStep (before, 0, 0) (Grammar.statementTail before) c
  rawTokens : ∀ stop,
    TakesByRounds (passing fun t => !(t.isError || t.kind == .semicolon || stop t)) ()
      (takeRun (rawExtent stop)) c
  options : TakesByRounds Grammar.optionStep false (takeRun (Grammar.optionsExtent false)) c
  modifiers : TakesByRounds (passing (·.isAnyKeyword [.OUT, .OUTPUT, .READONLY])) ()
    Grammar.modifiers c
  dots : TakesByRounds (passing (·.kind == .dot)) ()
    (takeRun fun ts => (ts.takeWhile (·.kind == .dot)).length) c
  closing : (∃ read d, readToCloseParen c = .ok read d ∧ c.Shortens d) ∨
    ∃ e d, readToCloseParen c = .error e d ∧ d.ahead = []
  ending : ∃ read d, readToEnd c = .ok read d ∧ d.ahead = []

theorem progresses (depth : Nat) {c : Cursor} (eof : c.eof.isEof = true) : Progresses depth c where
  expr h := Consumes.shortens eof h
  statement h := Consumes.shortens eof h
  topStatement h := Consumes.shortens eof h
  operator h := Advances.shortens eof h
  operators _ left := loop_repeats _ left eof
  statements ss := loop_repeats _ ss eof
  blockBody ss := loop_repeats _ ss eof
  commaList _ _ read := loop_repeats _ read eof
  names parts := loop_repeats _ parts eof
  whens ws := loop_repeats _ ws eof
  joins _ _ left := loop_repeats _ left eof
  parentheses enough := Grammar.fromSources_eq _ eof enough
  statementTail before := takeRun_takesByRounds (funext (Grammar.statementExtent_eq before 0 0))
  rawTokens _ := takeRun_takesByRounds (funext (length_takeWhile_eq_scanLength _))
  options := takeRun_takesByRounds (funext (Grammar.optionsExtent_eq false))
  modifiers := takeRun_takesByRounds (funext (length_takeWhile_eq_scanLength _))
  dots := takeRun_takesByRounds (funext (length_takeWhile_eq_scanLength _))
  closing := readToCloseParen_ahead eof
  ending := readToEnd_ahead c

/-! ### Statements have tokens -/

/-- The tokens a statement takes stand in its tree. -/
theorem statement_tokens_ne_nil {depth : Nat} {c d : Cursor} {s : Statement} (ready : c.Ready)
    (h : statement depth c = .ok s d) : s.tree.tokens ≠ [] := by
  obtain ⟨⟨raw, moved, read⟩, _, _⟩ := Yields.reads ready h
  have taken : d.ahead.length < c.ahead.length := Consumes.shortens ready.eof h
  rw [moved.ahead, List.length_append, read.length_eq] at taken
  intro none
  simp [none] at taken

/-- Statements that have been read: each has a token, and each has taken one of `n` tokens. -/
def ReadStatements (n : Nat) (ss : List Statement) (c : Cursor) : Prop :=
  (∀ s ∈ ss, s.tree.tokens ≠ []) ∧ ss.length + c.ahead.length ≤ n ∧ c.Ready

theorem moreStatements_counts {depth n : Nat} {ss : List Statement} {c d : Cursor}
    {next : Option (List Statement)} (read : ReadStatements n ss c)
    (h : Grammar.moreStatements (statement depth) ss c = .ok next d) :
    ReadStatements n (next.getD ss) d := by
  obtain ⟨tokens, count, ready⟩ := read
  unfold Grammar.moreStatements at h
  simp only [atEnd_bind] at h
  split at h
  · cases h
    exact ⟨tokens, count, ready⟩
  · obtain ⟨s, e, run, h⟩ := bind_ok h
    cases h
    have taken : d.ahead.length < c.ahead.length := Consumes.shortens ready.eof run
    refine ⟨?_, ?_, (Yields.reads ready run).ready⟩
    · intro u member
      rcases List.mem_append.mp member with before | last
      · exact tokens u before
      · rw [List.mem_singleton.mp last]
        exact statement_tokens_ne_nil ready run
    · simp only [Option.getD_some, List.length_append, List.length_singleton]
      omega

theorem statements_counts {depth : Nat} {c d : Cursor} {ss : List Statement} (ready : c.Ready)
    (h : statements depth c = .ok ss d) :
    (∀ s ∈ ss, s.tree.tokens ≠ []) ∧ ss.length + d.ahead.length ≤ c.ahead.length := by
  have start : ReadStatements c.ahead.length [] c := ⟨by simp, by simp, ready⟩
  obtain ⟨tokens, count, _⟩ := loop_invariant (ReadStatements _) moreStatements_counts start h
  exact ⟨tokens, count⟩

end Parser

/-- The parsers of every depth make progress on every token list, and the runs of tokens they keep
are as long as what they pass over. So a script has no more statements than tokens. -/
theorem parsers_progress (depth : Nat) :
    (∀ c : Cursor, c.eof.isEof = true → Progresses depth c) ∧
    (∀ ts : List Token, (Cursor.ofTokens ts).eof.isEof = true) ∧
    (∀ before, TakesRuns (Grammar.statementTail before)) ∧
    (∀ stop, TakesRuns (takeRun (rawExtent stop))) ∧
    TakesRuns (takeRun (Grammar.optionsExtent false)) ∧ TakesRuns Grammar.modifiers ∧
    (∀ {ts ss d}, Parser.statements depth (.ofTokens ts) = .ok ss d →
      (∀ s ∈ ss, s.tree.tokens ≠ []) ∧ ss.length + d.ahead.length ≤ ts.length) ∧
    (∀ {text ss}, parseScript text = .ok ss →
      (∀ s ∈ ss, s.tree.tokens ≠ []) ∧ ss.length ≤ (lex text).dropLast.length) := by
  refine ⟨fun c eof => progresses depth eof, Cursor.isEof_ofTokens, ?_, ?_, ?_, ?_, ?_, ?_⟩
  · exact fun before => takesRuns_takeRun (Grammar.statementExtent_le before 0 0)
  · exact fun stop => takesRuns_takeRun (length_takeWhile_le _)
  · exact takesRuns_takeRun (Grammar.optionsExtent_le false)
  · exact takesRuns_takeRun (length_takeWhile_le _)
  · intro ts ss d h
    obtain ⟨tokens, count⟩ := Parser.statements_counts ⟨rfl, Cursor.isEof_ofTokens ts⟩ h
    have ahead : (Cursor.ofTokens ts).ahead.length ≤ ts.length := length_takeWhile_le _ ts
    exact ⟨tokens, Nat.le_trans count ahead⟩
  · intro text ss h
    obtain ⟨c, d, run, _⟩ := Parser.parseAll_ok h
    obtain ⟨ahead, ready⟩ := Cursor.ofText_eq text
    obtain ⟨tokens, count⟩ := Parser.statements_counts ready run
    rw [ahead] at count
    exact ⟨tokens, Nat.le_of_add_right_le count⟩

theorem Parser.exists_of_matches {p : Parser α} {c : Cursor} (h : (p c matches .ok _ _) = true) :
    ∃ a d, p c = .ok a d := by
  cases run : p c with
  | ok a d => exact ⟨a, d, rfl⟩
  | error e d =>
    rw [run] at h
    cases h

/-- A script with raw and parenthesised parts, two keywords, and a list of malformed tokens. -/
theorem parsers_progress_script :
    (∃ ss, parseScript "IF @a = 1 BREAK; SELECT (b c) FROM (t JOIN u ON 1 = 1)" = .ok ss ∧
      (∀ s ∈ ss, s.tree.tokens ≠ []) ∧ ss.length ≤ 21) ∧
    (∃ ss d, Parser.statements 3 (.ofTokens [.word "BREAK" .zero, .word "CONTINUE" .zero]) = .ok ss d ∧
      (∀ s ∈ ss, s.tree.tokens ≠ []) ∧ ss.length + d.ahead.length ≤ 2) ∧
    Progresses 3 (.ofTokens [.error "?" .zero, .placeholder, .word "a" .zero]) := by
  obtain ⟨ss, script⟩ := exists_of_isOk
    (x := parseScript "IF @a = 1 BREAK; SELECT (b c) FROM (t JOIN u ON 1 = 1)") (by decide +kernel)
  obtain ⟨_, _, _, _, _, _, list, text⟩ := parsers_progress 3
  obtain ⟨tokens, count⟩ := text script
  have some : (lex "IF @a = 1 BREAK; SELECT (b c) FROM (t JOIN u ON 1 = 1)").dropLast.length = 21 := by
    decide +kernel
  obtain ⟨ss', d, run⟩ := Parser.exists_of_matches (p := Parser.statements 3)
    (c := .ofTokens [.word "BREAK" .zero, .word "CONTINUE" .zero]) (by decide +kernel)
  exact ⟨⟨ss, script, tokens, some ▸ count⟩, ⟨ss', d, run, list run⟩,
    (parsers_progress 3).1 _ (Cursor.isEof_ofTokens _)⟩

end TransactSql
