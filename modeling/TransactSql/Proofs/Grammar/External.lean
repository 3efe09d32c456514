import TransactSql.Proofs.Grammar.ProcedureStart
import TransactSql.Proofs.Grammar.RoutineSettling

/-!
# What is refused

A construct is refused for one reason: it is a routine, and its body is external code. Expressions
are local, so they refuse nothing. A statement refuses what the statements inside it do, unless it
is such a routine itself.
-/

namespace TransactSql

/-! ### External code among tokens -/

/-- The words of external code stand next to each other. -/
def NamesExternal (ts : List Token) : Prop :=
  ∃ a b, [a, b] <:+: ts ∧ a.isKeyword .EXTERNAL = true ∧ b.isKeyword .NAME = true

/-- A procedure or function starts, and the words of external code follow. -/
def HasExternalRoutine (ts : List Token) : Prop :=
  ∃ create routine rest, create :: routine :: rest <:+ ts ∧
    create.isAnyKeyword [.CREATE, .ALTER] = true ∧
    routine.isAnyKeyword [.PROC, .PROCEDURE, .FUNCTION] = true ∧ NamesExternal rest

/-- What holds of tokens holds with more of them in front. -/
class Persists (P : List Token → Prop) : Prop where
  of_suffix : ∀ {ts us : List Token}, ts <:+ us → P ts → P us

instance : Persists NamesExternal where
  of_suffix suffix := fun ⟨a, b, adjacent, words⟩ => ⟨a, b, adjacent.trans suffix.isInfix, words⟩

instance : Persists HasExternalRoutine where
  of_suffix suffix := fun ⟨create, routine, rest, starts, words⟩ =>
    ⟨create, routine, rest, starts.trans suffix, words⟩

theorem HasExternalRoutine.namesExternal {ts : List Token} (h : HasExternalRoutine ts) :
    NamesExternal ts := by
  obtain ⟨create, routine, rest, starts, _, _, names⟩ := h
  exact Persists.of_suffix ((List.suffix_append [create, routine] rest).trans starts) names

namespace Parser

/-- Only external code is refused, and then the tokens ahead satisfy `P`. -/
class Rejects (P : List Token → Prop) (p : Parser α) : Prop where
  external : ∀ {c d : Cursor} {what : String}, c.eof.isEof = true →
    p c = .error (.unsupported what) d → what = "CLR routine" ∧ P c.ahead

/-! ### Combinators -/

theorem Rejects.mono {P Q : List Token → Prop} {p : Parser α} (h : Rejects P p)
    (weaker : ∀ {ts}, P ts → Q ts) : Rejects Q p where
  external eof failed := (h.external eof failed).imp id weaker

section

variable {P : List Token → Prop}

instance (priority := low) (p : Parser α) [inner : Local p] : Rejects P p where
  external _ failed := absurd failed inner.supported

instance : Rejects P lookahead := ⟨fun _ => nofun⟩

instance : Rejects P atEnd := ⟨fun _ => nofun⟩

instance (first second : Keyword) : Rejects P (atKeywords first second) := ⟨fun _ => nofun⟩

instance (extent : List Token → Nat) : Rejects P (takeRun extent) := ⟨fun _ => nofun⟩

variable [persists : Persists P]

theorem Rejects.bind {p : Parser α} {f : α → Parser β} [framed : Framed p] (first : Rejects P p)
    (rest : ∀ a, Rejects P (f a)) : Rejects P (p >>= f) where
  external eof failed := by
    rcases bind_error failed with failed | ⟨a, e, run, failed⟩
    · exact first.external eof failed
    · obtain ⟨raw, moved⟩ := framed.ok run
      have inside := (rest a).external (moved.eof ▸ eof) failed
      exact ⟨inside.1, persists.of_suffix ⟨raw, moved.ahead.symm⟩ inside.2⟩

instance {p : Parser α} {f : α → Parser β} [Framed p] [first : Rejects P p]
    [rest : ∀ a, Rejects P (f a)] : Rejects P (p >>= f) := first.bind rest

omit persists in
instance {b : Prop} [Decidable b] {p q : Parser α} [Rejects P p] [Rejects P q] :
    Rejects P (if b then p else q) := by
  split <;> infer_instance

omit persists in
instance (f : Fault) (p : Parser α) [inner : Rejects P p] : Rejects P (context f p) where
  external eof failed := by
    unfold context at failed
    split at failed
    · cases failed
    · exact inner.external eof failed

omit persists in
instance (assignment : Bool) (p : Parser α) [inner : Rejects P p] :
    Rejects P (withAssignment assignment p) where
  external eof failed := by
    unfold withAssignment at failed
    split at failed
    · cases failed
    · next run =>
      cases failed
      exact inner.external (c := Cursor.setAssignment _ assignment) eof run

instance {step : σ → Parser (Option σ)} [∀ s, Framed (step s)] [steps : ∀ s, Rejects P (step s)]
    (limit : Nat) (s : σ) : Rejects P (rounds step limit s) := by
  induction limit generalizing s with
  | zero => unfold rounds; infer_instance
  | succ limit ih =>
    unfold rounds
    refine (steps s).bind fun next => ?_
    split <;> infer_instance

instance {step : σ → Parser (Option σ)} [∀ s, Framed (step s)] [∀ s, Rejects P (step s)] (s : σ) :
    Rejects P (loop step s) where
  external {c _ _} eof failed :=
    Rejects.external (p := rounds step (c.ahead.length + 1) s) eof failed

end

end Parser

namespace Grammar

open TransactSql.Parser

/-! ### Recovery -/

/-- All tokens of a recording are read, with a final `;` apart. -/
theorem readToEnd_splits {b c : Cursor} {raw : List Token} (moved : b.beginRecording.Moved raw c) :
    ∃ tokens last d, readToEnd c = .ok (tokens, last) d ∧ raw ++ c.ahead = tokens ++ last.toList ∧
      last.all (·.kind == .semicolon) = true ∧ d.ahead = [] := by
  obtain ⟨skipped, ahead, _⟩ := moved_skip_of_fault (c := c.clear) rfl c.ahead.length
  have recorded : (c.clear.skip c.ahead.length).recorded = raw ++ c.ahead := by
    rw [recorded_of_moved ((moved.trans c.moved_clear).trans skipped), List.append_nil]
    exact congrArg (raw ++ ·) List.take_length
  have rest : (c.clear.skip c.ahead.length).ahead = [] := ahead.trans List.drop_length
  unfold readToEnd
  simp only [modify_bind, get_bind, recorded]
  cases found : (raw ++ c.ahead).getLast? with
  | none => exact ⟨_, none, _, rfl, (List.append_nil _).symm, rfl, rest⟩
  | some t =>
    by_cases semicolon : t.kind = .semicolon
    · simp only [if_pos semicolon]
      refine ⟨_, some t, _, rfl, (List.dropLast_append_getLast? t found).symm, ?_, rest⟩
      simp [semicolon]
    · simp only [if_neg semicolon]
      exact ⟨_, none, _, rfl, (List.append_nil _).symm, rfl, rest⟩

/-- How a run with recovery ends: as the run without it does, or with what `recover` makes of all
the tokens, and then nothing is left to read. -/
inductive RecoveryEnd (p : Parser α) (recover : List Token → Option Token → Parser α) (c : Cursor) :
    EStateM.Result Failure Cursor α → Prop
  | read {a : α} {d : Cursor} (run : p c.beginRecording = .ok a d) :
    RecoveryEnd p recover c (.ok a d.endRecording)
  | refused {f : Failure} {d : Cursor} (run : p c.beginRecording = .error f d)
    (other : ∀ x, f ≠ .grammar x) : RecoveryEnd p recover c (.error f d.endRecording)
  | kept {x : Diagnostic} {d e f : Cursor} {a : α} {tokens : List Token} {last : Option Token}
    (run : p c.beginRecording = .error (.grammar x) d) (all : c.ahead = tokens ++ last.toList)
    (ends : last.all (·.kind == .semicolon) = true) (rest : e.ahead = [])
    (made : recover tokens last e = .ok a f) : RecoveryEnd p recover c (.ok a f.endRecording)
  | lost {x : Diagnostic} {d e f : Cursor} {failure : Failure} {tokens : List Token}
    {last : Option Token} (run : p c.beginRecording = .error (.grammar x) d)
    (all : c.ahead = tokens ++ last.toList) (ends : last.all (·.kind == .semicolon) = true)
    (made : recover tokens last e = .error failure f) :
    RecoveryEnd p recover c (.error failure f.endRecording)

theorem recovering_ends (p : Parser α) [Framed p] (recover : List Token → Option Token → Parser α)
    (c : Cursor) : RecoveryEnd p recover c (recovering p recover c) := by
  unfold recovering recording
  rw [attempt_bind]
  cases run : p c.beginRecording with
  | ok a d => exact .read run
  | error f d =>
    cases f with
    | grammar x =>
      obtain ⟨raw, moved⟩ := Framed.error run
      obtain ⟨tokens, last, e, read, all, ends, rest⟩ := readToEnd_splits moved
      have ahead : c.ahead = tokens ++ last.toList := moved.ahead.trans all
      dsimp only
      rw [bind_of_ok _ read]
      dsimp only
      cases made : recover tokens last e with
      | ok a f => exact .kept run ahead ends rest made
      | error failure f => exact .lost run ahead ends made
    | _ => exact .refused run (by simp)

variable {P : List Token → Prop}

/-- Recovery starts with a fault and makes statements of tokens, so what is refused has been refused
before. -/
instance {p : Parser α} [Framed p] [inner : Rejects P p]
    {recover : List Token → Option Token → Parser α}
    [recovers : ∀ tokens last, Local (recover tokens last)] : Rejects P (recovering p recover) where
  external {c d what} eof failed := by
    have ending := recovering_ends p recover c
    rw [failed] at ending
    cases ending with
    | refused run other => exact inner.external (c := c.beginRecording) eof run
    | lost run all ends made => exact absurd made (recovers _ _).supported

instance (tokens : List Token) (terminator : Token) : Local (rawStatement tokens terminator) := by
  unfold rawStatement; infer_instance

instance (tokens : List Token) : Local (recoveredStatements tokens) := by
  unfold recoveredStatements; infer_instance

instance (tokens : List Token) (terminator : Option Token) :
    Local (recoveredBlock tokens terminator) := by
  unfold recoveredBlock
  split <;> infer_instance

instance (tokens : List Token) (terminator : Option Token) :
    Local (recoveredBody tokens terminator) := by
  unfold recoveredBody; infer_instance

section Statements

variable (expr : Precedence → Parser Expr) [∀ min, Framed (expr min)] [∀ min, Local (expr min)]
  (statement : Parser Statement) [Framed statement] [inner : Rejects P statement] [Persists P]

/-! ### Blocks -/

instance (ss : List Statement) : Rejects P (moreStatements statement ss) := by
  unfold moreStatements; infer_instance

instance : Rejects P (statements statement) := by unfold statements; infer_instance

instance (ss : List Statement) : Rejects P (moreBlockStatements statement ss) := by
  unfold moreBlockStatements atBlockEnd; infer_instance

instance : Rejects P (blockBody statement) := by unfold blockBody; infer_instance

instance : Rejects P terminator := by unfold terminator; infer_instance

instance : Rejects P (block statement) := by unfold block; infer_instance

instance : Rejects P (blockRecovering statement) := by unfold blockRecovering; infer_instance

instance : Rejects P (procedureBody statement) := by unfold procedureBody; infer_instance

/-! ### Statements without statements in them -/

instance : Rejects P (varDecl expr) := by
  unfold varDecl
  refine .bind inferInstance fun name => .bind inferInstance fun asToken => ?_
  refine .bind inferInstance fun type => .bind inferInstance fun eq => ?_
  split <;> infer_instance

instance : Rejects P updateClause := by unfold updateClause; infer_instance

instance (declareToken : Token) : Rejects P (declareCursor expr declareToken) := by
  unfold declareCursor
  iterate 6 refine .bind inferInstance fun _ => ?_
  infer_instance

instance (item : Parser α) [Framed item] [Rejects P item] (read : List α × List Token) :
    Rejects P (commaItem item read) := by
  unfold commaItem
  refine .bind inferInstance fun comma => ?_
  split <;> infer_instance

instance (item : Parser α) [Framed item] [Rejects P item] : Rejects P (commaSeparated item) := by
  unfold commaSeparated commaTail; infer_instance

instance : Rejects P (declare expr) := by
  unfold declare
  refine .bind inferInstance fun declareToken => .bind inferInstance fun token => ?_
  split <;> infer_instance

instance (before : List Token) : Rejects P (unmodeledFrom before) := by
  unfold unmodeledFrom; infer_instance

instance : Rejects P unmodeled := by unfold unmodeled; infer_instance

instance : Rejects P (expressionStatement expr) := by unfold expressionStatement; infer_instance

instance : Rejects P beginTransaction := by unfold beginTransaction; infer_instance

instance : Rejects P loopControl := by unfold loopControl; infer_instance

instance : Rejects P (returnValue expr) := by unfold returnValue optionalValue; infer_instance

instance : Rejects P goto := by unfold goto; infer_instance

instance : Rejects P label := by unfold label; infer_instance

instance (setToken : Token) : Rejects P (setVariable expr setToken) := by
  unfold setVariable
  refine .bind inferInstance fun next => ?_
  dsimp only
  split <;> infer_instance

instance (setToken : Token) : Rejects P (setOption setToken) := by unfold setOption; infer_instance

instance : Rejects P (set expr) := by unfold set; infer_instance

instance (what : String) : Rejects P (queryBody expr what) := by unfold queryBody; infer_instance

instance : Rejects P viewColumns := by
  unfold viewColumns columnNames
  refine .bind inferInstance fun lparen => ?_
  split <;> infer_instance

instance : Rejects P checkOption := by unfold checkOption; infer_instance

instance (create : List Token) : Rejects P (view expr create) := by unfold view; infer_instance

/-! ### Statements with statements in them -/

instance (first second : Keyword) : Rejects P (keywordPair first second) := by
  unfold keywordPair; infer_instance

instance : Rejects P (tryCatch statement) := by unfold tryCatch; infer_instance

instance : Rejects P (beginStatement statement) := by
  unfold beginStatement
  refine .bind inferInstance fun next => ?_
  split <;> infer_instance

instance : Rejects P (elseBranch statement) := by
  unfold elseBranch
  refine .bind inferInstance fun word => ?_
  split <;> infer_instance

instance : Rejects P (ifElse expr statement) := by unfold ifElse; infer_instance

instance : Rejects P (whileLoop expr statement) := by unfold whileLoop; infer_instance

end Statements

/-! ### Routines -/

/-- A routine is refused for the words that stand where its body starts. -/
instance : Rejects NamesExternal rejectExternal where
  external {c d what} eof failed := by
    unfold rejectExternal at failed
    rw [atKeywords_bind] at failed
    split at failed
    · next both =>
      rw [Bool.and_eq_true] at both
      cases failed
      have ready := Cursor.ready_of_isSource eof (Token.isSource_of_isKeyword both.1)
      obtain ⟨a, b, rest, ahead, isExternal, isName⟩ :=
        exists_ahead_of_keywords ready.stands both.1 both.2
      exact ⟨rfl, a, b, ahead ▸ (List.prefix_append [a, b] rest).isInfix, isExternal, isName⟩
    · cases failed

theorem namesExternal_of_cons {t : Token} {ts : List Token} (names : NamesExternal (t :: ts))
    (other : t.isKeyword .EXTERNAL = false) : NamesExternal ts := by
  obtain ⟨a, b, adjacent, isExternal, isName⟩ := names
  rcases List.infix_cons_iff.mp adjacent with here | later
  · obtain ⟨rfl, _⟩ := List.cons_prefix_cons.mp here
    rw [other] at isExternal
    cases isExternal
  · exact ⟨a, b, later, isExternal, isName⟩

/-- Right before the word that tells the object stands a `CREATE` or an `ALTER`. -/
theorem orAlter_ahead {c d : Cursor} {words : List Token} (eof : c.eof.isEof = true)
    (isCreate : c.current.isAnyKeyword [.CREATE, .ALTER] = true)
    (h : orAlter c.current c.advance = .ok words d) :
    ∃ before last, c.ahead = before ++ last :: d.ahead ∧
      last.isAnyKeyword [.CREATE, .ALTER] = true ∧ d.eof.isEof = true := by
  have source := Token.isSource_of_isAnyKeyword isCreate
  have ready := Cursor.ready_of_isSource eof source
  obtain ⟨t, rest, ahead, current⟩ := Cursor.exists_cons_of_isSource ready source
  rw [current, Cursor.isAnyKeyword_normalize] at isCreate
  have ready' := (Cursor.reads_advance ready source).ready
  have ahead' : c.advance.ahead = rest := by rw [Cursor.advance_eq ready ahead]
  unfold orAlter at h
  rw [atKeywords_bind] at h
  split at h
  · next words =>
    simp only [Bool.and_eq_true] at words
    obtain ⟨a, b, more, both, _, isAlter⟩ :=
      exists_ahead_of_keywords ready'.stands words.2.1 words.2.2
    rw [take_bind, take_bind] at h
    cases h
    have ready'' := (Cursor.reads_advance ready' (Token.isSource_of_isKeyword words.2.1)).ready
    have second : c.advance.advance.ahead = b :: more := by rw [Cursor.advance_eq ready' both]
    have third : c.advance.advance.advance.ahead = more := by rw [Cursor.advance_eq ready'' second]
    refine ⟨[t, a], b, ?_, ?_, ?_⟩
    · rw [third, ahead, ← ahead', both]
      rfl
    · simp [Token.isAnyKeyword, Token.keyword?_eq_some_iff.mpr (Token.isKeyword_iff.mp isAlter)]
    · obtain ⟨raw, moved⟩ := c.advance.advance.moved_advance
      exact moved.eof ▸ ready''.eof
  · cases h
    exact ⟨[], t, by rw [ahead, ahead', List.nil_append], isCreate, ready'.eof⟩

section Routines

variable (expr : Precedence → Parser Expr) [∀ min, Framed (expr min)] [∀ min, Local (expr min)]
  (statement : Parser Statement) [Framed statement]

instance (first second : Keyword) : Rejects NamesExternal (optionalPair first second) := by
  unfold optionalPair; infer_instance

instance [Rejects NamesExternal statement] (create : List Token) :
    Rejects NamesExternal (procedure expr statement create) := by
  unfold procedure; infer_instance

instance [Rejects NamesExternal statement] : Rejects NamesExternal (functionBody statement) := by
  unfold functionBody; infer_instance

instance (create : List Token) : Rejects NamesExternal (functionSignature expr create) := by
  unfold functionSignature; infer_instance

instance (signature : FunctionSignature) :
    Rejects NamesExternal (inlineFunction expr signature) := by
  unfold inlineFunction; infer_instance

instance [Rejects NamesExternal statement] (signature : FunctionSignature) :
    Rejects NamesExternal (tableFunction statement signature) := by
  unfold tableFunction; infer_instance

instance [Rejects NamesExternal statement] (signature : FunctionSignature) :
    Rejects NamesExternal (scalarFunction expr statement signature) := by
  unfold scalarFunction; infer_instance

instance [Rejects NamesExternal statement] (create : List Token) :
    Rejects NamesExternal (function expr statement create) := by
  unfold function; infer_instance

variable [refuses : Rejects HasExternalRoutine statement]

theorem create_refuses {c d : Cursor} {what : String} (eof : c.eof.isEof = true)
    (isCreate : c.current.isAnyKeyword [.CREATE, .ALTER] = true)
    (failed : create expr statement c = .error (.unsupported what) d) :
    what = "CLR routine" ∧ HasExternalRoutine c.ahead := by
  have inside := refuses.mono HasExternalRoutine.namesExternal
  unfold create at failed
  rw [take_bind] at failed
  rcases bind_error failed with impossible | ⟨more, e, words, failed⟩
  · exact absurd impossible Local.supported
  rw [current_bind] at failed
  obtain ⟨before, last, ahead, isLast, eof'⟩ := orAlter_ahead eof isCreate words
  have whole : e.ahead <:+ c.ahead := ⟨before ++ [last], by simp [ahead]⟩
  have routine : e.current.isAnyKeyword [.PROC, .PROCEDURE, .FUNCTION] = true →
      NamesExternal e.ahead → HasExternalRoutine c.ahead := by
    intro isRoutine names
    have source := Token.isSource_of_isAnyKeyword isRoutine
    obtain ⟨t, rest, here, current⟩ :=
      Cursor.exists_cons_of_isSource (Cursor.ready_of_isSource eof' source) source
    rw [current, Cursor.isAnyKeyword_normalize] at isRoutine
    rw [here] at names ahead
    refine ⟨last, t, rest, ⟨before, ahead.symm⟩, isLast, isRoutine, namesExternal_of_cons names ?_⟩
    cases isExternal : t.isKeyword .EXTERNAL with
    | false => rfl
    | true =>
      have word := Token.keyword?_eq_some_iff.mpr (Token.isKeyword_iff.mp isExternal)
      rw [Token.isAnyKeyword, word] at isRoutine
      exact absurd isRoutine (by decide)
  generalize word : e.current.keyword? = k at failed
  split at failed
  case h_1 | h_2 =>
    obtain ⟨same, names⟩ := Rejects.external (P := NamesExternal) eof' failed
    exact ⟨same, routine (by simp [Token.isAnyKeyword, word]) names⟩
  case h_3 =>
    exact (Rejects.external (P := HasExternalRoutine) eof' failed).imp id (Persists.of_suffix whole)
  case h_4 =>
    obtain ⟨same, names⟩ := Rejects.external (P := NamesExternal) eof' failed
    exact ⟨same, routine (by simp [Token.isAnyKeyword, word]) names⟩
  case h_5 =>
    exact (Rejects.external (P := HasExternalRoutine) eof' failed).imp id (Persists.of_suffix whole)

theorem wordStatement_refuses {c d : Cursor} {what : String} (eof : c.eof.isEof = true)
    (failed : wordStatement expr statement c.current c = .error (.unsupported what) d) :
    what = "CLR routine" ∧ HasExternalRoutine c.ahead := by
  unfold wordStatement at failed
  rw [lookahead_bind] at failed
  generalize word : c.current.keyword? = k at failed
  split at failed
  case h_10 | h_11 =>
    exact create_refuses expr statement eof (by simp [Token.isAnyKeyword, word]) failed
  case h_13 =>
    split at failed
    · exact Rejects.external eof failed
    · exact absurd failed Local.supported
  case h_15 =>
    split at failed
    · exact Rejects.external eof failed
    · split at failed
      · exact Rejects.external eof failed
      · exact absurd failed Local.supported
  all_goals exact Rejects.external eof failed

instance : Rejects HasExternalRoutine (anyStatement expr statement) where
  external {c d what} eof failed := by
    unfold anyStatement at failed
    rw [current_bind] at failed
    generalize c.current.kind = k at failed
    split at failed
    case h_1 => exact absurd failed Local.supported
    case h_2 => exact Rejects.external eof failed
    case h_3 => exact wordStatement_refuses expr statement eof failed
    case h_4 => exact absurd failed Local.supported
    case h_5 => exact absurd failed Local.supported

end Routines

end Grammar

instance (depth : Nat) : Parser.Rejects HasExternalRoutine (Parser.statement depth) := by
  induction depth with
  | zero => unfold Parser.statement; infer_instance
  | succ depth ih => unfold Parser.statement; infer_instance

end TransactSql
