import TransactSql.Proofs.Binding.Arrival
import TransactSql.Proofs.Grammar.Contexts
import TransactSql.Proofs.Likeness.Indifference

/-!
# Values behind an assigning sign

A `DECLARE` reads the initial value of a variable in comparison context. A `SET` reads the value of
its variable where `=` is an assignment, so it reads the same value only where the context makes no
difference: up to the first comparison `=` that is not enclosed.
-/

namespace TransactSql

open TransactSql.Parser

namespace Cursor

variable {c : Cursor}

theorem current_of_ended (ready : c.Ready) (ended : c.ahead = []) : c.current.kind = .eof := by
  have kind : c.eof.kind = .eof := eq_of_beq ready.eof
  rw [current_eq ready, rawCurrent, ended]
  exact (congrArg Token.kind (c.normalize_eq (by simp [kind]))).trans kind

theorem passes_ofTokens_append {ts : List Token} (us : List Token)
    (others : ∀ t ∈ ts, t.isEof = false) : (ofTokens (ts ++ us)).Passes ts (ofTokens us) := by
  have running : ∀ t ∈ ts, (!t.isEof) = true := fun t member => by simp [others t member]
  refine ⟨⟨?_, rfl, rfl, ?_⟩, ⟨rfl, isEof_ofTokens _⟩, rfl, rfl⟩
  · exact List.takeWhile_append_of_pos running
  · have none : ts.find? Token.isEof = none :=
      List.find?_eq_none.mpr fun t member => by simp [others t member]
    simp [ofTokens, List.find?_append, none]

end Cursor

namespace Parser

/-- A loop does what another does until it stops, and stops there too. -/
theorem rounds_of_rounds {step step' : σ → Parser (Option σ)} (done : Cursor → Prop)
    (go : ∀ {s t c d}, step s c = .ok (some t) d → step' s c = .ok (some t) d)
    (stop : ∀ {s c d}, step s c = .ok none d → done d → step' s c = .ok none d) {limit : Nat}
    {s t : σ} {c d : Cursor} (h : rounds step limit s c = .ok t d) (ended : done d) :
    rounds step' limit s c = .ok t d := by
  induction limit generalizing s c with
  | zero => exact h
  | succ limit ih =>
    unfold rounds at h ⊢
    obtain ⟨next, e, round, h⟩ := bind_ok h
    cases next with
    | none =>
      obtain ⟨rfl, rfl⟩ := pure_ok h
      rw [bind_of_ok _ (stop round ended)]
      rfl
    | some u =>
      rw [bind_of_ok _ (go round)]
      exact ih h

end Parser

namespace Grammar

variable {sub : Precedence → Parser Expr} {min min' : Precedence} {left e : Expr} {c d : Cursor}

theorem applyOperator_weaker (weaker : min' ≤ min) (h : applyOperator sub min left c = .ok (some e) d) :
    applyOperator sub min' left c = .ok (some e) d := by
  unfold applyOperator at h ⊢
  rw [current_bind] at h ⊢
  split at h
  · next tighter =>
    rw [if_pos (Precedence.lt_of_le_of_lt weaker tighter)]
    exact h
  · cases h

/-- Before a token that is no operator none is applied. -/
theorem applyOperator_stops (h : applyOperator sub min left c = .ok none d)
    (ended : d.current.precedence = .none) : applyOperator sub min' left c = .ok none d := by
  have stays : d = c := by
    unfold applyOperator at h
    rw [current_bind] at h
    split at h
    · rw [lookahead_bind] at h
      cases found : operator? sub left c.current c.lookahead with
      | some operator =>
        rw [found] at h
        obtain ⟨_, _, _, h⟩ := bind_ok h
        cases h
      | none =>
        rw [found] at h
        cases h
        rfl
    · cases h
      rfl
  subst stays
  have weak : ¬ min' < Precedence.none := Nat.not_lt_zero _
  unfold applyOperator
  rw [current_bind, ended, if_neg weak]
  rfl

end Grammar

/-- What is read up to the end of the tokens is read also by a lesser power. -/
theorem Parser.expr_weaker {depth : Nat} {min min' : Precedence} {v : Expr} {c d : Cursor}
    (weaker : min' ≤ min) (h : expr depth min c = .ok v d) (ended : d.current.kind = .eof) :
    expr depth min' c = .ok v d := by
  have precedence : d.current.precedence = .none := by
    rw [Token.precedence, ended]
    rfl
  cases depth with
  | zero => exact absurd h fail_ok
  | succ depth =>
    unfold expr Grammar.expression at h ⊢
    obtain ⟨first, e, run, h⟩ := bind_ok h
    rw [bind_of_ok _ run]
    exact rounds_of_rounds (fun d => d.current.precedence = .none)
      (Grammar.applyOperator_weaker weaker) Grammar.applyOperator_stops h precedence

namespace Grammar

variable {expr : Precedence → Parser Expr} {c d e : Cursor} {v : Expr} {keyword x type eq : Token}

/-! ### At the end of the tokens -/

theorem terminator_of_eof (ended : c.current.kind = .eof) : terminator c = .ok .placeholder c := by
  unfold terminator eatKind
  rw [bind_of_ok _ (eat_of_refused (by simp [ended]))]
  rfl

theorem commaSeparated_of_eof {item : Parser α} {a : α} (read : item c = .ok a d)
    (ended : d.current.kind = .eof) : commaSeparated item c = .ok ([a], []) d := by
  have stopped : commaItem item ([a], []) d = .ok none d := by
    unfold commaItem eatKind
    rw [bind_of_ok _ (eat_of_refused (by simp [ended]))]
    rfl
  unfold commaSeparated commaTail
  rw [bind_of_ok _ read]
  exact loop_of_stopped stopped

/-! ### The declaration of a variable -/

/-- A single word before an `=` is a type without arguments. -/
theorem dataType_of_passes (plain : type.kind = .word .plain) (sign : eq.kind = .comparison .eq)
    (h : c.Passes [type, eq] d) :
    ∃ b, dataType expr c = .ok (simpleType ⟨[type]⟩) b ∧ b.Passes [eq] d := by
  have word : type.isWord = true := by simp [Token.isWord, TokenKind.isWord, plain]
  have made : Checked.name [type] = .ok ⟨[type]⟩ :=
    Shaped.ok_of_isOk (by simp [Checked.name, Checked.nameParts, plain, word])
  obtain ⟨b, behind, rest⟩ : ∃ b, c.Passes [type] b ∧ b.Passes [eq] d := Cursor.Passes.split h
  refine ⟨b, ?_, rest⟩
  have read : context (.expected "data type") name c = .ok ⟨[type]⟩ b := by
    unfold context
    rw [name_of_passes word made behind (by simp [rest.current, sign])]
  have table : c.current.isKeyword .TABLE = false := by
    simp [h.current, Token.isKeyword, Token.keyword?, TokenKind.keyword?, Word.keyword?, plain]
  unfold dataType
  rw [atKeyword_bind, table]
  simp only [Bool.false_eq_true, if_false]
  rw [bind_of_ok _ read, eatKind, bind_of_ok _ (eat_of_refused (by simp [rest.current, sign]))]
  rfl

/-- An `=` before a value is read as an assignment. -/
theorem take_assigning (h : c.Passes [eq] d) :
    take (c.setAssignment true) = .ok eq.asAssignment (d.setAssignment true) := by
  have run : take (c.setAssignment true) =
      .ok (c.setAssignment true).current (c.setAssignment true).advance := rfl
  rw [run, Cursor.current_assigning h.comparing, Cursor.advance_setAssignment, h.current,
    h.advance.eq_of_nil]

theorem assignSign_of_passes (sign : eq.kind = .comparison .eq) (h : c.Passes [eq] d) :
    assignSign c = .ok (some eq.asAssignment) d := by
  refine withAssignment_of_ok ?_ h.assignment
  have current := Cursor.current_assigning h.comparing
  rw [h.current] at current
  have accepted : (eq.asAssignment.kind == .assignment none) = true := by
    simp [Token.asAssignment, sign]
  unfold eatKind
  rw [eat_eq, current, accepted, show (c.setAssignment true).fault = none from h.ready.fault]
  simp [Cursor.advance_setAssignment, h.advance.eq_of_nil]

theorem varDecl_of_passes (variable' : x.isVariable = true) (plain : type.kind = .word .plain)
    (sign : eq.kind = .comparison .eq) (h : c.Passes [x, type, eq] d)
    (read : value expr .comma d = .ok v e) : varDecl expr c =
      .ok ⟨x, .placeholder, simpleType ⟨[type]⟩, .present eq.asAssignment v⟩ e := by
  have noAs : optionalAs c.advance = .ok .placeholder c.advance := by
    unfold optionalAs eatKeyword
    rw [bind_of_ok _ (eat_of_refused _)]
    · rfl
    · simp [h.advance.current, Token.isKeyword, Token.keyword?, TokenKind.keyword?, Word.keyword?,
        plain]
  obtain ⟨b, typed, rest⟩ := dataType_of_passes plain sign h.advance
  have isSign : eq.asAssignment.kind = .assignment none := by simp [Token.asAssignment, sign]
  unfold varDecl variableName
  rw [bind_of_ok _ (require_of_passes "variable" h variable'), bind_of_ok _ noAs, bind_of_ok _ typed,
    bind_of_ok _ (assignSign_of_passes sign rest)]
  simp only [simpleType, DataType.isTable, Bool.false_eq_true, if_false]
  rw [bind_of_ok _ read]
  exact build_of_ok (Shaped.ok_of_isOk (by
    simp [Checked.varDecl, Checked.initializer, variable', isSign, DataType.isTable,
      Token.isPlaceholder, Token.placeholder]))

theorem declare_of_passes (isDeclare : keyword.isKeyword .DECLARE = true)
    (variable' : x.isVariable = true) (plain : type.kind = .word .plain)
    (sign : eq.kind = .comparison .eq) (h : c.Passes [keyword, x, type, eq] d)
    (read : value expr .comma d = .ok v e) (ended : e.current.kind = .eof) :
    declare expr c = .ok (.declare keyword
      ⟨[⟨x, .placeholder, simpleType ⟨[type]⟩, .present eq.asAssignment v⟩], []⟩ .placeholder) e := by
  have one := varDecl_of_passes variable' plain sign h.advance read
  have made (item : VarDecl) : Checked.declarations [item] [] = .ok ⟨[item], []⟩ := rfl
  unfold declare Parser.keyword
  rw [bind_of_ok _ (require_of_passes _ h isDeclare), current_bind, h.advance.current]
  simp only [Token.isPlainIdentifier, variable', Bool.not_true, Bool.and_false, Bool.false_eq_true,
    if_false]
  rw [bind_of_ok _ (commaSeparated_of_eof one ended), bind_of_ok _ (build_of_ok (made _)),
    bind_of_ok _ (terminator_of_eof ended)]
  exact build_of_ok (Shaped.ok_of_isOk (by
    simp [Checked.declare, isDeclare, Token.isPlaceholder, Token.placeholder]))

/-! ### The assignment of a variable -/

theorem withAssignment_take {p : Parser α} (k : Token × α → Parser β) (h : c.Passes [eq] d) :
    (withAssignment true (do
      let operator ← take
      pure (operator, ← p)) >>= k) c =
      (do k (eq.asAssignment, ← withAssignment true p)) d := by
  have inside := bind_of_ok (fun operator => do pure (operator, ← p)) (take_assigning h)
  simp only [Bind.bind, EStateM.bind, withAssignment] at inside ⊢
  rw [inside, h.assignment]
  cases p (d.setAssignment true) <;> rfl

/-- All that `SET` does behind the sign depends on the value that is read there where `=` is an
assignment. -/
theorem set_of_passes (variable' : x.isVariable = true) (sign : eq.kind = .comparison .eq)
    (h : c.Passes [keyword, x, eq] d) : set expr c = (do
      let v ← withAssignment true (expr .assignment)
      build (Checked.setVariable keyword x eq.asAssignment v (← terminator))) d := by
  unfold set
  rw [take_bind, current_bind, h.current, h.advance.current, if_pos variable']
  unfold setVariable
  rw [lookahead_bind, h.advance.lookahead]
  simp only [sign, bne_self_eq_false, Bool.false_and, Bool.false_eq_true, if_false]
  rw [take_bind, h.advance.current]
  exact withAssignment_take _ h.advance.advance

end Grammar

/-- The value that a `SET` gives to its variable. -/
def Statement.assignedValue? : Statement → Option Expr
  | .setVariable _ _ _ value _ => some value
  | _ => none

section Values

variable {depth : Nat} {ts : List Token} {v : Expr} {e : Cursor} {keyword x type eq : Token}

theorem Token.isEof_of_isKeyword {t : Token} {k : Keyword} (h : t.isKeyword k = true) : t.isEof = false :=
  Token.not_isEof_of_isSource (Token.isSource_of_isKeyword h)

theorem Parser.statement_declare (isDeclare : keyword.isKeyword .DECLARE = true)
    (variable' : x.isVariable = true) (plain : type.kind = .word .plain)
    (sign : eq.kind = .comparison .eq) {c d : Cursor} (h : c.Passes [keyword, x, type, eq] d)
    (read : expr depth .assignment d = .ok v e) (ended : e.current.kind = .eof) :
    statement (depth + 1) c = .ok (.declare keyword ⟨[⟨x, .placeholder,
      Grammar.simpleType ⟨[type]⟩, .present eq.asAssignment v⟩], []⟩ .placeholder) e := by
  have comparing : d.assignment = false := h.assignment.trans h.comparing
  have value : Grammar.value (expr depth) .comma d = .ok v e :=
    withAssignment_of_comparing comparing (Framed.assignment_eq inferInstance read)
      (expr_weaker (by decide) read ended)
  unfold statement
  rw [Grammar.anyStatement_of_keyword _ _ (h.current ▸ isDeclare), h.current]
  unfold Grammar.wordStatement
  rw [lookahead_bind]
  simp only [Token.keyword?_eq_some_iff.mpr (Token.isKeyword_iff.mp isDeclare)]
  exact Grammar.declare_of_passes isDeclare variable' plain sign h value ended

theorem Parser.statement_set (isSet : keyword.isKeyword .SET = true)
    (variable' : x.isVariable = true) (sign : eq.kind = .comparison .eq) {c d : Cursor}
    (h : c.Passes [keyword, x, eq] d) : statement (depth + 1) c = (do
      let v ← withAssignment true (expr depth .assignment)
      build (Checked.setVariable keyword x eq.asAssignment v (← terminator))) d := by
  unfold statement
  rw [Grammar.anyStatement_of_keyword _ _ (h.current ▸ isSet), h.current]
  unfold Grammar.wordStatement
  rw [lookahead_bind]
  simp only [Token.keyword?_eq_some_iff.mpr (Token.isKeyword_iff.mp isSet)]
  exact Grammar.set_of_passes variable' sign h

/-- The context makes no difference to a sheltered value, so `SET` reads it too. -/
theorem Parser.statement_set_of_sheltered (isSet : keyword.isKeyword .SET = true)
    (variable' : x.isVariable = true) (sign : eq.kind = .comparison .eq) {c d : Cursor}
    (h : c.Passes [keyword, x, eq] d) (read : expr depth .assignment d = .ok v e)
    (ended : e.current.kind = .eof) (sheltered : v.Sheltered) :
    statement (depth + 1) c = .ok (.setVariable keyword x eq.asAssignment v .placeholder) e := by
  have comparing : d.assignment = false := h.assignment.trans h.comparing
  have same : e.assignment = d.assignment := Framed.assignment_eq inferInstance read
  have transferred := (Grammar.Transferring.transfers (Nat.le_refl _)).runs comparing trivial read
    sheltered
  have made : Checked.setVariable keyword x eq.asAssignment v .placeholder =
      .ok (.setVariable keyword x eq.asAssignment v .placeholder) :=
    Shaped.ok_of_isOk (by
      simp [Checked.setVariable, isSet, variable', sign, Token.asAssignment,
        TokenKind.isAssignment, Token.isPlaceholder, Token.placeholder])
  rw [statement_set isSet variable' sign h, bind_of_ok _ (withAssignment_of_ok transferred same),
    bind_of_ok _ (Grammar.terminator_of_eof ended)]
  exact build_of_ok made

/-- `SET` stops before an `=` that could not shelter its value. -/
theorem Parser.sheltered_of_statement_set (isSet : keyword.isKeyword .SET = true)
    (variable' : x.isVariable = true) (sign : eq.kind = .comparison .eq) {c d : Cursor}
    (h : c.Passes [keyword, x, eq] d) {s : Statement} (run : statement (depth + 1) c = .ok s e)
    (assigned : s.assignedValue? = some v) : v.Sheltered := by
  rw [statement_set isSet variable' sign h] at run
  obtain ⟨w, f, read, rest⟩ := bind_ok run
  obtain ⟨f', _, inside⟩ := withAssignment_ok read
  have sheltered := (Grammar.Transferring.transfers (Nat.le_refl _)).values rfl trivial inside
  obtain ⟨terminator, _, _, rest⟩ := bind_ok rest
  obtain ⟨rfl, _⟩ := build_ok rest
  cases assigned
  exact sheltered

/-- Where all tokens are an expression, `DECLARE` reads it as the initial value of its variable, but
`SET` reads it as the value of its variable only if no comparison `=` stands unenclosed in it. -/
theorem assigned_values {declareToken setToken : Token}
    (isDeclare : declareToken.isKeyword .DECLARE = true) (isSet : setToken.isKeyword .SET = true)
    (variable' : x.isVariable = true) (plain : type.kind = .word .plain)
    (sign : eq.kind = .comparison .eq)
    (read : Parser.expr depth .assignment (.ofTokens ts) = .ok v e) (all : e.ahead = []) :
    (Parser.statement (depth + 1)).result (.ofTokens (declareToken :: x :: type :: eq :: ts)) =
        .ok (.declare declareToken ⟨[⟨x, .placeholder, Grammar.simpleType ⟨[type]⟩,
          .present eq.asAssignment v⟩], []⟩ .placeholder) ∧
      (v.Sheltered → (Parser.statement (depth + 1)).result (.ofTokens (setToken :: x :: eq :: ts)) =
        .ok (.setVariable setToken x eq.asAssignment v .placeholder)) ∧
      (¬ v.Sheltered → ∀ s : Statement, (Parser.statement (depth + 1)).result
        (.ofTokens (setToken :: x :: eq :: ts)) = .ok s → s.assignedValue? ≠ some v) := by
  have start : (Cursor.ofTokens ts).Ready := ⟨rfl, Cursor.isEof_ofTokens ts⟩
  have ended := Cursor.current_of_ended (Yields.reads start read).ready all
  have notEof : x.isEof = false ∧ type.isEof = false ∧ eq.isEof = false := by
    refine ⟨?_, by simp [Token.isEof, plain], by simp [Token.isEof, sign]⟩
    exact Token.not_isEof_of_isSource (Token.isSource_of_isVariable variable')
  have others : ∀ t ∈ [declareToken, x, type, eq], t.isEof = false := by
    simp [notEof, Token.isEof_of_isKeyword isDeclare]
  have others' : ∀ t ∈ [setToken, x, eq], t.isEof = false := by
    simp [notEof, Token.isEof_of_isKeyword isSet]
  have declares : (Cursor.ofTokens (declareToken :: x :: type :: eq :: ts)).Passes
      [declareToken, x, type, eq] (.ofTokens ts) := Cursor.passes_ofTokens_append ts others
  have sets : (Cursor.ofTokens (setToken :: x :: eq :: ts)).Passes [setToken, x, eq] (.ofTokens ts) :=
    Cursor.passes_ofTokens_append ts others'
  refine ⟨?_, fun sheltered => ?_, fun bare s given assigned => ?_⟩
  · unfold Parser.result
    rw [Parser.statement_declare isDeclare variable' plain sign declares read ended]
  · unfold Parser.result
    rw [Parser.statement_set_of_sheltered isSet variable' sign sets read ended sheltered]
  · unfold Parser.result at given
    split at given
    · next run =>
      cases given
      exact bare (Parser.sheltered_of_statement_set isSet variable' sign sets run assigned)
    · cases given

end Values

/-- A comparison in parentheses is the value for both. -/
theorem assigned_values_paren : ∃ v e,
    Parser.expr 3 .assignment (.ofTokens (lex "(a = b)")) = .ok v e ∧ e.ahead = [] ∧
      (Parser.statement 4).result (.ofTokens (.word "DECLARE" .zero :: .word "@x" .zero ::
        .word "int" .zero :: ⟨.comparison .eq, "=", .zero, [], []⟩ :: lex "(a = b)")) =
          .ok (.declare (.word "DECLARE" .zero) ⟨[⟨.word "@x" .zero, .placeholder,
            Grammar.simpleType ⟨[.word "int" .zero]⟩,
            .present ⟨.assignment none, "=", .zero, [], []⟩ v⟩], []⟩ .placeholder) ∧
      (Parser.statement 4).result (.ofTokens (.word "SET" .zero :: .word "@x" .zero ::
        ⟨.comparison .eq, "=", .zero, [], []⟩ :: lex "(a = b)")) =
          .ok (.setVariable (.word "SET" .zero) (.word "@x" .zero)
            ⟨.assignment none, "=", .zero, [], []⟩ v .placeholder) := by
  have shape : (match Parser.expr 3 .assignment (.ofTokens (lex "(a = b)")) with
      | .ok v e => v.kind = .paren && e.ahead.isEmpty
      | .error _ _ => false) = true := by
    decide +kernel
  cases read : Parser.expr 3 .assignment (.ofTokens (lex "(a = b)")) with
  | error x e =>
    rw [read] at shape
    cases shape
  | ok v e =>
    simp only [read, Bool.and_eq_true, decide_eq_true_eq, List.isEmpty_iff] at shape
    have sheltered : v.Sheltered := by
      obtain ⟨kind, _⟩ := shape
      cases v <;> first | exact Expr.sheltered_of_enclosed rfl rfl rfl | cases kind
    have isDeclare : (Token.word "DECLARE" .zero).isKeyword .DECLARE = true := by decide +kernel
    have isSet : (Token.word "SET" .zero).isKeyword .SET = true := by decide +kernel
    have variable' : (Token.word "@x" .zero).isVariable = true := by decide +kernel
    have plain : (Token.word "int" .zero).kind = .word .plain := by decide +kernel
    have sign : (⟨.comparison .eq, "=", .zero, [], []⟩ : Token).kind = .comparison .eq := rfl
    have values := assigned_values isDeclare isSet variable' plain sign read shape.2
    exact ⟨v, e, rfl, shape.2, values.1, values.2.1 sheltered⟩

/-- A bare comparison is not the value for `SET`, which stops before its `=`. -/
theorem set_stops_at_comparison :
    ¬ ∀ (ts : List Token) (depth : Nat) (v : Expr) (e : Cursor),
      Parser.expr depth .assignment (.ofTokens ts) = .ok v e → e.ahead = [] →
        ∃ s, (Parser.statement (depth + 1)).result (.ofTokens (.word "SET" .zero ::
          .word "@x" .zero :: ⟨.comparison .eq, "=", .zero, [], []⟩ :: ts)) = .ok s ∧
            s.assignedValue? = some v := by
  intro same
  have whole : (match Parser.expr 2 .assignment (.ofTokens (lex "a = b")) with
      | .ok v e => v.kind = .binary && e.ahead.isEmpty
      | .error _ _ => false) = true := by
    decide +kernel
  have part : (match (Parser.statement 3).result (.ofTokens (.word "SET" .zero ::
          .word "@x" .zero :: ⟨.comparison .eq, "=", .zero, [], []⟩ :: lex "a = b")) with
      | .ok s => s.assignedValue?.all (·.kind = .name)
      | .error _ => false) = true := by
    decide +kernel
  cases read : Parser.expr 2 .assignment (.ofTokens (lex "a = b")) with
  | error x e =>
    rw [read] at whole
    cases whole
  | ok v e =>
    simp only [read, Bool.and_eq_true, decide_eq_true_eq, List.isEmpty_iff] at whole
    obtain ⟨s, given, value⟩ := same (lex "a = b") 2 v e read whole.2
    simp only [given, value, Option.all_some, decide_eq_true_eq] at part
    rw [whole.1] at part
    cases part

end TransactSql
