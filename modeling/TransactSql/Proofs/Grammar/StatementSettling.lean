import TransactSql.Parse
import TransactSql.Proofs.Grammar.RoutineSettling

/-!
# Statements settle

The rule of each statement is given what its first word told, then statements of all depths follow.
-/

namespace TransactSql

/-- Where `=` is an assignment, so is the token behind the current one if it is `=` or a compound
form of it. -/
theorem Cursor.isAssignment_advance {c : Cursor} (ready : c.Ready)
    (source : c.current.isSource = true)
    (next : (c.lookahead.kind == .comparison .eq || c.lookahead.kind.isAssignment) = true) :
    (c.advance.setAssignment true).current.kind.isAssignment = true := by
  obtain ⟨t, rest, ahead, _⟩ := exists_cons_of_isSource ready source
  have current : (c.advance.setAssignment true).current = c.lookahead.asAssignment := by
    simp [advance_eq ready ahead, Cursor.current, setAssignment, ready.fault, rawCurrent, lookahead,
      ahead, normalize]
  rw [current, Token.asAssignment]
  split
  · rfl
  · next other => simpa [other] using next

namespace Grammar

open TransactSql.Parser

variable {ts : List Token} {c : Cursor}
variable (expr : Precedence → Parser Expr) [exprs : ∀ min, Settled ts (expr min) fun _ => True]
variable (statement : Parser Statement) [Settled ts statement fun _ => True]

instance : Settled ts (expressionStatement expr) fun _ => True where
  settles stands := by
    unfold expressionStatement
    refine .next stands fun e d stands _ => .next stands fun terminator d stands ends => ?_
    exact settles_build stands (by simp [Checked.expression, ends]) trivial

theorem unmodeled_settles (stands : c.Stands ts) (source : c.current.isSource = true) :
    Settles ts (fun _ => True) (unmodeled c) := by
  unfold unmodeled
  rw [take_bind]
  exact unmodeledFrom_settles stands.advance (by simp) (by simpa using source)

/-! ### Blocks -/

theorem beginTransaction_settles (stands : c.Stands ts)
    (isBegin : c.current.isKeyword .BEGIN = true)
    (next : c.lookahead.isAnyKeyword [.TRAN, .TRANSACTION] = true) :
    Settles ts (fun _ => True) (beginTransaction c) := by
  have source := Token.isSource_of_isKeyword isBegin
  have isTransaction := (Cursor.isAnyKeyword_advance stands.toReady source _).trans next
  unfold beginTransaction
  rw [take_bind, take_bind]
  refine .next stands.advance.advance fun name d stands isName => ?_
  refine .next stands fun terminator d stands ends => settles_build stands ?_ trivial
  cases name <;> simp_all [Checked.beginTransaction]

instance (first second : Keyword) : Settled ts (keywordPair first second)
    fun pair => ∀ node, (Checked.keywordPair node pair first second).isOk = true where
  settles stands := by
    unfold keywordPair
    refine .next stands fun a d stands isFirst => .next stands fun b d stands isSecond => ?_
    exact .pure stands fun node => by simp [Checked.keywordPair, isFirst, isSecond]

theorem tryCatch_settles (stands : c.Stands ts) (isBegin : c.current.isKeyword .BEGIN = true)
    (next : c.lookahead.isKeyword .TRY = true) :
    Settles ts (fun _ => True) (tryCatch statement c) := by
  have isTry := Cursor.isKeyword_advance stands.toReady (Token.isSource_of_isKeyword isBegin) .TRY
  unfold tryCatch
  rw [take_bind, take_bind]
  refine .next stands.advance.advance fun tryBody d stands _ => ?_
  refine .next stands fun endTry d stands endsTry => ?_
  refine .next stands fun beginCatch d stands beginsCatch => ?_
  refine .next stands fun catchBody d stands _ => ?_
  refine .next stands fun endCatch d stands endsCatch => ?_
  refine .next stands fun terminator d stands ends => settles_build stands ?_ trivial
  have beginsTry : (Checked.keywordPair .tryCatch (c.current, c.advance.current) .BEGIN .TRY).isOk
      = true := by
    simp [Checked.keywordPair, isBegin, isTry, next]
  simp [Checked.tryCatch, beginsTry, endsTry, beginsCatch, endsCatch, ends]

theorem beginStatement_settles (stands : c.Stands ts)
    (isBegin : c.current.isKeyword .BEGIN = true) :
    Settles ts (fun _ => True) (beginStatement statement c) := by
  unfold beginStatement
  rw [lookahead_bind]
  generalize word : c.lookahead.keyword? = k
  split
  case h_1 | h_2 =>
    exact beginTransaction_settles stands isBegin (by simp [Token.isAnyKeyword, word])
  case h_3 => exact tryCatch_settles statement stands isBegin (by simp [Token.isKeyword, word])
  case h_4 | h_5 | h_6 => exact unmodeled_settles stands (Token.isSource_of_isKeyword isBegin)
  case h_7 => exact .next stands fun block d stands _ => .pure stands trivial

/-! ### Control flow -/

instance : Settled ts (elseBranch statement) fun otherwise =>
    ∀ {t : Token} {e : Expr} {s : Statement}, t.isKeyword .IF = true →
      (Checked.ifElse t e s otherwise).isOk = true where
  settles stands := by
    unfold elseBranch
    refine .next stands fun keyword d stands isElse => ?_
    cases keyword with
    | none => exact .pure stands fun isIf => by simp [Checked.ifElse, isIf]
    | some keyword =>
      refine .next stands fun s d stands _ => .pure stands fun isIf => ?_
      simp only [Option.all_some] at isElse
      simp [Checked.ifElse, isIf, isElse]

theorem ifElse_settles (stands : c.Stands ts) (isIf : c.current.isKeyword .IF = true) :
    Settles ts (fun _ => True) (ifElse expr statement c) := by
  unfold ifElse
  rw [take_bind]
  refine .next stands.advance fun condition d stands _ => ?_
  refine .next stands fun thenBranch d stands _ => .next stands fun otherwise d stands fits => ?_
  exact settles_build stands (fits isIf) trivial

theorem whileLoop_settles (stands : c.Stands ts) (isWhile : c.current.isKeyword .WHILE = true) :
    Settles ts (fun _ => True) (whileLoop expr statement c) := by
  unfold whileLoop
  rw [take_bind]
  refine .next stands.advance fun condition d stands _ => .next stands fun body d stands _ => ?_
  exact settles_build stands (by simp [Checked.whileLoop, isWhile]) trivial

theorem loopControl_settles (stands : c.Stands ts)
    (isWord : c.current.isAnyKeyword [.BREAK, .CONTINUE] = true) :
    Settles ts (fun _ => True) (loopControl c) := by
  unfold loopControl
  rw [take_bind]
  refine .next stands.advance fun terminator d stands ends => ?_
  exact settles_build stands (by simp [Checked.loopControl, isWord, ends]) trivial

instance : Settled ts (optionalValue expr) fun _ => True where
  settles stands := by
    unfold optionalValue
    rw [current_bind]
    split
    · exact .next stands fun _ d stands _ => .pure stands trivial
    · exact .pure stands trivial

theorem returnValue_settles (stands : c.Stands ts) (isReturn : c.current.isKeyword .RETURN = true) :
    Settles ts (fun _ => True) (returnValue expr c) := by
  unfold returnValue
  rw [take_bind]
  refine .next stands.advance fun value d stands _ => ?_
  refine .next stands fun terminator d stands ends => ?_
  exact settles_build stands (by simp [Checked.returnValue, isReturn, ends]) trivial

theorem goto_settles (stands : c.Stands ts) (isGoto : c.current.isKeyword .GOTO = true) :
    Settles ts (fun _ => True) (goto c) := by
  unfold goto
  rw [take_bind]
  refine .next stands.advance fun label d stands isLabel => ?_
  rw [Bool.and_eq_true] at isLabel
  refine .next stands fun terminator d stands ends => ?_
  exact settles_build stands (by simp [Checked.goto, isGoto, isLabel, ends]) trivial

theorem label_settles (stands : c.Stands ts) (isLabel : c.current.isPlainIdentifier = true)
    (next : c.lookahead.kind = .colon) : Settles ts (fun _ => True) (label c) := by
  have source := Token.isSource_of_isPlainIdentifier isLabel
  have isColon := Cursor.kind_advance stands.toReady source next nofun
  unfold label
  rw [take_bind, take_bind]
  refine settles_build stands.advance.advance ?_ trivial
  simp only [Token.isPlainIdentifier, Bool.and_eq_true] at isLabel
  simp [Checked.label, isLabel, isColon]

/-! ### Set -/

theorem setVariable_settles {setToken : Token} (stands : c.Stands ts)
    (isSet : setToken.isKeyword .SET = true) (isVariable : c.current.isVariable = true) :
    Settles ts (fun _ => True) (setVariable expr setToken c) := by
  unfold setVariable
  rw [lookahead_bind]
  dsimp only
  split
  · exact .fail_bind stands
  · next next =>
    have isOperator := Cursor.isAssignment_advance stands.toReady
      (Token.isSource_of_isVariable isVariable) (by simpa [or_iff_not_imp_left] using next)
    rw [take_bind]
    -- The operator was seen where `=` may be a comparison; it is taken where it is an assignment.
    have assigned : Settles ts (fun read => read.1.kind.isAssignment = true)
        (withAssignment true (do
          let operator ← take
          pure (operator, ← expr .assignment)) c.advance) := by
      refine settles_withAssignment ?_
      rw [take_bind]
      refine .next (stands.advance.setAssignment true).advance fun value d stands _ => ?_
      exact .pure stands isOperator
    refine assigned.bind fun read d stands isOperator => ?_
    obtain ⟨operator, value⟩ := read
    refine .next stands fun terminator d stands ends => settles_build stands ?_ trivial
    simp [Checked.setVariable, isSet, isVariable, isOperator, ends]

theorem setOption_settles {setToken : Token} (stands : c.Stands ts)
    (isSet : setToken.isKeyword .SET = true) :
    Settles ts (fun _ => True) (setOption setToken c) := by
  unfold setOption
  refine .next stands fun read d stands list => ?_
  obtain ⟨items, separators⟩ := read
  refine settles_build_bind (list.isOk_bind fun _ => rfl) ?_
  refine .next stands fun tokens d stands known => settles_rawTokens_bind stands known ?_
  refine .next stands fun terminator d stands ends => settles_build stands ?_ trivial
  simpa [Checked.setOption, isSet, ends] using list.items

theorem set_settles (stands : c.Stands ts) (isSet : c.current.isKeyword .SET = true) :
    Settles ts (fun _ => True) (set expr c) := by
  unfold set
  rw [take_bind, current_bind]
  split
  · next isVariable => exact setVariable_settles expr stands.advance isSet isVariable
  · exact setOption_settles stands.advance isSet

/-! ### All statements -/

theorem wordStatement_settles (stands : c.Stands ts) :
    Settles ts (fun _ => True) (wordStatement expr statement c.current c) := by
  unfold wordStatement
  rw [lookahead_bind]
  generalize word : c.current.keyword? = k
  have isWord : ∀ {j}, k = some j → c.current.isKeyword j = true := by
    rintro j rfl
    simp [Token.isKeyword, word]
  split
  case h_1 => exact beginStatement_settles statement stands (isWord rfl)
  case h_2 => exact ifElse_settles expr statement stands (isWord rfl)
  case h_3 => exact whileLoop_settles expr statement stands (isWord rfl)
  case h_4 | h_5 => exact loopControl_settles stands (isAnyKeyword_of_mem (isWord rfl) (by simp))
  case h_6 => exact returnValue_settles expr stands (isWord rfl)
  case h_7 => exact goto_settles stands (isWord rfl)
  case h_8 => exact set_settles expr stands (isWord rfl)
  case h_9 => exact .last stands fun _ _ => trivial
  case h_10 | h_11 =>
    exact create_settles expr statement stands (isAnyKeyword_of_mem (isWord rfl) (by simp))
  case h_12 => exact .last stands fun _ _ => trivial
  case h_13 =>
    split
    · exact unmodeled_settles stands (Token.isSource_of_isKeyword (isWord rfl))
    · exact .fail stands
  case h_14 => exact .fail stands
  case h_15 =>
    split
    · next both =>
      rw [Bool.and_eq_true, beq_iff_eq] at both
      exact label_settles stands both.1 both.2
    · split
      · next starts => exact unmodeled_settles stands (Token.isSource_of_isAnyKeyword starts)
      · exact .failExpected stands

instance : Settled ts (anyStatement expr statement) fun _ => True where
  settles {c} stands := by
    unfold anyStatement
    rw [current_bind]
    generalize kind : c.current.kind = k
    split
    case h_1 =>
      rw [take_bind]
      exact settles_build stands.advance (by simp [Checked.empty, kind]) trivial
    case h_2 => exact .last stands fun _ _ => trivial
    case h_3 => exact wordStatement_settles expr statement stands
    case h_4 => exact .failAtError stands
    case h_5 => exact .failExpected stands

end Grammar

namespace Parser

variable {ts : List Token}

instance (depth : Nat) : Settled ts (statement depth) fun _ => True := by
  induction depth with
  | zero => exact ⟨fun stands => .fail stands⟩
  | succ depth ih => unfold statement; infer_instance

instance (depth : Nat) : Settled ts (statements depth) fun _ => True := by
  unfold statements; infer_instance

instance (depth : Nat) : Settled ts (topStatement depth) fun _ => True where
  settles stands := by
    unfold topStatement Grammar.atBlock
    simp only [bind_assoc, current_bind, lookahead_bind, pure_bind']
    split
    · exact .next stands fun block d stands _ => .pure stands trivial
    · exact .last stands fun _ _ => trivial

instance : Settled ts expectEnd fun _ => True where
  settles stands := by
    unfold expectEnd
    rw [atEnd_bind]
    split
    · exact .pure stands trivial
    · rw [get_bind, stands.fault]
      exact .failExpected stands

end Parser

end TransactSql
