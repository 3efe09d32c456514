import TransactSql.Grammar.Expression
import TransactSql.Proofs.Grammar.QuerySettling

/-!
# Expressions settle

Operands and operators in the order of the grammar, then the loop over operators, then all depths.
-/

namespace TransactSql.Grammar

open TransactSql.Parser

variable {ts : List Token} {c : Cursor} (sub : Precedence → Parser Expr)
  [subs : ∀ min, Settled ts (sub min) fun _ => True]

/-! ### Operands -/

theorem paren_settles (stands : c.Stands ts) (isOpen : c.current.kind = .leftParen) :
    Settles ts (fun _ => True) (paren sub c) := by
  unfold paren
  rw [take_bind]
  refine .next stands.advance fun body d stands isClosing => ?_
  obtain ⟨inner, rparen⟩ := body
  cases inner with
  | none => exact .fail stands
  | some inner => exact settles_build stands (by simp_all [Checked.paren]) trivial

instance : Settled ts (whenClause sub) fun _ => True where
  settles stands := by
    unfold whenClause
    refine .next stands fun whenToken d stands isWhen => .next stands fun condition d stands _ => ?_
    refine .next stands fun thenToken d stands isThen => .next stands fun result d stands _ => ?_
    exact settles_build stands (by simp [Checked.whenClause, isWhen, isThen]) trivial

instance (whens : List WhenClause) :
    Settled ts (moreWhens sub whens) fun next => ∀ more, next = some more → more ≠ [] where
  settles stands := by
    unfold moreWhens
    rw [atKeyword_bind]
    split
    · refine .next stands fun clause d stands _ => .pure stands fun more same => ?_
      obtain rfl := Option.some.inj same
      simp
    · exact .pure stands nofun

instance (k : Keyword) (value : Parser Expr) [Settled ts value fun _ => True] :
    Settled ts (optionalTail k value)
      fun t => ∀ node slot, (Checked.tail node slot k t).isOk = true where
  settles stands := by
    unfold optionalTail
    refine .next stands fun keyword d stands isWord => ?_
    cases keyword with
    | none => exact .pure stands fun _ _ => rfl
    | some keyword =>
      exact .next stands fun e d stands _ => .pure stands fun node slot => by simpa using isWord

instance : Settled ts (caseOperand sub) fun _ => True where
  settles stands := by
    unfold caseOperand
    rw [atKeyword_bind]
    split
    · exact .pure stands trivial
    · exact .next stands fun _ d stands _ => .pure stands trivial

theorem caseExpr_settles (stands : c.Stands ts) (isCase : c.current.isKeyword .CASE = true) :
    Settles ts (fun _ => True) (caseExpr sub c) := by
  unfold caseExpr
  rw [take_bind]
  refine settles_withAssignment ?_
  refine .next (stands.advance.setAssignment false) fun operand d stands _ => ?_
  refine .next stands fun first d stands _ => ?_
  have round {whens : List WhenClause} {c : Cursor} (stands : c.Stands ts) (_ : whens ≠ []) :=
    (inferInstance : Settled ts (moreWhens sub whens) _).settles stands
  refine (settles_loop (· ≠ []) round stands (List.cons_ne_nil first [])).bind
    fun whens d stands some => ?_
  refine .next stands fun otherwise d stands isElse => ?_
  refine .next stands fun endToken d stands isEnd => ?_
  refine settles_build stands ?_ trivial
  simp [Checked.case, isCase, some, isElse, isEnd, -Checked.isOk_tail]

theorem settles_literal (stands : c.Stands ts)
    (isLiteral : (c.current.kind.isLiteral || c.current.isKeyword .NULL) = true) :
    Settles ts (fun _ => True) ((do build (Checked.literal (← take)) : Parser Expr) c) := by
  rw [take_bind]
  exact settles_build stands.advance (by simpa [Checked.literal] using isLiteral) trivial

instance : Settled ts (operand sub) fun _ => True where
  settles {c} stands := by
    unfold operand
    rw [current_bind]
    generalize kind : c.current.kind = k
    split
    case h_1 => exact .failAtError stands
    case h_2 | h_3 | h_4 =>
      rw [take_bind]
      refine .next stands.advance fun e d stands _ => ?_
      exact settles_build stands (by simp [Checked.unary, kind]) trivial
    case h_5 => exact paren_settles sub stands kind
    case h_6 =>
      rw [take_bind]
      refine settles_build_bind ?_ (.pure stands.advance trivial)
      simp [Checked.name, Checked.nameParts, kind]
    case h_7 => exact settles_literal stands (by simp [kind, TokenKind.isLiteral])
    case h_8 => exact settles_literal stands (by simp [Token.isKeyword_iff.mpr kind])
    case h_9 =>
      rw [take_bind]
      refine .next stands.advance fun e d stands _ => ?_
      exact settles_build stands (by simp [Checked.unary, Token.isKeyword_iff.mpr kind]) trivial
    case h_10 => exact caseExpr_settles sub stands (Token.isKeyword_iff.mpr kind)
    case h_11 => exact .last stands fun _ _ => trivial
    case h_12 =>
      split
      · exact .next stands fun name d stands _ => .pure stands trivial
      · exact .failExpected stands
    case h_13 => exact .failExpected stands

/-! ### Operators -/

theorem binary_settles (left : Expr) (stands : c.Stands ts)
    (isOperator : (c.current.kind.isArithmetic || c.current.kind.isComparison
      || c.current.isAnyKeyword [.AND, .OR]) = true) :
    Settles ts (fun _ => True) (binary sub left c) := by
  unfold binary
  rw [take_bind]
  refine .next stands.advance fun right d stands _ => ?_
  exact settles_build stands (by simpa [Checked.binary] using isOperator) trivial

theorem assignment_settles (target : Expr) (stands : c.Stands ts)
    (isOperator : c.current.kind.isAssignment = true) :
    Settles ts (fun _ => True) (assignment sub target c) := by
  unfold assignment
  split
  · exact .fail_bind stands
  · next named =>
    dsimp only
    rw [take_bind]
    refine .next stands.advance fun value d stands _ => settles_build stands ?_ trivial
    have some : target.name?.isNone = false := by
      cases name : target.name? <;> simp_all
    simp [Checked.assignment, some, isOperator]

theorem list_settles (first : Expr) (stands : c.Stands ts) :
    Settles ts (fun _ => True) (list sub first c) := by
  unfold list
  refine (commaTail_settles (P := fun _ => True) stands trivial).bind fun read d stands list => ?_
  obtain ⟨items, separators⟩ := read
  exact settles_build stands (list.isOk_bind fun _ => rfl) trivial

theorem isNull_settles (e : Expr) (stands : c.Stands ts) (isIs : c.current.isKeyword .IS = true) :
    Settles ts (fun _ => True) (isNull e c) := by
  unfold isNull
  rw [take_bind]
  refine .next stands.advance fun not d stands isNot => .next stands fun null d stands isNull => ?_
  exact settles_build stands (by simp [Checked.isNull, isIs, isNot, isNull]) trivial

theorem pattern_settles (e : Expr) {not : Option Token} (stands : c.Stands ts)
    (isNot : not.all (·.isKeyword .NOT) = true) :
    Settles ts (fun _ => True) (pattern sub e not c) := by
  unfold pattern
  rw [current_bind]
  generalize word : c.current.keyword? = k
  split
  case h_1 =>
    rw [take_bind]
    refine .next stands.advance fun low d stands _ => .next stands fun and d stands isAnd => ?_
    refine .next stands fun high d stands _ => settles_build stands ?_ trivial
    have isBetween : c.current.isKeyword .BETWEEN = true := by simp [Token.isKeyword, word]
    simp [Checked.between, isNot, isBetween, isAnd]
  case h_2 =>
    rw [take_bind]
    refine .next stands.advance fun pattern d stands _ => ?_
    refine .next stands fun escape d stands isEscape => settles_build stands ?_ trivial
    have isLike : c.current.isKeyword .LIKE = true := by simp [Token.isKeyword, word]
    simp [Checked.like, isNot, isLike, isEscape, -Checked.isOk_tail]
  case h_3 =>
    refine .next stands fun keyword d stands isIn => .next stands fun lparen d stands isOpen => ?_
    refine .next stands fun body d stands isClosing => ?_
    obtain ⟨values, rparen⟩ := body
    cases values with
    | none => exact .fail stands
    | some values => exact settles_build stands (by simp_all [Checked.isIn]) trivial

theorem collate_settles (e : Expr) (stands : c.Stands ts)
    (isCollate : c.current.isKeyword .COLLATE = true) :
    Settles ts (fun _ => True) (collate e c) := by
  unfold collate
  rw [take_bind]
  refine .next stands.advance fun collation d stands isWord => ?_
  exact settles_build stands (by simp [Checked.collate, isCollate, isWord]) trivial

theorem cast_settles {keyword : Token} (stands : c.Stands ts) (isOpen : c.current.kind = .leftParen)
    (isCast : keyword.isAnyKeyword [.CAST, .TRY_CAST] = true) :
    Settles ts (fun _ => True) (cast sub keyword c) := by
  unfold cast
  rw [take_bind]
  refine settles_withAssignment ?_
  refine .next (stands.advance.setAssignment false) fun e d stands _ => ?_
  refine .next stands fun asToken d stands isAs => .next stands fun type d stands _ => ?_
  refine .next stands fun rparen d stands isClosing => ?_
  exact settles_build stands (by simp [Checked.cast, isCast, isOpen, isAs, isClosing]) trivial

theorem call_settles (callee : Expr) (stands : c.Stands ts) (isOpen : c.current.kind = .leftParen) :
    Settles ts (fun _ => True) (call sub callee c) := by
  unfold call
  cases found : castKeyword? callee with
  | some keyword =>
    refine cast_settles sub stands isOpen ?_
    unfold castKeyword? at found
    split at found
    · split at found
      · next isCast =>
        obtain rfl := Option.some.inj found
        exact isCast
      · cases found
    · cases found
  | none =>
    dsimp only
    rw [take_bind]
    refine .next stands.advance fun body d stands isClosing => ?_
    obtain ⟨args, rparen⟩ := body
    exact settles_build stands (by simp_all [Checked.call]) trivial

instance : Settled ts windowFrame fun read => (read.2.kind == .rightParen) = true where
  settles stands := by
    unfold windowFrame
    refine .next stands fun closing d stands isClosing => ?_
    cases closing with
    | some rparen => exact .pure stands (by simpa using isClosing)
    | none =>
      refine .next stands fun read d stands held => ?_
      obtain ⟨tokens, rparen⟩ := read
      refine settles_rawTokens_bind stands (fun t member => .inr (held.1 t member)) ?_
      exact .pure stands held.2

theorem overClause_settles (stands : c.Stands ts) (isOver : c.current.isKeyword .OVER = true) :
    Settles ts (fun _ => True) (overClause sub c) := by
  unfold overClause
  rw [take_bind]
  refine .next stands.advance fun lparen d stands isOpen => settles_withAssignment ?_
  refine .next (stands.setAssignment false) fun partition d stands isPartition => ?_
  refine .next stands fun order d stands isOrder => .next stands fun frame d stands isClosing => ?_
  obtain ⟨frame, rparen⟩ := frame
  refine settles_build stands ?_ trivial
  simp [Checked.overClause, isOver, isOpen, Checked.isOk_leading isPartition,
    Checked.isOk_leading isOrder, isClosing]

theorem keywordOperator_settles {left : Expr} {k : Keyword} {operator : Parser Expr}
    (stands : c.Stands ts) (word : c.current.isKeyword k = true)
    (applies : keywordOperator sub left k c.lookahead = some operator) :
    Settles ts (fun _ => True) (operator c) := by
  unfold keywordOperator at applies
  split at applies
  case h_1 | h_2 =>
    obtain rfl := Option.some.inj applies
    exact binary_settles sub left stands (by simp [isAnyKeyword_of_mem word])
  case h_3 =>
    obtain rfl := Option.some.inj applies
    exact isNull_settles left stands word
  case h_4 =>
    split at applies
    · obtain rfl := Option.some.inj applies
      rw [take_bind]
      exact pattern_settles sub left stands.advance (by simpa using word)
    · cases applies
  case h_5 | h_6 | h_7 =>
    obtain rfl := Option.some.inj applies
    exact pattern_settles sub left stands rfl
  case h_8 =>
    obtain rfl := Option.some.inj applies
    exact collate_settles left stands word
  case h_9 =>
    split at applies
    · next isCall =>
      obtain rfl := Option.some.inj applies
      refine (overClause_settles sub stands word).bind fun clause d stands _ => ?_
      exact settles_build stands (by simp [Checked.window, isCall]) trivial
    · cases applies
  case h_10 | h_11 | h_12 =>
    split at applies
    · obtain rfl := Option.some.inj applies
      exact setOperation_settles sub left stands (isAnyKeyword_of_mem word (by simp))
    · cases applies
  case h_13 =>
    split at applies
    · obtain rfl := Option.some.inj applies
      exact orderBy_settles sub left stands word
    · cases applies
  case h_14 =>
    split at applies
    · next held =>
      obtain rfl := Option.some.inj applies
      rw [Bool.and_eq_true] at held
      exact forOption_settles left stands word held.2
    · cases applies
  case h_15 =>
    split at applies
    · next held =>
      obtain rfl := Option.some.inj applies
      rw [Bool.and_eq_true, beq_iff_eq] at held
      exact hintOption_settles left stands word held.2
    · cases applies
  case h_16 => cases applies

/-- An operator is told by the token it then takes. -/
theorem operator?_settles {left : Expr} {operator : Parser Expr} (stands : c.Stands ts)
    (applies : operator? sub left c.current c.lookahead = some operator) :
    Settles ts (fun _ => True) (operator c) := by
  unfold operator? at applies
  split at applies
  case h_1 kind =>
    split at applies
    · obtain rfl := Option.some.inj applies
      exact call_settles sub left stands kind
    · cases applies
  case h_2 =>
    obtain rfl := Option.some.inj applies
    exact list_settles sub left stands
  case h_3 kind =>
    obtain rfl := Option.some.inj applies
    exact assignment_settles sub left stands (by simp [kind, TokenKind.isAssignment])
  case h_4 kind =>
    obtain rfl := Option.some.inj applies
    exact binary_settles sub left stands (by simp [kind, TokenKind.isArithmetic])
  case h_5 kind =>
    obtain rfl := Option.some.inj applies
    exact binary_settles sub left stands (by simp [kind, TokenKind.isComparison])
  case h_6 kind => exact keywordOperator_settles sub stands (Token.isKeyword_iff.mpr kind) applies
  case h_7 => cases applies

theorem applyOperator_settles (min : Precedence) {left : Expr} (stands : c.Stands ts) :
    Settles ts (fun _ => True) (applyOperator sub min left c) := by
  unfold applyOperator
  rw [current_bind]
  split
  · rw [lookahead_bind]
    cases applies : operator? sub left c.current c.lookahead with
    | some operator =>
      exact (operator?_settles sub stands applies).bind fun e d stands _ => .pure stands trivial
    | none => exact .pure stands trivial
  · exact .pure stands trivial

instance (min : Precedence) : Settled ts (expression sub min) fun _ => True where
  settles stands := by
    unfold expression
    refine .next stands fun first d stands _ => ?_
    refine settles_loop (fun _ => True) (fun stands _ => ?_) stands trivial
    exact (applyOperator_settles sub min stands).mono fun _ _ _ _ => trivial

end TransactSql.Grammar

namespace TransactSql.Parser

instance (ts : List Token) (depth : Nat) (min : Precedence) :
    Settled ts (expr depth min) fun _ => True := by
  induction depth generalizing min with
  | zero => exact ⟨fun stands => .fail stands⟩
  | succ depth ih => unfold expr; infer_instance

end TransactSql.Parser
