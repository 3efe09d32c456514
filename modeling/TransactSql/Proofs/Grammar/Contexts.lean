import TransactSql.Proofs.Binding.Basic
import TransactSql.Proofs.Grammar.ExpressionYield
import TransactSql.Proofs.Parser.Contexts

/-!
# Expressions in two contexts

The context reaches an operator only through the operands at the edges of an expression, for
parentheses, calls, `CASE` and queries set their own. So an expression is read in the same way where
`=` is an assignment, unless a comparison `=` stands at such an edge.
-/

namespace TransactSql

namespace Expr

variable {e l : Expr}

/-- A comparison with `=`. -/
def isEquality : Expr → Bool
  | .binary _ operator _ => operator.kind == .comparison .eq
  | _ => false

/-- Some `=` of the expression, not enclosed in anything, is a comparison. -/
inductive ComparesBare : Expr → Prop
  | here {e : Expr} (equality : e.isEquality = true) : ComparesBare e
  | left {e l : Expr} (operand : e.leftOperand? = some l) (bare : ComparesBare l) : ComparesBare e
  | right {e r : Expr} (operand : r ∈ e.rightOperands) (bare : ComparesBare r) : ComparesBare e

/-- Every `=` that is a comparison is enclosed. -/
def Sheltered (e : Expr) : Prop := ¬ e.ComparesBare

theorem sheltered_iff : e.Sheltered ↔ e.isEquality = false ∧
    (∀ l ∈ e.leftOperand?, l.Sheltered) ∧ ∀ r ∈ e.rightOperands, r.Sheltered := by
  constructor
  · intro sheltered
    refine ⟨?_, fun l operand bare => sheltered (.left operand bare),
      fun r operand bare => sheltered (.right operand bare)⟩
    exact Bool.eq_false_iff.mpr fun equality => sheltered (.here equality)
  · rintro ⟨other, left, right⟩ bare
    cases bare with
    | here equality =>
      rw [other] at equality
      cases equality
    | left operand bare => exact left _ operand bare
    | right operand bare => exact right _ operand bare

theorem Sheltered.left (sheltered : e.Sheltered) (operand : e.leftOperand? = some l) : l.Sheltered :=
  (sheltered_iff.mp sheltered).2.1 l operand

theorem Sheltered.right (sheltered : e.Sheltered) {r : Expr} (operand : r ∈ e.rightOperands) :
    r.Sheltered :=
  (sheltered_iff.mp sheltered).2.2 r operand

/-- Nothing stands at the edges of an enclosed expression. -/
theorem sheltered_of_enclosed (left : e.leftOperand? = none) (right : e.rightOperands = [])
    (other : e.isEquality = false) : e.Sheltered := by
  rw [sheltered_iff, left, right]
  exact ⟨other, by simp, by simp⟩

/-- Only the left operand stands at an edge. -/
theorem sheltered_iff_left (left : e.leftOperand? = some l) (right : e.rightOperands = [])
    (other : e.isEquality = false) : e.Sheltered ↔ l.Sheltered := by
  rw [sheltered_iff, left, right]
  simp [other]

end Expr

namespace Grammar

open TransactSql.Parser

/-! ### Rules that never take an `=` -/

instance (parts : List Token) : Insensitive (namePart parts) := by
  have dots : Insensitive (takeRun fun ts => (ts.takeWhile (·.kind == .dot)).length) :=
    insensitive_takeRun
  have last : ∀ before : List Token, Insensitive (do
      if ← atKind (.arithmetic .star) then return some (before ++ [← take])
      return some (before ++ [← word "name"])) := fun before =>
    insensitive_take (·.kind == .arithmetic .star) inferInstance inferInstance
  unfold namePart
  refine .bind inferInstance fun dot => ?_
  split
  · infer_instance
  · exact .bind dots fun dots => last _

instance : Insensitive name := by unfold name; infer_instance

section Rules

variable (sub : Precedence → Parser Expr) [∀ min, Framed (sub min)]

instance : Insensitive (parenBody sub) := by
  unfold parenBody
  refine .bind inferInstance fun rparen => ?_
  split
  · infer_instance
  · refine .withAssignment _ (.recording (.bind inferInstance fun inner => ?_))
    split <;> infer_instance

instance : Insensitive (optionalTop sub) := by
  simp only [optionalTop, topClause, bind_assoc]
  refine insensitive_take (·.isKeyword .TOP) (fun t => ?_) inferInstance
  infer_instance

instance : Insensitive (select sub) := by unfold select; infer_instance

end Rules

/-! ### Operands -/

/-- Expressions behind operators that bind tighter than an assignment transfer if they are
sheltered. -/
class Transferring (sub : Precedence → Parser Expr) : Prop where
  framed : ∀ min, Framed (sub min)
  transfers : ∀ {min : Precedence}, .assignment ≤ min →
    TransfersAnywhere Expr.Sheltered (sub min)

instance (sub : Precedence → Parser Expr) [transferring : Transferring sub] (min : Precedence) :
    Framed (sub min) := transferring.framed min

section Operands

variable (sub : Precedence → Parser Expr) [Transferring sub] {t : Token}
  (other : t.kind ≠ .comparison .eq)

theorem unary_transfers {min : Precedence} (strong : .assignment ≤ min) (operator : Token) :
    TransfersAnywhere Expr.Sheltered (do build (Checked.unary operator (← sub min))) := by
  refine .bind (Transferring.transfers strong) (fun e => inferInstance) (fun e sheltered => ?_)
    fun e => .build fun sheltered => ?_
  · refine .of_insensitive inferInstance (.build (Expr.sheltered_iff.mpr ?_))
    simpa [Expr.isEquality, Expr.leftOperand?, Expr.rightOperands] using sheltered
  · exact sheltered.right (by simp [Expr.rightOperands])

include other

theorem paren_transfers : Transfers (· = t) Expr.Sheltered (paren sub) := by
  unfold paren
  refine .take_insensitive other (fun lparen => .bind inferInstance fun body => ?_)
    (.bind fun body => ?_)
  · split <;> infer_instance
  · split
    · exact .build (Expr.sheltered_of_enclosed rfl rfl rfl)
    · exact .fail

theorem caseExpr_transfers : Transfers (· = t) Expr.Sheltered (caseExpr sub) := by
  unfold caseExpr
  refine .take_insensitive other inferInstance (.withAssignment ?_)
  repeat refine .bind fun _ => ?_
  exact .build (Expr.sheltered_of_enclosed rfl rfl rfl)

omit other in
theorem select_transfers : TransfersAnywhere Expr.Sheltered (select sub) := by
  refine .of_insensitive inferInstance ?_
  unfold select
  repeat refine .bind fun _ => ?_
  exact .build (Expr.sheltered_of_enclosed rfl rfl rfl)

omit other in
theorem operand_transfers : TransfersAnywhere Expr.Sheltered (operand sub) := by
  unfold operand
  refine .current (inferInstanceAs (Framed (operand sub))) (fun t other => ?_) ?_
  · split
    case h_1 => exact .of_insensitive inferInstance ⟨fun h => absurd h failAtError_ok⟩
    case h_2 | h_3 | h_4 =>
      exact .take other inferInstance (unary_transfers sub (by decide) t)
    case h_5 => exact paren_transfers sub other
    case h_6 =>
      exact .take_insensitive other inferInstance
        (.bind fun n => .pure (Expr.sheltered_of_enclosed rfl rfl rfl))
    case h_7 | h_8 =>
      exact .take_insensitive other inferInstance (.build (Expr.sheltered_of_enclosed rfl rfl rfl))
    case h_9 => exact .take other inferInstance (unary_transfers sub (by decide) t)
    case h_10 => exact caseExpr_transfers sub other
    case h_11 => exact .of_anywhere (select_transfers sub)
    case h_12 =>
      refine .of_insensitive inferInstance (.ite ?_ .failExpected)
      exact .bind fun n => .pure (Expr.sheltered_of_enclosed rfl rfl rfl)
    case h_13 => exact .of_insensitive inferInstance .failExpected
  · intro t c d a kind _ h
    simp only [kind] at h
    exact absurd h failExpected_ok

end Operands

/-! ### Operators -/

/-- An operator at the token `t`: what it makes of `left` is sheltered only if `left` is, and is read
in both contexts if `t` is no `=`. -/
structure Operates (t : Token) (left : Expr) (p : Parser Expr) : Prop where
  back : Returns (fun e => e.Sheltered → left.Sheltered) p
  transfers : t.kind ≠ .comparison .eq → left.Sheltered → Transfers (· = t) Expr.Sheltered p

section Operators

variable (sub : Precedence → Parser Expr) [Transferring sub] {t : Token} {left : Expr}

/-- An operator whose other operands are enclosed. -/
theorem operates_of_insensitive {k : Token → Parser Expr} (insensitive : ∀ t, Insensitive (k t))
    (returns : ∀ t, Returns (fun e => e.Sheltered ↔ left.Sheltered) (k t)) :
    Operates t left (take >>= k) where
  back := .bind fun t => (returns t).mono fun _ same => same.mp
  transfers other sheltered :=
    .take_insensitive other insensitive ((returns t).mono fun _ same => same.mpr sheltered)

theorem binary_operates (strong : .assignment ≤ t.precedence) : Operates t left (binary sub left) := by
  unfold binary
  constructor
  · exact .bind fun operator => .bind fun right => .build fun sheltered => sheltered.left rfl
  · intro other held
    refine .take other inferInstance ?_
    refine .bind (Transferring.transfers strong) inferInstance (fun right held' => ?_) fun right =>
      .build fun sheltered => sheltered.right (by simp [Expr.rightOperands])
    refine .of_insensitive inferInstance (.build (Expr.sheltered_iff.mpr ?_))
    simpa [Expr.isEquality, Expr.leftOperand?, Expr.rightOperands, held, held'] using other

omit [Transferring sub] in
/-- An `=` that is a comparison makes an expression that is not sheltered. -/
theorem binary_not_sheltered {c d : Cursor} {e : Expr} (kind : c.current.kind = .comparison .eq)
    (h : binary sub left c = .ok e d) : ¬ e.Sheltered := by
  unfold binary at h
  rw [take_bind] at h
  obtain ⟨right, _, _, h⟩ := bind_ok h
  obtain ⟨rfl, _⟩ := build_ok h
  exact fun sheltered => sheltered (.here (by simpa [Expr.isEquality] using kind))

theorem isNull_operates : Operates t left (isNull left) := by
  refine operates_of_insensitive inferInstance fun isToken => ?_
  exact .bind fun not => .bind fun null => .build (Expr.sheltered_iff_left rfl rfl rfl)

theorem collate_operates : Operates t left (collate left) := by
  refine operates_of_insensitive inferInstance fun keyword => ?_
  exact .bind fun collation => .build (Expr.sheltered_iff_left rfl rfl rfl)

theorem call_operates : Operates t left (call sub left) := by
  unfold call
  cases callee : castKeyword? left with
  | some keyword =>
    cases eq_name_of_castKeyword? callee
    refine operates_of_insensitive inferInstance fun lparen => .withAssignment ?_
    repeat refine .bind fun _ => ?_
    refine .build ⟨fun _ => ?_, fun _ => ?_⟩ <;> exact Expr.sheltered_of_enclosed rfl rfl rfl
  | none =>
    refine operates_of_insensitive inferInstance fun lparen => .bind fun args => ?_
    exact .build (Expr.sheltered_iff_left rfl rfl rfl)

theorem window_operates : Operates t left (do build (Checked.window left (← overClause sub))) := by
  simp only [overClause, bind_assoc]
  refine operates_of_insensitive inferInstance fun overToken => ?_
  exact .bind fun lparen => .bind fun window => .build (Expr.sheltered_iff_left rfl rfl rfl)

omit [Transferring sub] in
theorem pattern_back (not : Option Token) :
    Returns (fun e => e.Sheltered → left.Sheltered) (pattern sub left not) := by
  refine .bind fun t => ?_
  split
  · exact .bind fun keyword => .bind fun low => .bind fun and => .bind fun high =>
      .build fun sheltered => sheltered.left rfl
  · exact .bind fun keyword => .bind fun pattern => .bind fun escape =>
      .build fun sheltered => sheltered.left rfl
  · refine .bind fun keyword => .bind fun lparen => .bind fun values => ?_
    split
    · exact .build fun sheltered => sheltered.left rfl
    · exact .fail

theorem optionalTail_transfers (k : Keyword) {min : Precedence} (strong : .assignment ≤ min) :
    TransfersAnywhere (fun tail : Tail => ∀ e ∈ tail.value?, e.Sheltered)
      (optionalTail k (sub min)) := by
  unfold optionalTail
  refine .after inferInstance fun keyword => ?_
  split
  · refine .bind (Transferring.transfers strong) inferInstance (fun e sheltered => ?_) fun e =>
      .pure fun sheltered => sheltered e rfl
    exact .of_insensitive inferInstance (.pure (by simpa [Tail.value?] using sheltered))
  · exact .of_insensitive inferInstance (.pure (by simp [Tail.value?]))

theorem pattern_transfers (not : Option Token) (held : left.Sheltered) :
    TransfersAnywhere Expr.Sheltered (pattern sub left not) := by
  unfold pattern
  refine .current (inferInstanceAs (Framed (pattern sub left not))) (fun t other => ?_) ?_
  · split
    · refine .take other inferInstance ?_
      refine .bind (Transferring.transfers (by decide)) inferInstance (fun low held' => ?_) fun low =>
        .bind fun and => .bind fun high => .build fun sheltered =>
          sheltered.right (by simp [Expr.rightOperands])
      refine .after inferInstance fun and => ?_
      refine .bind (Transferring.transfers (by decide)) inferInstance (fun high held'' => ?_)
        fun high => .build fun sheltered => sheltered.right (by simp [Expr.rightOperands])
      refine .of_insensitive inferInstance (.build (Expr.sheltered_iff.mpr ?_))
      simp [Expr.isEquality, Expr.leftOperand?, Expr.rightOperands, held, held', held'']
    · refine .take other inferInstance ?_
      refine .bind (Transferring.transfers (by decide)) inferInstance (fun pattern held' => ?_)
        fun pattern => .bind fun escape => .build fun sheltered =>
          sheltered.right (by simp [Expr.rightOperands])
      refine .bind (optionalTail_transfers sub .ESCAPE (by decide)) inferInstance
        (fun escape held'' => ?_) fun escape => .build fun sheltered e present =>
          sheltered.right (by simp_all [Expr.rightOperands])
      refine .of_insensitive inferInstance (.build (Expr.sheltered_iff.mpr ?_))
      simp_all [Expr.isEquality, Expr.leftOperand?, Expr.rightOperands]
    · refine .of_insensitive (.bind inferInstance fun keyword => .bind inferInstance fun lparen =>
        .bind inferInstance fun values => ?_) ?_
      · split <;> infer_instance
      · refine .bind fun keyword => .bind fun lparen => .bind fun values => ?_
        split
        · exact .build ((Expr.sheltered_iff_left rfl rfl rfl).mpr held)
        · exact .fail
  · intro t c d e kind here h
    simp only [Token.keyword?, TokenKind.keyword?, kind] at h
    obtain ⟨_, _, run, _⟩ := bind_ok h
    obtain ⟨_, accepted, _⟩ := require_ok run
    exact absurd (here ▸ kind) (Token.IgnoresEq.ne_eq (·.isKeyword .IN) accepted)

theorem keywordOperator_operates {k : Keyword} {next : Token} {operator : Parser Expr}
    (strong : .assignment < k.precedence) (precedence : t.precedence = k.precedence)
    (found : keywordOperator sub left k next = some operator) : Operates t left operator := by
  unfold keywordOperator at found
  split at found
  case h_1 | h_2 =>
    cases found
    exact binary_operates sub (precedence ▸ Precedence.le_of_lt strong)
  case h_3 =>
    cases found
    exact isNull_operates
  case h_4 =>
    split at found
    · cases found
      exact ⟨.bind fun not => pattern_back sub _, fun other held =>
        .take other inferInstance (pattern_transfers sub _ held)⟩
    · cases found
  case h_5 | h_6 | h_7 =>
    cases found
    exact ⟨pattern_back sub none, fun _ held => .of_anywhere (pattern_transfers sub none held)⟩
  case h_8 =>
    cases found
    exact collate_operates
  case h_9 =>
    split at found
    · cases found
      exact window_operates sub
    · cases found
  case h_16 => cases found
  -- Operators on queries bind less tightly than an assignment.
  all_goals exact absurd strong (by decide)

theorem operator?_operates {next : Token} {operator : Parser Expr}
    (strong : .assignment < t.precedence) (found : operator? sub left t next = some operator) :
    Operates t left operator := by
  unfold operator? at found
  unfold Token.precedence at strong
  generalize kind : t.kind = k at found strong
  split at found
  case h_1 =>
    split at found
    · cases found
      exact call_operates sub
    · cases found
  case h_2 => exact absurd strong (by decide)
  case h_3 => exact absurd strong (Nat.lt_irrefl _)
  case h_4 | h_5 =>
    cases found
    refine binary_operates sub (Precedence.le_of_lt ?_)
    rwa [Token.precedence, kind]
  case h_6 => exact keywordOperator_operates sub strong (by rw [Token.precedence, kind]; rfl) found
  case h_7 => cases found

variable {min : Precedence} (strong : .assignment ≤ min)

include strong

theorem applyOperator_back (left : Expr) :
    Returns (fun next => ∀ e ∈ next, e.Sheltered → left.Sheltered) (applyOperator sub min left) := by
  unfold applyOperator
  refine .bind fun t => ?_
  split
  · next tighter =>
    refine .bind fun next => ?_
    cases found : operator? sub left t next with
    | none => exact .pure (by simp)
    | some operator =>
      have operates := operator?_operates sub (Precedence.lt_of_le_of_lt strong tighter) found
      refine .seq operates.back fun e back => .pure fun e' same => ?_
      cases same
      exact back
  · exact .pure (by simp)

theorem applyOperator_transfers (held : left.Sheltered) :
    TransfersAnywhere (fun next => ∀ e ∈ next, e.Sheltered) (applyOperator sub min left) := by
  unfold applyOperator
  refine .current (inferInstanceAs (Framed (applyOperator sub min left))) (fun t other => ?_) ?_
  · split
    · next tighter =>
      refine .lookahead fun next => ?_
      cases found : operator? sub left t next with
      | none => exact .of_insensitive inferInstance (.pure (by simp))
      | some operator =>
        have operates := operator?_operates sub (Precedence.lt_of_le_of_lt strong tighter) found
        refine .bind (operates.transfers other held) inferInstance (fun e sheltered => ?_)
          fun e => .pure fun sheltered => sheltered e rfl
        exact .of_insensitive inferInstance (.pure (by simpa using sheltered))
    · exact .of_insensitive inferInstance (.pure (by simp))
  · intro t c d next kind here h sheltered
    have weak : ¬ min < t.asAssignment.precedence := by
      have power : t.asAssignment.precedence = .assignment := by
        simp [Token.asAssignment, kind, Token.precedence, TokenKind.precedence]
      exact power ▸ Nat.not_lt.mpr strong
    rw [if_neg weak]
    split at h
    · rw [lookahead_bind, show operator? sub left t c.lookahead = some (binary sub left) by
        simp [operator?, kind]] at h
      obtain ⟨e, _, run, h⟩ := bind_ok h
      obtain ⟨rfl, _⟩ := pure_ok h
      exact absurd (sheltered e rfl) (binary_not_sheltered sub (here ▸ kind) run)
    · cases h
      rfl

theorem expression_transfers : TransfersAnywhere Expr.Sheltered (expression sub min) := by
  unfold expression
  exact .bind (operand_transfers sub) inferInstance
    (fun e held => .loop inferInstance (fun _ => applyOperator_transfers sub strong)
      (applyOperator_back sub strong) held)
    (Transfers.loop_back (applyOperator_back sub strong))

end Operators

end Grammar

instance Parser.expr_transferring (depth : Nat) : Grammar.Transferring (Parser.expr depth) := by
  induction depth with
  | zero => exact ⟨inferInstance, fun _ => .of_insensitive
      (inferInstanceAs (Parser.Insensitive (Parser.fail .nestingTooDeep))) .fail⟩
  | succ depth ih => exact ⟨inferInstance, Grammar.expression_transfers _⟩

end TransactSql
