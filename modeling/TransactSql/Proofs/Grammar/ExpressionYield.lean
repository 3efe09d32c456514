import TransactSql.Grammar.Expression
import TransactSql.Proofs.Grammar.QueryYield

/-!
# Expressions keep their tokens
-/

namespace TransactSql

@[simp]
theorem WhenClause.slotsOf_eq (ws : List WhenClause) :
    WhenClause.slotsOf ws = ws.map WhenClause.tree := by
  induction ws with
  | nil => rfl
  | cons w ws ih => simp [WhenClause.slotsOf, ih]

attribute [simp] WhenClause.tree OverClause.tree

namespace Grammar

open TransactSql.Parser

variable (sub : Precedence → Parser Expr) [∀ min, Yields (sub min) fun e => [e.tree]]

/-! ### Operands -/

instance : Yields (whenClause sub) fun w => [w.tree] where
  reads ready h := by
    unfold whenClause at h
    obtain ⟨whenToken, _, r, h⟩ := (Cursor.Reads.start ready).bind h
    obtain ⟨condition, _, r, h⟩ := r.bind h
    obtain ⟨thenToken, _, r, h⟩ := r.bind h
    obtain ⟨result, _, r, h⟩ := r.bind h
    obtain ⟨rfl, rfl⟩ := build_ok h
    exact r.of_tokens (by simp)

theorem moreWhens_reads {b c d : Cursor} {whens : List WhenClause} {next : Option (List WhenClause)}
    {slots : List Tree} (r : b.Reads (slots ++ whens.map WhenClause.tree) c)
    (h : moreWhens sub whens c = .ok next d) :
    b.Reads (slots ++ (next.getD whens).map WhenClause.tree) d := by
  unfold moreWhens at h
  simp only [atKeyword_bind] at h
  split at h
  · obtain ⟨w, _, r, h⟩ := r.bind h
    cases h
    exact r.of_tokens (by simp)
  · cases h
    exact r

instance (k : Keyword) (value : Parser Expr) [Yields value fun e => [e.tree]] :
    Yields (optionalTail k value) Tail.slots where
  reads ready h := by
    unfold optionalTail at h
    obtain ⟨keyword, _, r, h⟩ := (Cursor.Reads.start ready).bind h
    cases keyword with
    | none =>
      cases h
      exact r
    | some keyword =>
      obtain ⟨e, _, r, h⟩ := r.bind h
      cases h
      exact r

instance : Yields (caseOperand sub) Expr.optionalSlot where
  reads ready h := by
    unfold caseOperand at h
    simp only [atKeyword_bind] at h
    split at h
    · cases h
      exact .start ready
    · obtain ⟨e, _, r, h⟩ := (Cursor.Reads.start ready).bind h
      cases h
      exact r

theorem caseExpr_reads {c d : Cursor} {e : Expr} (ready : c.Ready)
    (source : c.current.isSource = true) (h : caseExpr sub c = .ok e d) : c.Reads [e.tree] d := by
  unfold caseExpr at h
  obtain ⟨r, h⟩ := (Cursor.Reads.start ready).take source h
  obtain ⟨_, inside, h, leave⟩ := reads_withAssignment r h
  obtain ⟨operand, _, inside, h⟩ := inside.bind h
  obtain ⟨first, _, inside, h⟩ := inside.bind h
  obtain ⟨whens, _, run, h⟩ := bind_ok h
  have inside := loop_invariant (fun (whens : List WhenClause) e =>
    Cursor.Reads _ (_ ++ whens.map WhenClause.tree) e) (moreWhens_reads sub) inside run
  obtain ⟨otherwise, _, inside, h⟩ := inside.bind h
  obtain ⟨endToken, _, inside, h⟩ := inside.bind h
  obtain ⟨rfl, rfl⟩ := build_ok h
  exact (leave inside).of_tokens (by simp [Expr.tree])

/-- An operator before its operand. -/
theorem unary_reads {c d : Cursor} {e : Expr} {min : Precedence} (ready : c.Ready)
    (source : c.current.isSource = true)
    (h : (do let operator ← take; build (Checked.unary operator (← sub min))) c = .ok e d) :
    c.Reads [e.tree] d := by
  obtain ⟨r, h⟩ := (Cursor.Reads.start ready).take source h
  obtain ⟨operand, _, r, h⟩ := r.bind h
  obtain ⟨rfl, rfl⟩ := build_ok h
  exact r.of_tokens (by simp [Expr.tree])

/-- A literal of one token. -/
theorem literal_reads {c d : Cursor} {e : Expr} (ready : c.Ready) (source : c.current.isSource = true)
    (h : (do build (Checked.literal (← take))) c = .ok e d) : c.Reads [e.tree] d := by
  obtain ⟨r, h⟩ := (Cursor.Reads.start ready).take source h
  obtain ⟨rfl, rfl⟩ := build_ok h
  exact r.of_tokens (by simp [Expr.tree])

/-! ### Operators -/

section

variable {b c d : Cursor} {left e : Expr} (r : b.Reads [left.tree] c)
  (source : c.current.isSource = true)

include r source

theorem binary_reads (h : binary sub left c = .ok e d) : b.Reads [e.tree] d := by
  unfold binary at h
  obtain ⟨r, h⟩ := r.take source h
  obtain ⟨right, _, r, h⟩ := r.bind h
  obtain ⟨rfl, rfl⟩ := build_ok h
  exact r.of_tokens (by simp [Expr.tree])

theorem assignment_reads (h : assignment sub left c = .ok e d) : b.Reads [e.tree] d := by
  unfold assignment at h
  dsimp only at h
  split at h
  · exact absurd h fail_ok
  · obtain ⟨r, h⟩ := r.take source h
    obtain ⟨value, _, r, h⟩ := r.bind h
    obtain ⟨rfl, rfl⟩ := build_ok h
    exact r.of_tokens (by simp [Expr.tree])

theorem isNull_reads (h : isNull left c = .ok e d) : b.Reads [e.tree] d := by
  unfold isNull at h
  obtain ⟨r, h⟩ := r.take source h
  obtain ⟨not, _, r, h⟩ := r.bind h
  obtain ⟨null, _, r, h⟩ := r.bind h
  obtain ⟨rfl, rfl⟩ := build_ok h
  exact r.of_tokens (by simp [Expr.tree])

theorem collate_reads (h : collate left c = .ok e d) : b.Reads [e.tree] d := by
  unfold collate at h
  obtain ⟨r, h⟩ := r.take source h
  obtain ⟨collation, _, r, h⟩ := r.bind h
  obtain ⟨rfl, rfl⟩ := build_ok h
  exact r.of_tokens (by simp [Expr.tree])

end


theorem list_reads {b c d : Cursor} {left e : Expr} (r : b.Reads [left.tree] c)
    (h : list sub left c = .ok e d) : b.Reads [e.tree] d := by
  unfold list at h
  obtain ⟨⟨items, separators⟩, _, run, h⟩ := bind_ok h
  have r := commaTail_reads r run
  obtain ⟨rfl, rfl⟩ := build_ok h
  exact r.of_tokens (by simp [Expr.tree])

/-- The frame of a window and the parenthesis behind it. -/
def frameSlots (frame : Option RawTokens × Token) : List Tree :=
  (frame.1.map RawTokens.tree).toList ++ [.token frame.2]

instance : Yields windowFrame frameSlots where
  reads ready h := by
    unfold windowFrame at h
    obtain ⟨rparen, _, r, h⟩ := (Cursor.Reads.start ready).bind h
    cases rparen with
    | some rparen =>
      cases h
      exact r
    | none =>
      obtain ⟨⟨tokens, rparen⟩, _, read, h⟩ := bind_ok h
      obtain ⟨source, h⟩ := Checked.rawTokens_bind_ok h
      obtain ⟨_, _, read, leave⟩ := reads_recording r read
      have inside := readToCloseParen_reads (.refl _) r.ready.eof read source
      cases h
      exact (leave inside).of_tokens (by simp [frameSlots])

theorem overClause_reads {b c d : Cursor} {slots : List Tree} {o : OverClause} (r : b.Reads slots c)
    (source : c.current.isSource = true) (h : overClause sub c = .ok o d) :
    b.Reads (slots ++ [o.tree]) d := by
  unfold overClause at h
  obtain ⟨r, h⟩ := r.take source h
  obtain ⟨lparen, _, r, h⟩ := r.bind h
  obtain ⟨_, inside, h, leave⟩ := reads_withAssignment r h
  obtain ⟨partition, _, inside, h⟩ := inside.bind h
  obtain ⟨order, _, inside, h⟩ := inside.bind h
  obtain ⟨⟨frame, rparen⟩, _, inside, h⟩ := inside.bind h
  obtain ⟨rfl, rfl⟩ := build_ok h
  exact (leave inside).of_tokens (by simp [frameSlots])

variable [∀ min, Framed (sub min)]

theorem paren_reads {c d : Cursor} {e : Expr} (ready : c.Ready)
    (source : c.current.isSource = true) (h : paren sub c = .ok e d) : c.Reads [e.tree] d := by
  unfold paren at h
  obtain ⟨r, h⟩ := (Cursor.Reads.start ready).take source h
  obtain ⟨⟨inner, rparen⟩, _, r, h⟩ := r.bind h
  cases inner with
  | none => exact absurd h fail_ok
  | some inner =>
    obtain ⟨rfl, rfl⟩ := build_ok h
    exact r.of_tokens (by simp [Expr.tree, parenSlots])

instance : Yields (operand sub) fun e => [e.tree] where
  reads {c d e} ready h := by
    unfold operand at h
    simp only [current_bind] at h
    generalize found : c.current.kind = k at h
    split at h
    case h_1 => exact absurd h failAtError_ok
    case h_2 | h_3 | h_4 | h_9 => exact unary_reads sub ready (Token.isSource_of_kind_eq rfl found) h
    case h_5 => exact paren_reads sub ready (Token.isSource_of_kind_eq rfl found) h
    case h_6 =>
      obtain ⟨r, h⟩ := (Cursor.Reads.start ready).take (Token.isSource_of_kind_eq rfl found) h
      cases build_bind_ok h
      exact r.of_tokens (by simp [Expr.tree])
    case h_7 | h_8 => exact literal_reads ready (Token.isSource_of_kind_eq rfl found) h
    case h_10 => exact caseExpr_reads sub ready (Token.isSource_of_kind_eq rfl found) h
    case h_11 =>
      have r := (Cursor.Reads.start ready).next h
      exact r
    case h_12 =>
      split at h
      · obtain ⟨n, _, r, h⟩ := (Cursor.Reads.start ready).bind h
        cases h
        exact r.of_tokens (by simp [Expr.tree])
      · exact absurd h failExpected_ok
    case h_13 => exact absurd h failExpected_ok

/-! ### Operators with parentheses -/

theorem eq_name_of_castKeyword? {e : Expr} {keyword : Token}
    (callee : castKeyword? e = some keyword) : e = .name ⟨[keyword]⟩ := by
  unfold castKeyword? at callee
  split at callee
  · split at callee
    · cases callee
      rfl
    · cases callee
  · cases callee

section

variable {b c d : Cursor} {left e : Expr} (r : b.Reads [left.tree] c)
  (source : c.current.isSource = true)

include r source

theorem cast_reads {keyword : Token} (callee : castKeyword? left = some keyword)
    (h : cast sub keyword c = .ok e d) : b.Reads [e.tree] d := by
  cases eq_name_of_castKeyword? callee
  unfold cast at h
  obtain ⟨r, h⟩ := r.take source h
  obtain ⟨_, inside, h, leave⟩ := reads_withAssignment r h
  obtain ⟨operand, _, inside, h⟩ := inside.bind h
  obtain ⟨asToken, _, inside, h⟩ := inside.bind h
  obtain ⟨type, _, inside, h⟩ := inside.bind h
  obtain ⟨rparen, _, inside, h⟩ := inside.bind h
  obtain ⟨rfl, rfl⟩ := build_ok h
  exact (leave inside).of_tokens (by simp [Expr.tree])

theorem call_reads (h : call sub left c = .ok e d) : b.Reads [e.tree] d := by
  unfold call at h
  cases callee : castKeyword? left with
  | some keyword =>
    rw [callee] at h
    exact cast_reads sub r source callee h
  | none =>
    rw [callee] at h
    obtain ⟨r, h⟩ := r.take source h
    obtain ⟨⟨args, rparen⟩, _, r, h⟩ := r.bind h
    obtain ⟨rfl, rfl⟩ := build_ok h
    exact r.of_tokens (by simp [Expr.tree, parenSlots])

end

/-- The patterns, behind a `NOT` that may have been read. -/
theorem pattern_reads {b c d : Cursor} {left e : Expr} {not : Option Token}
    (r : b.Reads (left.tree :: Tree.optionalToken not) c) (h : pattern sub left not c = .ok e d) :
    b.Reads [e.tree] d := by
  unfold pattern at h
  simp only [current_bind] at h
  generalize found : c.current.keyword? = k at h
  split at h
  · obtain ⟨r, h⟩ := r.take (Token.isSource_of_keyword? found) h
    obtain ⟨low, _, r, h⟩ := r.bind h
    obtain ⟨and, _, r, h⟩ := r.bind h
    obtain ⟨high, _, r, h⟩ := r.bind h
    obtain ⟨rfl, rfl⟩ := build_ok h
    exact r.of_tokens (by simp [Expr.tree])
  · obtain ⟨r, h⟩ := r.take (Token.isSource_of_keyword? found) h
    obtain ⟨pattern, _, r, h⟩ := r.bind h
    obtain ⟨escape, _, r, h⟩ := r.bind h
    obtain ⟨rfl, rfl⟩ := build_ok h
    exact r.of_tokens (by simp [Expr.tree])
  · obtain ⟨keyword, _, r, h⟩ := r.bind h
    obtain ⟨lparen, _, r, h⟩ := r.bind h
    obtain ⟨⟨values, rparen⟩, _, r, h⟩ := r.bind h
    cases values with
    | none => exact absurd h fail_ok
    | some values =>
      obtain ⟨rfl, rfl⟩ := build_ok h
      exact r.of_tokens (by simp [Expr.tree, parenSlots])

/-- Every operator of a keyword reads on from its left operand. -/
theorem keywordOperator_reads {b c d : Cursor} {left e : Expr} {k : Keyword} {operator : Parser Expr}
    (r : b.Reads [left.tree] c) (here : c.current.isSource = true)
    (found : keywordOperator sub left k c.lookahead = some operator) (h : operator c = .ok e d) :
    b.Reads [e.tree] d := by
  unfold keywordOperator at found
  split at found
  case h_1 | h_2 =>
    cases found
    exact binary_reads sub r here h
  case h_3 =>
    cases found
    exact isNull_reads r here h
  case h_4 =>
    split at found
    · cases found
      obtain ⟨r, h⟩ := r.take here h
      have negated : b.Reads (left.tree :: Tree.optionalToken (some c.current)) c.advance := r
      exact pattern_reads sub negated h
    · cases found
  case h_5 | h_6 | h_7 =>
    cases found
    exact pattern_reads sub r h
  case h_8 =>
    cases found
    exact collate_reads r here h
  case h_9 =>
    split at found
    · cases found
      obtain ⟨window, _, run, h⟩ := bind_ok h
      have r := overClause_reads sub r here run
      obtain ⟨rfl, rfl⟩ := build_ok h
      exact r.of_tokens (by simp [Expr.tree])
    · cases found
  case h_10 | h_11 | h_12 =>
    split at found
    · cases found
      exact setOperation_reads sub r here h
    · cases found
  case h_13 =>
    split at found
    · cases found
      exact orderBy_reads sub r here h
    · cases found
  case h_14 =>
    split at found
    · cases found
      exact forOption_reads r here h
    · cases found
  case h_15 =>
    split at found
    · next applies =>
      cases found
      rw [Bool.and_eq_true] at applies
      exact hintOption_reads r here (Token.isSource_of_kind rfl applies.2) h
    · cases found
  case h_16 => cases found

theorem operator?_reads {b c d : Cursor} {left e : Expr} {operator : Parser Expr}
    (r : b.Reads [left.tree] c) (found : operator? sub left c.current c.lookahead = some operator)
    (h : operator c = .ok e d) : b.Reads [e.tree] d := by
  unfold operator? at found
  generalize here : c.current.kind = k at found
  split at found
  case h_1 =>
    split at found
    · cases found
      exact call_reads sub r (Token.isSource_of_kind_eq rfl here) h
    · cases found
  case h_2 =>
    cases found
    exact list_reads sub r h
  case h_3 =>
    cases found
    exact assignment_reads sub r (Token.isSource_of_kind_eq rfl here) h
  case h_4 | h_5 =>
    cases found
    exact binary_reads sub r (Token.isSource_of_kind_eq rfl here) h
  case h_6 => exact keywordOperator_reads sub r (Token.isSource_of_kind_eq rfl here) found h
  case h_7 => cases found

theorem applyOperator_reads {b c d : Cursor} {min : Precedence} {left : Expr} {next : Option Expr}
    (r : b.Reads [left.tree] c) (h : applyOperator sub min left c = .ok next d) :
    b.Reads [(next.getD left).tree] d := by
  unfold applyOperator at h
  simp only [current_bind] at h
  split at h
  · simp only [lookahead_bind] at h
    cases found : operator? sub left c.current c.lookahead with
    | some operator =>
      rw [found] at h
      obtain ⟨e, _, run, h⟩ := bind_ok h
      cases h
      exact operator?_reads sub r found run
    | none =>
      rw [found] at h
      cases h
      exact r
  · cases h
    exact r

instance (min : Precedence) : Yields (expression sub min) fun e => [e.tree] where
  reads {c d e} ready h := by
    unfold expression at h
    obtain ⟨first, _, r, h⟩ := (Cursor.Reads.start ready).bind h
    exact loop_invariant (fun (e : Expr) d => c.Reads [e.tree] d) (applyOperator_reads sub) r h

end Grammar

/-- Expressions of any depth keep the tokens they read. -/
instance Parser.expr_yields (depth : Nat) (min : Precedence) :
    Yields (Parser.expr depth min) fun e => [e.tree] := by
  induction depth generalizing min with
  | zero =>
    refine ⟨fun _ h => ?_⟩
    unfold Parser.expr at h
    exact absurd h Parser.fail_ok
  | succ depth ih =>
    unfold Parser.expr
    infer_instance

end TransactSql
