import TransactSql.Proofs.Binding.Clauses
import TransactSql.Proofs.Grammar.Progress

/-!
# Parsed expressions are bound

The invariant of the loop over operators: the operator at the cursor binds no tighter than the
nodes on the right edge of what has been read, or it applies to none of them at all.
-/

namespace TransactSql

namespace Grammar

open TransactSql.Parser

/-! ### Where an expression stops -/

/-- No operator at the cursor applies to an expression that is open to the right. -/
def Refuses (c : Cursor) : Prop := ∀ (sub : Precedence → Parser Expr) (left : Expr),
  left.rightPower? ≠ none → operator? sub left c.current c.lookahead = none

/-- The next operator takes nothing from the right edge of the expression. -/
def Closes (e : Expr) (c : Cursor) : Prop := Refuses c ∨ e.Holds c.current.precedence

/-- The next operator belongs neither to the expression nor to what `min` leaves to it. -/
def Stops (min : Precedence) (e : Expr) (c : Cursor) : Prop :=
  Refuses c ∨ (c.current.precedence ≤ min ∧ e.Holds c.current.precedence)

variable {sub : Precedence → Parser Expr} {left e r : Expr} {c d : Cursor} {min p q : Precedence}

theorem closed_of_rightPower (power : e.rightPower? ≠ none) :
    isCallable e = false ∧ e.isCall = false ∧ e.isQuery = false := by
  cases e <;> simp_all [Expr.rightPower?, isCallable, Expr.name?, Expr.isCall, Expr.isQuery]

/-- An operator that does not apply here applies to nothing that is open to the right. -/
theorem refuses_of_none (none : operator? sub left c.current c.lookahead = none) : Refuses c := by
  intro sub' left' power
  obtain ⟨callable, call, query⟩ := closed_of_rightPower power
  unfold operator? at none ⊢
  generalize c.current.kind = k at none ⊢
  cases k with
  | word w =>
    cases w with
    | keyword k =>
      simp only at none ⊢
      unfold keywordOperator at none ⊢
      cases k <;> simp_all
    | _ => rfl
  | leftParen => simp [callable]
  | _ => simp_all

theorem closes_of_closed (closed : e.rightPower? = none) : Closes e c :=
  .inr (Expr.holds_of_closed closed)

theorem binds_of_closed (closed : e.Closed) : e.Fits min ∧ Closes e c :=
  ⟨closed.fits, closes_of_closed closed.right⟩

theorem closes_of_last (power : e.rightPower? = some q) (last : e.rightOperands.getLast? = some r)
    (stops : Stops q r c) : Closes e c := by
  rcases stops with refuses | ⟨weaker, holds⟩
  · exact .inl refuses
  · exact .inr (Expr.holds_of_last power last weaker holds)

/-- An operator that applies takes nothing from the right edge. -/
theorem holds_of_operator {operator : Parser Expr} (closes : Closes left c)
    (found : operator? sub left c.current c.lookahead = some operator) :
    left.Holds c.current.precedence := by
  rcases closes with refuses | holds
  · cases power : left.rightPower? with
    | none => exact Expr.holds_of_closed power
    | some q =>
      have none := refuses sub left (by simp [power])
      rw [none] at found
      cases found
  · exact holds

/-- Parsers of expressions, one for each power, that stop before a weaker operator. -/
class Binding (sub : Precedence → Parser Expr) : Prop extends Fitting sub where
  stops : ∀ {min : Precedence} {c d : Cursor} {e : Expr}, c.Ends → sub min c = .ok e d → Stops min e d

theorem Ends.advance (ends : c.Ends) : c.advance.Ends := by
  have run : take c = .ok c.current c.advance := rfl
  exact ends.after run

section Operators

variable [Binding sub] (ends : c.Ends) (fits : left.Fits min)

include ends fits

theorem binary_binds (tighter : min < c.current.precedence)
    (holds : left.Holds c.current.precedence) (strong : .comma ≤ c.current.precedence)
    (h : binary sub left c = .ok e d) : e.Fits min ∧ Closes e d := by
  unfold binary at h
  rw [take_bind] at h
  obtain ⟨right, _, run, h⟩ := bind_ok h
  obtain ⟨rfl, rfl⟩ := build_ok h
  have good := Fitting.fits (Ends.advance ends) run
  refine ⟨?_, closes_of_last rfl rfl (Binding.stops (Ends.advance ends) run)⟩
  refine Expr.fits_of_infix rfl rfl tighter fits.above holds ?_ ?_
  · rintro q ⟨⟩
    simpa [Expr.rightOperands] using ⟨strong, good.above⟩
  · simpa [Expr.children] using ⟨fits.sound, good.sound⟩

theorem assignment_binds (tighter : min < .assignment) (holds : left.Holds .assignment)
    (h : assignment sub left c = .ok e d) : e.Fits min ∧ Closes e d := by
  unfold assignment at h
  dsimp only at h
  split at h
  · exact absurd h fail_ok
  · rw [take_bind] at h
    obtain ⟨value, _, run, h⟩ := bind_ok h
    obtain ⟨rfl, rfl⟩ := build_ok h
    have good := Fitting.fits (Ends.advance ends) run
    refine ⟨?_, closes_of_last rfl rfl (Binding.stops (Ends.advance ends) run)⟩
    refine Expr.fits_of_infix rfl rfl tighter fits.above holds ?_ ?_
    · rintro q ⟨⟩
      simpa [Expr.rightOperands] using ⟨by decide, good.above⟩
    · simpa [Expr.children] using ⟨fits.sound, good.sound⟩

omit ends [Binding sub] in
theorem isNull_binds (tighter : min < .comparison) (holds : left.Holds .comparison)
    (h : isNull left c = .ok e d) : e.Fits min ∧ Closes e d := by
  unfold isNull at h
  obtain ⟨_, _, _, h⟩ := bind_ok h
  obtain ⟨_, _, _, h⟩ := bind_ok h
  obtain ⟨_, _, _, h⟩ := bind_ok h
  obtain ⟨rfl, rfl⟩ := build_ok h
  refine ⟨?_, closes_of_closed rfl⟩
  exact Expr.fits_of_infix rfl rfl tighter fits.above holds (by simp [Expr.rightPower?])
    (by simpa [Expr.children] using fits.sound)

omit ends [Binding sub] in
theorem collate_binds (tighter : min < .postfixed) (holds : left.Holds .postfixed)
    (h : collate left c = .ok e d) : e.Fits min ∧ Closes e d := by
  unfold collate at h
  obtain ⟨_, _, _, h⟩ := bind_ok h
  obtain ⟨_, _, _, h⟩ := bind_ok h
  obtain ⟨rfl, rfl⟩ := build_ok h
  refine ⟨?_, closes_of_closed rfl⟩
  exact Expr.fits_of_infix rfl rfl tighter fits.above holds (by simp [Expr.rightPower?])
    (by simpa [Expr.children] using fits.sound)

variable [∀ min, Framed (sub min)]

theorem call_binds (tighter : min < .postfixed) (holds : left.Holds .postfixed)
    (h : call sub left c = .ok e d) : e.Fits min ∧ Closes e d := by
  unfold call at h
  cases callee : castKeyword? left with
  | some keyword =>
    rw [callee] at h
    exact binds_of_closed (cast_closed sub ends h)
  | none =>
    rw [callee] at h
    obtain ⟨lparen, _, ends, h⟩ := ends.pass h
    obtain ⟨⟨args, rparen⟩, _, good, _, h⟩ := ends.bind h
    obtain ⟨rfl, rfl⟩ := build_ok h
    refine ⟨?_, closes_of_closed rfl⟩
    refine Expr.fits_of_infix rfl rfl tighter fits.above holds (by simp [Expr.rightPower?]) ?_
    simpa [Expr.children] using ⟨fits.sound, fun x given => (good x given).sound⟩

/-- The operand behind `ESCAPE` is the last one if it is there. -/
theorem pattern_binds {not : Option Token} (tighter : min < .pattern) (holds : left.Holds .pattern)
    (h : pattern sub left not c = .ok e d) : e.Fits min ∧ Closes e d := by
  unfold pattern at h
  simp only [current_bind] at h
  generalize c.current.keyword? = k at h
  split at h
  · obtain ⟨keyword, _, ends, h⟩ := ends.pass h
    obtain ⟨low, _, good, ends, h⟩ := ends.bind h
    obtain ⟨and, _, ends, h⟩ := ends.pass h
    obtain ⟨high, _, run, h⟩ := bind_ok h
    obtain ⟨rfl, rfl⟩ := build_ok h
    have good' := Fitting.fits ends run
    refine ⟨?_, closes_of_last rfl rfl (Binding.stops ends run)⟩
    refine Expr.fits_of_infix rfl rfl tighter fits.above holds ?_ ?_
    · rintro q ⟨⟩
      simpa [Expr.rightOperands] using ⟨by decide, good.above, good'.above⟩
    · simpa [Expr.children] using ⟨fits.sound, good.sound, good'.sound⟩
  · obtain ⟨keyword, _, ends, h⟩ := ends.pass h
    obtain ⟨pattern, f, run, h⟩ := bind_ok h
    have good := Fitting.fits ends run
    have stops := Binding.stops ends run
    obtain ⟨escape, g, escaped, h⟩ := bind_ok h
    obtain ⟨rfl, rfl⟩ := build_ok h
    unfold optionalTail at escaped
    obtain ⟨keyword, f', eaten, tail⟩ := bind_ok escaped
    rcases eat_ok eaten with ⟨rfl, _, rfl⟩ | ⟨rfl, rfl, _⟩
    · obtain ⟨value, _, run', tail⟩ := bind_ok tail
      cases tail
      have good' := Fitting.fits (Ends.advance (ends.after run)) run'
      refine ⟨?_, closes_of_last rfl rfl (Binding.stops (Ends.advance (ends.after run)) run')⟩
      refine Expr.fits_of_infix rfl rfl tighter fits.above holds ?_ ?_
      · rintro q ⟨⟩
        simpa [Expr.rightOperands, Tail.value?] using ⟨by decide, good.above, good'.above⟩
      · simpa [Expr.children, Tail.value?] using ⟨fits.sound, good.sound, good'.sound⟩
    · cases tail
      refine ⟨?_, closes_of_last rfl rfl stops⟩
      refine Expr.fits_of_infix rfl rfl tighter fits.above holds ?_ ?_
      · rintro q ⟨⟩
        simpa [Expr.rightOperands, Tail.value?] using ⟨by decide, good.above⟩
      · simpa [Expr.children, Tail.value?] using ⟨fits.sound, good.sound⟩
  · obtain ⟨keyword, _, ends, h⟩ := ends.pass h
    obtain ⟨lparen, _, ends, h⟩ := ends.pass h
    obtain ⟨⟨values, rparen⟩, _, good, _, h⟩ := ends.bind h
    cases values with
    | none => exact absurd h fail_ok
    | some values =>
      obtain ⟨rfl, rfl⟩ := build_ok h
      refine ⟨?_, closes_of_closed rfl⟩
      refine Expr.fits_of_infix rfl rfl tighter fits.above holds (by simp [Expr.rightPower?]) ?_
      simpa [Expr.children] using ⟨fits.sound, (good values rfl).sound⟩

/-- Before a comma the list so far closes; behind an item the item does. -/
theorem list_binds (tighter : min < .comma) (comma : c.current.precedence = .comma)
    (h : list sub left c = .ok e d) : e.Fits min ∧ Closes e d := by
  unfold list commaTail at h
  obtain ⟨⟨items, separators⟩, f, run, h⟩ := bind_ok h
  have read := loop_invariant (fun (read : List Expr × List Token) c => c.Ends ∧
    ∃ rest, read.1 = left :: rest ∧ (∀ x ∈ rest, x.Fits .comma) ∧
      ∀ separators, Closes (.list (left :: rest) separators) c) ?_ ?_ run
  · obtain ⟨_, rest, rfl, others, closes⟩ := read
    obtain ⟨rfl, rfl⟩ := build_ok h
    exact ⟨Expr.fits_list tighter fits others, closes separators⟩
  · rintro ⟨items, separators⟩ c next d ⟨ends, rest, rfl, others, closes⟩ round
    refine ⟨ends.after round, ?_⟩
    unfold commaItem at round
    obtain ⟨found, c', eaten, more⟩ := bind_ok round
    rcases eat_ok eaten with ⟨rfl, _, rfl⟩ | ⟨rfl, rfl, _⟩
    · obtain ⟨item, _, run, more⟩ := bind_ok more
      cases more
      have good := Fitting.fits (Ends.advance ends) run
      refine ⟨rest ++ [item], rfl, ?_, fun separators => ?_⟩
      · intro x member
        rcases List.mem_append.mp member with before | last
        · exact others x before
        · rw [List.mem_singleton.mp last]
          exact good
      · refine closes_of_last (r := item) rfl ?_ (Binding.stops (Ends.advance ends) run)
        simp [Expr.rightOperands]
    · cases more
      exact ⟨rest, rfl, others, closes⟩
  · refine ⟨ends, [], rfl, by simp, fun separators => .inr ?_⟩
    intro x member q power
    rw [Expr.rightSpine_eq] at member
    simp only [Expr.rightOperands, List.tail_cons, List.getLast?_nil, Option.map_none,
      Option.getD_none, List.mem_singleton] at member
    subst member
    cases power
    rw [comma]
    exact Nat.le_refl _

/-- An operator that a keyword stands for binds as the keyword does. -/
theorem keywordOperator_binds {k : Keyword} {operator : Parser Expr}
    (power : c.current.precedence = k.precedence) (tighter : min < k.precedence)
    (holds : left.Holds k.precedence)
    (found : keywordOperator sub left k c.lookahead = some operator) (h : operator c = .ok e d) :
    e.Fits min ∧ Closes e d := by
  unfold keywordOperator at found
  split at found
  case h_1 | h_2 =>
    cases found
    exact binary_binds ends fits (power ▸ tighter) (power ▸ holds) (power ▸ by decide) h
  case h_3 =>
    cases found
    exact isNull_binds fits tighter holds h
  case h_4 =>
    split at found
    · cases found
      rw [take_bind] at h
      exact pattern_binds (Ends.advance ends) fits tighter holds h
    · cases found
  case h_5 | h_6 | h_7 =>
    cases found
    exact pattern_binds ends fits tighter holds h
  case h_8 =>
    cases found
    exact collate_binds fits tighter holds h
  case h_9 =>
    split at found
    · cases found
      obtain ⟨window, _, good, _, h⟩ := ends.bind h
      obtain ⟨rfl, rfl⟩ := build_ok h
      refine ⟨?_, closes_of_closed rfl⟩
      refine Expr.fits_of_infix rfl rfl tighter fits.above holds (by simp [Expr.rightPower?]) ?_
      intro x member
      simp only [Expr.children, List.mem_cons] at member
      rcases member with rfl | inOver
      · exact fits.sound
      · exact good x inOver
    · cases found
  case h_10 | h_11 | h_12 =>
    split at found
    · cases found
      exact binds_of_closed (setOperation_closed sub ends fits.sound h)
    · cases found
  case h_13 =>
    split at found
    · cases found
      exact binds_of_closed (orderBy_closed sub ends fits.sound h)
    · cases found
  case h_14 =>
    split at found
    · cases found
      exact binds_of_closed (forOption_closed fits.sound h)
    · cases found
  case h_15 =>
    split at found
    · cases found
      exact binds_of_closed (hintOption_closed fits.sound h)
    · cases found
  case h_16 => cases found

end Operators

/-! ### The loop over operators -/

theorem operator?_binds [Binding sub] [∀ min, Framed (sub min)] {operator : Parser Expr}
    (ends : c.Ends) (fits : left.Fits min) (closes : Closes left c)
    (tighter : min < c.current.precedence)
    (found : operator? sub left c.current c.lookahead = some operator) (h : operator c = .ok e d) :
    e.Fits min ∧ Closes e d := by
  have holds := holds_of_operator closes found
  unfold operator? at found
  unfold Token.precedence at tighter holds
  generalize here : c.current.kind = k at found tighter holds
  have power : c.current.precedence = k.precedence := by rw [Token.precedence, here]
  split at found
  case h_1 =>
    split at found
    · cases found
      exact call_binds ends fits tighter holds h
    · cases found
  case h_2 =>
    cases found
    exact list_binds ends fits tighter power h
  case h_3 =>
    cases found
    exact assignment_binds ends fits tighter holds h
  case h_4 op | h_5 op =>
    cases found
    refine binary_binds ends fits (power ▸ tighter) (power ▸ holds) (power ▸ ?_) h
    cases op <;> decide
  case h_6 => exact keywordOperator_binds ends fits power tighter holds found h
  case h_7 => cases found

/-- An operator before its operand takes it with the power `q`. -/
theorem unary_binds [Binding sub] (ends : c.Ends)
    (power : (if c.current.isKeyword .NOT then .not else .unary) = q)
    (h : (do let operator ← take; build (Checked.unary operator (← sub q))) c = .ok e d) :
    e.Fits min ∧ Closes e d := by
  rw [take_bind] at h
  obtain ⟨operand, _, run, h⟩ := bind_ok h
  obtain ⟨rfl, rfl⟩ := build_ok h
  have good := Fitting.fits (Ends.advance ends) run
  have open' : (Expr.unary c.current operand).rightPower? = some q := by
    rw [← power]
    rfl
  refine ⟨⟨.intro ⟨⟨?_, by simp [Expr.infixPower?]⟩, ?_⟩ ?_, Expr.above_of_closed rfl⟩, ?_⟩
  · simpa [open', Expr.rightOperands] using good.above
  · rw [open', ← power]
    split <;> simp <;> decide
  · simpa [Expr.children] using good.sound
  · exact closes_of_last open' rfl (Binding.stops (Ends.advance ends) run)

/-- What an operand starts with, the loop over operators goes on with. -/
theorem operand_binds [Binding sub] [∀ min, Framed (sub min)] (min : Precedence) (ends : c.Ends)
    (h : operand sub c = .ok e d) : e.Fits min ∧ Closes e d := by
  have atom : ∀ {e : Expr}, e.infixPower? = none → e.rightPower? = none → e.children = [] →
      e.Fits min ∧ Closes e d := fun left right none =>
    binds_of_closed ⟨left, right, by simp [none]⟩
  unfold operand at h
  simp only [current_bind] at h
  generalize here : c.current.kind = k at h
  split at h
  case h_1 => exact absurd h failAtError_ok
  case h_2 | h_3 | h_4 | h_9 =>
    refine unary_binds ends ?_ h
    simp [Token.isKeyword, Token.keyword?, here, TokenKind.keyword?, Word.keyword?]
  case h_5 => exact binds_of_closed (paren_closed sub ends h)
  case h_6 =>
    rw [take_bind] at h
    cases build_bind_ok h
    exact atom rfl rfl rfl
  case h_7 | h_8 =>
    rw [take_bind] at h
    obtain ⟨rfl, rfl⟩ := build_ok h
    exact atom rfl rfl rfl
  case h_10 => exact binds_of_closed (caseExpr_closed sub ends h)
  case h_11 => exact binds_of_closed (select_closed sub ends h)
  case h_12 =>
    split at h
    · obtain ⟨n, _, _, h⟩ := bind_ok h
      cases h
      exact atom rfl rfl rfl
    · exact absurd h failExpected_ok
  case h_13 => exact absurd h failExpected_ok

theorem applyOperator_binds [Binding sub] [∀ min, Framed (sub min)] {next : Option Expr}
    (ends : c.Ends) (fits : left.Fits min) (closes : Closes left c)
    (h : applyOperator sub min left c = .ok next d) :
    (∃ e, next = some e ∧ (e.Fits min ∧ Closes e d) ∧ c.Shortens d)
      ∨ (next = none ∧ Stops min left d) := by
  unfold applyOperator at h
  simp only [current_bind] at h
  split at h
  · next tighter =>
    obtain ⟨ready, _⟩ := Cursor.ready_of_precedence ends tighter
    rw [lookahead_bind] at h
    cases found : operator? sub left c.current c.lookahead with
    | some operator =>
      rw [found] at h
      obtain ⟨e, _, run, h⟩ := bind_ok h
      cases h
      exact .inl ⟨e, rfl, operator?_binds ends fits closes tighter found run,
        operator?_shortens sub ready found run⟩
    | none =>
      rw [found] at h
      cases h
      exact .inr ⟨rfl, .inl (refuses_of_none found)⟩
  · next weaker =>
    cases h
    refine .inr ⟨rfl, ?_⟩
    rcases closes with refuses | holds
    · exact .inl refuses
    · exact .inr ⟨Precedence.not_lt.mp weaker, holds⟩

instance expression_binding [Binding sub] [∀ min, Framed (sub min)] : Binding (expression sub) := by
  have spec : ∀ {min c d e}, c.Ends → expression sub min c = .ok e d →
      e.Fits min ∧ Stops min e d := by
    intro min c d e ends h
    unfold expression at h
    obtain ⟨first, c', run, h⟩ := bind_ok h
    obtain ⟨fits, closes⟩ := operand_binds min ends run
    refine loop_exit (fun (e : Expr) c => c.Ends ∧ e.Fits min ∧ Closes e c)
      (fun e d => e.Fits min ∧ Stops min e d) ?_ ?_ ⟨ends.after run, fits, closes⟩ h
    · rintro left c e d ⟨ends, fits, closes⟩ round
      rcases applyOperator_binds ends fits closes round with ⟨_, ⟨⟩, both, shorter⟩ | ⟨⟨⟩, _⟩
      exact ⟨⟨ends.after round, both⟩, shorter⟩
    · rintro left c d ⟨ends, fits, closes⟩ round
      rcases applyOperator_binds ends fits closes round with ⟨_, ⟨⟩, _⟩ | ⟨_, stops⟩
      exact ⟨fits, stops⟩
  exact { fits := fun ends h => (spec ends h).1, stops := fun ends h => (spec ends h).2 }

end Grammar

/-- Expressions of any depth bind as their powers say. -/
instance Parser.expr_binding (depth : Nat) : Grammar.Binding (Parser.expr depth) := by
  induction depth with
  | zero =>
    refine { fits := fun _ h => ?_, stops := fun _ h => ?_ }
    · exact absurd h Parser.fail_ok
    · exact absurd h Parser.fail_ok
  | succ depth ih => exact Grammar.expression_binding

/-- Operators in parsed expressions bind as their powers say: everywhere in the expression, what
stands to the right of a node binds tighter than the node, and what stands to the left of one
no weaker. The operators on its left edge bind tighter than asked for. -/
theorem Parser.expr_everywhere_bound {depth : Nat} {min : Precedence} {c d : Cursor} {e : Expr}
    (ends : c.eof.isEof = true) (h : Parser.expr depth min c = .ok e d) :
    e.Everywhere Expr.Bound ∧ e.Above min := by
  obtain ⟨sound, above⟩ := (Parser.expr_binding depth).fits ends h
  exact ⟨sound.mono fun _ sound => sound.bound, above⟩

/-- Operators of most powers, before and behind their operands. -/
theorem Parser.expr_everywhere_bound_mixed : ∃ e d,
    Parser.expr 9 .none (.ofText "NOT a = -b * c AND d BETWEEN 1 AND 2 OR f(1, 2) LIKE g") = .ok e d ∧
      e.Everywhere Expr.Bound ∧ e.Above .none := by
  have accepted : (match Parser.expr 9 .none
      (.ofText "NOT a = -b * c AND d BETWEEN 1 AND 2 OR f(1, 2) LIKE g") with
    | .ok _ _ => true
    | .error _ _ => false) = true := by decide +kernel
  split at accepted
  · next e d run => exact ⟨e, d, run, Parser.expr_everywhere_bound (by decide +kernel) run⟩
  · cases accepted

end TransactSql
