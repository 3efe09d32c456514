import TransactSql.Proofs.Binding.Soundness
import TransactSql.Proofs.Nesting.Expressions
import TransactSql.Proofs.Nodes.Queries

/-!
# Expressions are proper

In a select list the loop over operators can make an assignment with `=`, but it stops there: what
follows the assigned value binds no tighter than the assignment. So an assignment is an item of
the list and no operand.
-/

namespace TransactSql.Grammar

open TransactSql.Parser TransactSql.Tree

variable {b : Bool}

/-- Parsers of expressions, one for each power, whose values are sound. Only an item of a select
list can be an assignment with `=`. -/
class Faithful (sub : Precedence → Parser Expr) : Prop extends Subexpressions sub, Binding sub where
  yields : ∀ min, Yields (sub min) fun e => [e.tree]
  trusted : ∀ {b : Bool} {min : Precedence}, b = false ∨ .assignment ≤ min → Trusted b (sub min)
  item : ∀ {c d : Cursor} {e : Expr}, c.Lexed → c.assignment = true → sub .comma c = .ok e d →
    e.IsItem

section

variable (sub : Precedence → Parser Expr) [faithful : Faithful sub]

instance (min : Precedence) : Yields (sub min) fun e => [e.tree] := faithful.yields min

instance (min : Precedence) : Trusted false (sub min) := faithful.trusted (.inl rfl)

instance : Trusted b (sub .assignment) := faithful.trusted (.inr (by decide))

instance : Trusted b (sub .not) := faithful.trusted (.inr (by decide))

instance : Trusted b (sub .pattern) := faithful.trusted (.inr (by decide))

instance : Trusted b (sub .unary) := faithful.trusted (.inr (by decide))

/-! ### Select lists -/

omit faithful in
theorem isColumn_of_aliased {c d : Cursor} {e named : Expr} {accepts : Token → Bool} (item : e.IsItem)
    (run : aliased e accepts c = .ok named d) : named.IsColumn := by
  unfold aliased at run
  obtain ⟨asToken, _, eaten, run⟩ := bind_ok run
  rcases eat_ok eaten with ⟨rfl, word, _⟩ | ⟨rfl, _⟩
  · obtain ⟨name, _, _, run⟩ := bind_ok run
    have optional : Sound false c.current := Checked.sound_of_isKeyword word
    have accepted := isOk_of_build run
    obtain ⟨rfl, _⟩ := build_ok run
    exact Checked.isColumn_aliased item accepted
  · dsimp only at run
    rw [current_bind] at run
    split at run
    · obtain ⟨name, _, _, run⟩ := bind_ok run
      have accepted := isOk_of_build run
      obtain ⟨rfl, _⟩ := build_ok run
      exact Checked.isColumn_aliased item accepted
    · cases run
      exact ⟨item.proper, item.lists⟩

theorem selectColumns_proper {c d : Cursor} {columns : Expr} (lexed : c.Lexed)
    (context : c.assignment = true) (run : selectColumns sub c = .ok columns d) :
    columns.tree.AllProper ∧ columns.tree.assigns = false ∧ columns.tree.renames = false := by
  unfold selectColumns at run
  obtain ⟨⟨items, separators⟩, _, read, run⟩ := bind_ok run
  have accepted := isOk_of_build run
  obtain ⟨rfl, _⟩ := build_ok run
  have each : ∀ {c d : Cursor} {e : Expr}, c.Lexed ∧ c.assignment = true →
      selectItem sub c = .ok e d → e.IsColumn := by
    intro c d e here run
    unfold selectItem at run
    obtain ⟨e, _, first, run⟩ := bind_ok run
    exact isColumn_of_aliased (faithful.item here.1 here.2 first) run
  have all := commaSeparated_all (I := fun c => c.Lexed ∧ c.assignment = true)
    (fun here moved => ⟨here.1.moved moved, moved.assignment.trans here.2⟩) each ⟨lexed, context⟩ read
  exact ⟨Checked.allProper_list all accepted, rfl, rfl⟩

instance : Trusted b (select sub) := by
  unfold select
  refine .bind inferInstance fun keyword => .bind inferInstance fun quantifier => ?_
  refine .bind inferInstance fun top => ?_
  refine .bind_known (Q := fun columns : Expr => columns.tree.AllProper ∧
    columns.tree.assigns = false ∧ columns.tree.renames = false) ?_ fun columns known => ?_
  · intro c d columns lexed _ run
    obtain ⟨_, _, inside⟩ := withAssignment_ok run
    exact selectColumns_proper sub (lexed.setAssignment true) rfl inside
  · obtain ⟨proper, assigns, renames⟩ := known
    refine .bind_known (Q := Sound false) ?_ fun clauses others => ?_
    · intro c d clauses lexed _ run
      obtain ⟨_, _, inside⟩ := withAssignment_ok run
      exact Trusted.sound (lexed.setAssignment false) rfl inside
    · exact .build fun accepted => Checked.sound_select (b := b) accepted proper assigns renames

/-! ### Operands -/

instance : Trusted false (whenClause sub) := by unfold whenClause; infer_instance

instance (whens : List WhenClause) [Sound false whens] : Trusted false (moreWhens sub whens) := by
  unfold moreWhens; infer_instance

omit faithful in
instance (k : Keyword) (value : Parser Expr) [Framed value] [Trusted b value] :
    Trusted b (optionalTail k value) := by
  unfold optionalTail
  exact .option inferInstance fun keyword => inferInstance

instance : Trusted false (caseOperand sub) := by unfold caseOperand; infer_instance

instance : Trusted b (caseExpr sub) := by
  unfold caseExpr
  refine .bind inferInstance fun keyword => .comparison (.bind inferInstance fun operand => ?_)
  exact .bind inferInstance fun first => .bind inferInstance fun whens => inferInstance

instance : Trusted b (operand sub) := by
  unfold operand
  refine .bind inferInstance fun token => ?_
  split <;> infer_instance

/-! ### Operators -/

omit faithful in
theorem Checked.tight_of_binary {left right : Expr} {operator : Token}
    (accepted : (Checked.binary left operator right).isOk = true) :
    Precedence.assignment ≤ operator.precedence := by
  simp only [Checked.binary, Shaped.isOk_bind, Check.isOk_token, Shaped.isOk_pure, Bool.and_true,
    Bool.or_eq_true] at accepted
  unfold Token.precedence
  rcases accepted with (arithmetic | comparison) | word
  · cases kind : operator.kind with
    | arithmetic op => cases op <;> decide
    | _ => simp [kind, TokenKind.isArithmetic] at arithmetic
  · cases kind : operator.kind with
    | comparison op => exact show Precedence.assignment ≤ .comparison by decide
    | _ => simp [kind, TokenKind.isComparison] at comparison
  · unfold Token.isAnyKeyword at word
    cases found : operator.keyword? with
    | none => simp [found] at word
    | some k =>
      have kind := Token.keyword?_eq_some_iff.mp found
      rw [kind]
      simp [found] at word
      rcases word with rfl | rfl <;> decide

instance (left : Expr) [Sound b left] : Trusted b (binary sub left) where
  sound {c d e} lexed context run := by
    unfold binary at run
    rw [take_bind] at run
    obtain ⟨right, c₂, operand, run⟩ := bind_ok run
    obtain ⟨raw, moved⟩ := c.moved_advance
    have lexed₁ := lexed.moved moved
    have context₁ := moved.assignment.trans context
    have tight := Checked.tight_of_binary (isOk_of_build run)
    have trusted : Trusted b (sub c.current.precedence) := faithful.trusted (.inr tight)
    have operator : Sound b c.current := lexed.sound_current context
    have sound : Sound b right := Trusted.sound lexed₁ context₁ operand
    exact Trusted.sound (Framed.lexed lexed₁ operand) (Framed.assignment context₁ operand) run

instance (target : Expr) [Sound false target] : Trusted false (assignment sub target) := by
  unfold assignment; infer_instance

omit faithful in
/-- What is assigned to is a name. -/
theorem assigns_of_assignment {c d : Cursor} {target e : Expr} (run : assignment sub target c = .ok e d) :
    target.tree.assigns = false := by
  unfold assignment at run
  dsimp only at run
  split at run
  · exact absurd run fail_ok
  · next named => cases target <;> first | rfl | simp [Expr.name?] at named

/-- In a select list an assignment is an item. -/
theorem assignment_isItem {c d : Cursor} {target e : Expr} [Sound true target] (lexed : c.Lexed)
    (context : c.assignment = true) (run : assignment sub target c = .ok e d) : e.IsItem := by
  unfold assignment at run
  dsimp only at run
  split at run
  · exact absurd run fail_ok
  · rw [take_bind] at run
    obtain ⟨value, _, operand, run⟩ := bind_ok run
    obtain ⟨raw, moved⟩ := c.moved_advance
    have sound : Sound true value :=
      Trusted.sound (lexed.moved moved) (moved.assignment.trans context) operand
    have accepted := isOk_of_build run
    obtain ⟨rfl, _⟩ := build_ok run
    exact ⟨Checked.allProper_assignment (b := true) accepted, rfl, rfl⟩

instance (first : Expr) [Sound false first] : Trusted false (list sub first) := by
  unfold list; infer_instance

omit faithful in
instance (e : Expr) [Sound b e] : Trusted b (isNull e) := by unfold isNull; infer_instance

instance (e : Expr) [Sound b e] (not : Option Token) [Sound b not] : Trusted b (pattern sub e not) where
  sound {c d made} lexed context run := by
    unfold pattern at run
    rw [current_bind] at run
    generalize c.current.keyword? = word at run
    split at run
    · exact Trusted.sound (p := do
        let keyword ← take
        let low ← sub .pattern
        let and ← Parser.keyword .AND
        build (Checked.between e not keyword low and (← sub .pattern))) lexed context run
    · exact Trusted.sound (p := do
        let keyword ← take
        let pattern ← sub .pattern
        build (Checked.like e not keyword pattern (← optionalTail .ESCAPE (sub .pattern))))
        lexed context run
    · obtain ⟨keyword, c₁, first, run⟩ := bind_ok run
      have word : Sound b keyword := Trusted.sound lexed context first
      have lexed := Framed.lexed lexed first
      have context := Framed.assignment context first
      obtain ⟨lparen, c₂, second, run⟩ := bind_ok run
      obtain ⟨rfl, isOpen, rfl⟩ := require_ok second
      obtain ⟨⟨values, rparen⟩, c₃, body, run⟩ := bind_ok run
      obtain ⟨opening, contents, closing, enclosed⟩ :=
        parenBody_sound sub lexed context (eq_of_beq isOpen) body
      cases values with
      | none => exact absurd run fail_ok
      | some values =>
        have inside := Sound.some_iff.mp contents
        have accepted := isOk_of_build run
        obtain ⟨rfl, _⟩ := build_ok run
        exact Checked.sound_isIn accepted enclosed

omit faithful in
instance (e : Expr) [Sound b e] : Trusted b (collate e) := by unfold collate; infer_instance

/-! ### Calls -/

instance (keyword : Token) : Trusted b (cast sub keyword) where
  sound {c d made} lexed context run := by
    unfold cast at run
    rw [take_bind] at run
    obtain ⟨_, _, run⟩ := withAssignment_ok run
    obtain ⟨raw, moved⟩ := c.moved_advance
    have lexed₁ := (lexed.moved moved).setAssignment false
    obtain ⟨e, c₂, first, run⟩ := bind_ok run
    have operand : Sound false e := Trusted.sound lexed₁ rfl first
    have lexed₂ := Framed.lexed lexed₁ first
    have context₂ : c₂.assignment = false := Framed.assignment rfl first
    obtain ⟨asToken, c₃, second, run⟩ := bind_ok run
    have word : Sound false asToken := Trusted.sound lexed₂ context₂ second
    obtain ⟨type, c₄, third, run⟩ := bind_ok run
    have named : Sound false type :=
      Trusted.sound (Framed.lexed lexed₂ second) (Framed.assignment context₂ second) third
    obtain ⟨rparen, c₅, close, run⟩ := bind_ok run
    obtain ⟨rfl, isClosing, _⟩ := require_ok close
    have accepted := isOk_of_build run
    obtain ⟨rfl, _⟩ := build_ok run
    have isOpen : c.current.kind = .leftParen := by
      simp only [Checked.cast, Shaped.isOk_bind, Check.isOk_kind, Bool.and_eq_true,
        beq_iff_eq] at accepted
      exact accepted.2.1
    have opening : Sound false c.current := Checked.sound_of_kind isOpen rfl (by simp)
    have closing : Sound false c₄.current := Checked.sound_of_kind (eq_of_beq isClosing) rfl (by simp)
    have ready := Cursor.ready_of_isSource lexed.eof (Token.isSource_of_kind_eq rfl isOpen)
    have start := ready.advance.setAssignment false
    obtain ⟨opens₁, ready₁⟩ := Level.ok start first
    obtain ⟨opens₂, ready₂⟩ := Level.ok ready₁ second
    obtain ⟨opens₃, _⟩ := Level.ok ready₂ third
    have reads := (((Cursor.Reads.start start).next first).next second).next third
    have balanced := ((opens₁.trans opens₂).trans opens₃).balanced reads
    exact Checked.sound_cast accepted (.inl ⟨isOpen, eq_of_beq isClosing, by simpa using balanced⟩)

instance (callee : Expr) [Sound b callee] : Trusted b (call sub callee) where
  sound {c d e} lexed context run := by
    unfold call at run
    cases found : castKeyword? callee with
    | some keyword =>
      rw [found] at run
      exact Trusted.sound (p := cast sub keyword) lexed context run
    | none =>
      rw [found] at run
      dsimp only at run
      rw [take_bind] at run
      obtain ⟨⟨args, rparen⟩, _, body, run⟩ := bind_ok run
      have accepted := isOk_of_build run
      obtain ⟨rfl, _⟩ := build_ok run
      have isOpen : c.current.kind = .leftParen := by
        simp only [Checked.call, Shaped.isOk_bind, Check.isOk_parens, Bool.and_eq_true,
          beq_iff_eq] at accepted
        exact accepted.1.1
      obtain ⟨opening, contents, closing, enclosed⟩ := parenBody_sound sub lexed context isOpen body
      exact Checked.sound_call enclosed

omit faithful in
instance : Trusted false windowFrame := by
  unfold windowFrame
  exact .option inferInstance fun rparen => inferInstance

instance : Trusted b (overClause sub) where
  sound {c d o} lexed context run := by
    unfold overClause at run
    rw [take_bind] at run
    obtain ⟨raw, moved⟩ := c.moved_advance
    have lexed₁ := lexed.moved moved
    obtain ⟨lparen, c₂, opened, run⟩ := bind_ok run
    obtain ⟨rfl, isOpen, rfl⟩ := require_ok opened
    have isOpen := eq_of_beq isOpen
    have ready := Cursor.ready_of_isSource lexed₁.eof (Token.isSource_of_kind_eq rfl isOpen)
    obtain ⟨_, _, run⟩ := withAssignment_ok run
    have start := ready.advance.setAssignment false
    obtain ⟨raw, moved⟩ := c.advance.moved_advance
    have lexed₂ := (lexed₁.moved moved).setAssignment false
    obtain ⟨partition, c₃, first, run⟩ := bind_ok run
    have parts : Sound false partition := Trusted.sound lexed₂ rfl first
    have lexed₃ := Framed.lexed lexed₂ first
    have context₃ : c₃.assignment = false := Framed.assignment rfl first
    obtain ⟨order, c₄, second, run⟩ := bind_ok run
    have sorted : Sound false order := Trusted.sound lexed₃ context₃ second
    obtain ⟨⟨frame, rparen⟩, c₅, third, run⟩ := bind_ok run
    have framed : Sound false (frame, rparen) :=
      Trusted.sound (Framed.lexed lexed₃ second) (Framed.assignment context₃ second) third
    have rest : Sound false frame := (Sound.pair_iff.mp framed).1
    have closing : Sound false rparen := (Sound.pair_iff.mp framed).2
    have accepted := isOk_of_build run
    obtain ⟨rfl, _⟩ := build_ok run
    obtain ⟨opens₁, ready₁⟩ := Level.ok start first
    obtain ⟨opens₂, ready₂⟩ := Level.ok ready₁ second
    have closed := (Parser.ClosesParen.ok ready₂ third).of_opens (opens₁.trans opens₂)
    have reads := (((Cursor.Reads.start start).next first).next second).next third
    have opening : Sound false c.advance.current := Checked.sound_of_kind isOpen rfl (by simp)
    refine Checked.sound_overClause accepted (closed.enclosed isOpen ?_)
    simpa [frameSlots] using reads

/-! ### All operators -/

/-- Where `=` may be an assignment, an operator that binds tighter makes nothing else. -/
theorem keywordOperator_trusted {left : Expr} [Sound b left] {k : Keyword} {next : Token}
    {p : Parser Expr} (tight : b = false ∨ .assignment < k.precedence)
    (h : keywordOperator sub left k next = some p) : Trusted b p := by
  unfold keywordOperator at h
  split at h
  case h_10 | h_11 | h_12 | h_13 | h_14 | h_15 =>
    rcases tight with rfl | tight
    · split at h
      · cases h
        infer_instance
      · cases h
    · exact absurd tight (by decide)
  all_goals repeat' split at h
  all_goals cases h
  all_goals infer_instance

theorem operator?_trusted {left : Expr} [Sound b left] {token next : Token} {p : Parser Expr}
    (tight : b = false ∨ .assignment < token.precedence)
    (h : operator? sub left token next = some p) : Trusted b p := by
  unfold operator? at h
  unfold Token.precedence at tight
  generalize token.kind = kind at h tight
  split at h
  case h_2 | h_3 =>
    cases h
    rcases tight with rfl | tight
    · infer_instance
    · exact absurd tight (Nat.not_lt.mpr (by simp +decide [TokenKind.precedence]))
  case h_6 => exact keywordOperator_trusted sub tight h
  all_goals repeat' split at h
  all_goals cases h
  all_goals infer_instance

theorem applyOperator_trusted {min : Precedence} (tight : b = false ∨ .assignment ≤ min)
    (left : Expr) [Sound b left] : Trusted b (applyOperator sub min left) := by
  unfold applyOperator
  refine .bind inferInstance fun token => ?_
  split
  · next tighter =>
    refine .bind inferInstance fun next => ?_
    split
    · next operator found =>
      have framed := operator?_framed sub found
      have trusted : Trusted b operator :=
        operator?_trusted sub (tight.imp_right fun least => Precedence.lt_of_le_of_lt least tighter) found
      infer_instance
    · infer_instance
  · infer_instance

theorem expression_trusted {min : Precedence} (tight : b = false ∨ .assignment ≤ min) :
    Trusted b (expression sub min) := by
  have rounds : ∀ left : {e : Expr // Sound b e}, Trusted b (applyOperator sub min left.1) :=
    fun left => applyOperator_trusted sub tight left.1
  unfold expression
  infer_instance

/-! ### Items of select lists -/

omit faithful in
theorem kind_of_precedence {t : Token} (power : t.precedence = .assignment) :
    ∃ operator, t.kind = .assignment operator := by
  unfold Token.precedence at power
  cases kind : t.kind with
  | assignment operator => exact ⟨operator, rfl⟩
  | arithmetic op =>
    rw [kind] at power
    cases op <;> cases power
  | word w =>
    rw [kind] at power
    cases w with
    | keyword k =>
      revert power
      cases k <;> nofun
    | _ => cases power
  | _ =>
    rw [kind] at power
    cases power

/-- One more operator in an item. Behind an assignment with `=` there is none: it would have to be
an assignment to the assignment. -/
theorem applyOperator_isItem {c d : Cursor} {left : Expr} {next : Option Expr} (lexed : c.Lexed)
    (context : c.assignment = true) (item : left.IsItem) (closes : Grammar.Closes left c)
    (run : applyOperator sub .comma left c = .ok next d) : (next.getD left).IsItem := by
  unfold applyOperator at run
  rw [current_bind] at run
  split at run
  · next tighter =>
    rw [lookahead_bind] at run
    cases found : operator? sub left c.current c.lookahead with
    | none =>
      rw [found] at run
      cases run
      exact item
    | some operator =>
      have framed := operator?_framed sub found
      rw [found] at run
      obtain ⟨e, _, made, run⟩ := bind_ok run
      cases run
      have holds := holds_of_operator closes found
      by_cases power : c.current.precedence = .assignment
      · obtain ⟨compound, kind⟩ := kind_of_precedence power
        simp only [operator?, kind, Option.some.injEq] at found
        subst found
        have sound := item.sound (assigns_of_assignment sub made)
        exact assignment_isItem sub lexed context made
      · have tight : .assignment < c.current.precedence := by
          revert tighter power
          cases c.current.precedence <;> decide
        have plain : left.tree.assigns = false := by
          cases left with
          | assignment target operator value =>
            -- What is assigned holds on to all operators that bind tighter.
            exact absurd (holds.power rfl) (Nat.not_le_of_lt tight)
          | _ => rfl
        have sound := item.sound plain
        have trusted := operator?_trusted (b := true) sub (.inr tight) found
        exact .of_sound (trusted.sound lexed context made)
  · cases run
    exact item

theorem expression_isItem {c d : Cursor} {e : Expr} (lexed : c.Lexed) (context : c.assignment = true)
    (run : expression sub .comma c = .ok e d) : e.IsItem := by
  unfold expression at run
  obtain ⟨first, c₁, operand, run⟩ := bind_ok run
  have sound : Sound true first := Trusted.sound lexed context operand
  obtain ⟨fits, closes⟩ := operand_binds .comma lexed.eof operand
  -- `Closes` is carried along, since it rules out an operator behind an assignment.
  have inv := loop_invariant (fun (e : Expr) (c : Cursor) =>
      (c.Lexed ∧ c.assignment = true) ∧ e.IsItem ∧ e.Fits .comma ∧ Grammar.Closes e c)
    (fun {left c next d} inv round => ?_)
    ⟨⟨Framed.lexed lexed operand, Framed.assignment context operand⟩, .of_sound sound, fits, closes⟩ run
  · exact inv.2.1
  · obtain ⟨⟨lexed, context⟩, item, fits, closes⟩ := inv
    refine ⟨⟨Framed.lexed lexed round, Framed.assignment context round⟩,
      applyOperator_isItem sub lexed context item closes round, ?_⟩
    rcases applyOperator_binds lexed.eof fits closes round with ⟨e, rfl, both, _⟩ | ⟨rfl, stops⟩
    · exact both
    · exact ⟨fits, stops.imp_right And.right⟩

instance : Faithful (expression sub) :=
  { (inferInstance : Subexpressions (expression sub)), (expression_binding : Binding (expression sub)) with
    yields := fun _ => inferInstance
    trusted := fun tight => expression_trusted sub tight
    item := fun lexed context run => expression_isItem sub lexed context run }

end

end TransactSql.Grammar

namespace TransactSql.Parser

/-- Expressions of any depth are proper. -/
instance expr_faithful (depth : Nat) : Grammar.Faithful (expr depth) := by
  induction depth with
  | zero =>
    refine { expr_subexpressions 0, expr_binding 0 with yields := expr_yields 0, trusted := ?_, item := ?_ }
    · intro b min _
      unfold expr
      infer_instance
    · intro c d e _ _ run
      exact absurd run fail_ok
  | succ depth ih => exact inferInstanceAs (Grammar.Faithful (Grammar.expression (expr depth)))

end TransactSql.Parser
