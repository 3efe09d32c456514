import TransactSql.Proofs.Binding.Scalar
import TransactSql.Proofs.Parser.Passing

/-!
# The loop over operators arrives

Before the tokens of a bound expression the loop over operators arrives at the expression: at its
left operand first, then by its operator. A right operand ends where the token behind it binds no
tighter than the operator before it.
-/

namespace TransactSql

namespace Expr

/-- A `LIKE` without `ESCAPE`. -/
def isUnescaped : Expr → Bool
  | .like _ _ _ _ .absent => true
  | _ => false

/-- No `LIKE` at the end of the pattern could take the `ESCAPE` of the node. -/
def EscapesNearest : Expr → Prop
  | .like _ _ _ pattern (.present ..) => ∀ x ∈ pattern.rightSpine, x.isUnescaped = false
  | _ => True

/-- A node that is read back from its tokens if its parts are. -/
structure Readable (e : Expr) : Prop where
  scalar : e.IsScalar
  bound : e.Bound
  nearest : e.EscapesNearest

theorem Readable.sound {e : Expr} (here : e.Readable) : e.Sound := by
  refine ⟨here.bound, fun q power => ?_⟩
  cases e with
  | binary l op r =>
    cases power
    exact Precedence.le_of_lt (comma_lt_of_binary here.scalar)
  | unary op operand =>
    rw [← Option.some.inj power]
    split <;> decide
  | like | between | list =>
    cases power
    decide
  | literal | name | isNull | isIn | paren | call | collate => cases power
  | _ => cases here.scalar

end Expr

namespace Grammar

open TransactSql.Parser

variable {sub : Precedence → Parser Expr} {e l r : Expr} {min p q : Precedence}
  {b c d : Cursor} {t : Token} {ts : List Token}

/-! ### What may follow an expression -/

/-- A token behind which the expression is complete. -/
structure Follows (e : Expr) (next : Token) : Prop where
  holds : e.Holds next.precedence
  dot : next.kind ≠ .dot
  escape : next.isKeyword .ESCAPE = true → ∀ x ∈ e.rightSpine, x.isUnescaped = false
  comma : next.kind = .comma → e.isList = false

theorem follows_of_operator (holds : e.Holds t.precedence) (binds : .comma < t.precedence) :
    Follows e t := by
  unfold Token.precedence at binds
  refine ⟨holds, ?_, ?_, ?_⟩
  · intro dot
    rw [dot] at binds
    exact absurd binds (by decide)
  · intro escape
    rw [Token.isKeyword_iff.mp escape] at binds
    exact absurd binds (by decide)
  · intro comma
    rw [comma] at binds
    exact absurd binds (by decide)

theorem holds_of_none (none : t.precedence = .none) : e.Holds t.precedence := by
  rw [none]
  exact fun _ _ _ _ => Precedence.none_le _

theorem follows_of_kind {k : TokenKind} (kind : t.kind = k) (none : k.precedence = .none)
    (dot : k ≠ .dot) (escape : k ≠ .word (.keyword .ESCAPE)) : Follows e t := by
  subst kind
  refine ⟨holds_of_none none, dot, ?_, ?_⟩
  · intro found
    exact absurd (Token.isKeyword_iff.mp found) escape
  · intro comma
    rw [comma] at none
    cases none

theorem follows_close (closed : t.kind = .rightParen) : Follows e t :=
  follows_of_kind closed rfl (by decide) (by decide)

theorem Follows.last (follows : Follows e t) (power : e.rightPower? = some q)
    (last : e.rightOperands.getLast? = some r) (above : r.Above q) (strong : .comma ≤ q) :
    Follows r t ∧ t.precedence ≤ q := by
  refine ⟨⟨?_, follows.dot, ?_, ?_⟩, follows.holds.power power⟩
  · exact fun x member => follows.holds x (Expr.mem_rightSpine_of_last last member)
  · exact fun found x member => follows.escape found x (Expr.mem_rightSpine_of_last last member)
  · exact fun _ => Expr.isList_of_above above strong

/-! ### Arriving at an expression -/

/-- The parsers read the expression wherever it stands complete. -/
def Recovers (sub : Precedence → Parser Expr) (e : Expr) : Prop :=
  ∀ ⦃min c d⦄, e.Above min → c.Passes e.tree.tokens d → Follows e d.current →
    d.current.precedence ≤ min → sub min c = .ok e d

/-- The loop over operators comes by the expression. -/
inductive Reaches (sub : Precedence → Parser Expr) (min : Precedence) (c : Cursor) :
    Expr → Cursor → Prop
  | operand {e : Expr} {d : Cursor} (run : operand sub c = .ok e d) : Reaches sub min c e d
  | operator {left e : Expr} {b d : Cursor} (before : Reaches sub min c left b)
    (run : applyOperator sub min left b = .ok (some e) d) (taken : b.Shortens d) :
    Reaches sub min c e d

def Arrives (sub : Precedence → Parser Expr) (e : Expr) : Prop :=
  ∀ ⦃min c d⦄, e.Above min → c.Passes e.tree.tokens d → Follows e d.current → Reaches sub min c e d

/-- Rounds enough are left for the tokens that are. -/
theorem Reaches.rounds_left (reached : Reaches sub min c e d) : ∃ limit, d.ahead.length < limit ∧
    expression sub min c = rounds (applyOperator sub min) limit e d := by
  induction reached with
  | @operand e d run =>
    refine ⟨d.ahead.length + 1, Nat.lt_succ_self _, ?_⟩
    unfold expression
    rw [bind_of_ok _ run]
    rfl
  | @operator left e b d before run taken ih =>
    obtain ⟨limit, enough, same⟩ := ih
    have fewer : d.ahead.length < b.ahead.length := taken
    cases limit with
    | zero => exact absurd enough (Nat.not_lt_zero _)
    | succ limit =>
      refine ⟨limit, by omega, ?_⟩
      rw [same, rounds, bind_of_ok _ run]

theorem Arrives.recovers (arrives : Arrives sub e) : Recovers (expression sub) e := by
  intro min c d above passes follows weaker
  obtain ⟨limit, enough, same⟩ := (arrives above passes follows).rounds_left
  have stopped : applyOperator sub min e d = .ok none d := by
    unfold applyOperator
    rw [current_bind, if_neg (Precedence.not_lt.mpr weaker)]
    rfl
  cases limit with
  | zero => exact absurd enough (Nat.not_lt_zero _)
  | succ limit =>
    rw [same, rounds, bind_of_ok _ stopped]
    rfl

theorem Reaches.apply {operator : Parser Expr} (before : Reaches sub min c l b)
    (passes : b.Passes (t :: ts) d) (tighter : min < t.precedence)
    (found : operator? sub l t b.lookahead = some operator) (run : operator b = .ok e d) :
    Reaches sub min c e d := by
  refine before.operator ?_ (passes.shortens (List.cons_ne_nil t ts))
  unfold applyOperator
  rw [current_bind, passes.current, if_pos tighter, lookahead_bind, found]
  exact bind_of_ok _ run

/-- The loop comes by the left operand of a node, and the node binds it. -/
theorem reaches_left (here : e.Readable) (power : e.infixPower? = some p)
    (operand : e.leftOperand? = some l) (laid : e.layout = l.tree.tokens ++ ts)
    (next : ∀ b : Cursor, b.Passes ts d → b.current.precedence = p) (binds : .comma < p)
    (left : Arrives sub l) (above : e.Above min) (passes : c.Passes e.tree.tokens d) :
    ∃ b, Reaches sub min c l b ∧ b.Passes ts d ∧ min < p := by
  rw [Expr.tokens_eq_layout here.scalar, laid] at passes
  obtain ⟨b, before, behind⟩ := passes.split
  have same := next b behind
  have holds := here.bound.left p power l operand
  have follows : Follows l b.current := follows_of_operator (same ▸ holds) (same ▸ binds)
  exact ⟨b, left (above.operand operand) before follows, behind, above.power power⟩

/-! ### Operands -/

theorem literal_arrives (here : (Expr.literal t).Readable) : Arrives sub (.literal t) := by
  intro min c d above passes follows
  rw [Expr.tokens_eq_layout here.scalar] at passes
  refine .operand ?_
  unfold operand
  rw [current_bind, passes.current, passes.advance.eq_of_nil]
  have built : (take >>= fun t => build (Checked.literal t)) c = .ok (.literal t) c.advance := by
    rw [take_bind, passes.current]
    exact build_of_ok (Shaped.ok_of_isOk here.scalar)
  rcases Expr.literal_slot here.scalar with form | null
  · cases kind : t.kind with
    | literal form => exact built
    | _ => simp [kind, TokenKind.isLiteral] at form
  · rw [Token.isKeyword_iff.mp null]
    exact built

/-- A single word is a name if no dot follows. -/
theorem name_of_passes (word : t.isWord = true) (made : Checked.name [t] = .ok ⟨[t]⟩)
    (passes : c.Passes [t] d) (dot : d.current.kind ≠ .dot) : name c = .ok ⟨[t]⟩ d := by
  have done := passes.advance.eq_of_nil
  have star : (t.kind == .arithmetic .star) = false := by
    unfold Token.isWord at word
    cases kind : t.kind <;> simp_all [TokenKind.isWord]
  have stopped : namePart [t] d = .ok none d := by
    unfold namePart
    simp [Name.isWildcard, star, dot]
    rfl
  unfold name Parser.word
  rw [bind_of_ok _ (require_of_passes "name" passes word), ← done,
    bind_of_ok _ (loop_of_stopped stopped)]
  exact build_of_ok made

theorem name_arrives {n : Name} (here : (Expr.name n).Readable) : Arrives sub (.name n) := by
  intro min c d above passes follows
  rw [Expr.tokens_eq_layout here.scalar] at passes
  obtain ⟨t, rfl, plain, made, slot⟩ := Expr.name_slot here.scalar
  refine .operand ?_
  unfold operand
  rw [current_bind, passes.current]
  rcases slot with word | star
  · have read := name_of_passes word made passes follows.dot
    have starts : t.startsExpression = true := by
      unfold Token.isWord at word
      unfold Token.keyword? at plain
      unfold Token.startsExpression
      cases kind : t.kind <;> simp_all [TokenKind.isWord, TokenKind.keyword?]
    have run : (do if t.startsExpression then return Expr.name (← name) else failExpected "expression")
        c = .ok (.name ⟨[t]⟩) d := by
      rw [if_pos starts, bind_of_ok _ read]
      rfl
    cases kind : t.kind with
    | word w =>
      cases w with
      | keyword k => simp [Token.keyword?, kind, TokenKind.keyword?, Word.keyword?] at plain
      | _ => exact run
    | _ => simp [Token.isWord, kind, TokenKind.isWord] at word
  · rw [star, passes.advance.eq_of_nil]
    simp only
    rw [take_bind, passes.current, bind_of_ok _ (build_of_ok made)]
    rfl

/-- An operator before its operand. -/
theorem unary_arrives {op : Token} (here : (Expr.unary op e).Readable) (operand' : Recovers sub e) :
    Arrives sub (.unary op e) := by
  intro min c d above passes follows
  rw [Expr.tokens_eq_layout here.scalar] at passes
  have power : (Expr.unary op e).rightPower? = some (if op.isKeyword .NOT then .not else .unary) := rfl
  generalize strength : (if op.isKeyword .NOT then Precedence.not else .unary) = q at power
  have strong : .comma ≤ q := by
    rw [← strength]
    split <;> decide
  have above' := here.bound.right q power e (by simp [Expr.rightOperands])
  obtain ⟨follows', weaker⟩ := follows.last power rfl above' strong
  have run : (do let operator ← take; build (Checked.unary operator (← sub q))) c
      = .ok (.unary op e) d := by
    rw [take_bind, passes.current, bind_of_ok _ (operand' above' passes.advance follows' weaker)]
    exact build_of_ok (Shaped.ok_of_isOk here.scalar)
  refine .operand ?_
  unfold operand
  rw [current_bind, passes.current]
  rcases Expr.unary_slot here.scalar with ((kind | kind) | kind) | not
  case inr =>
    rw [not] at strength
    rw [Token.isKeyword_iff.mp not]
    subst strength
    exact run
  all_goals
    have other : op.isKeyword .NOT = false := by
      simp [Token.isKeyword, Token.keyword?, kind, TokenKind.keyword?]
    rw [other] at strength
    rw [kind]
    subst strength
    exact run

/-! ### Parentheses -/

theorem parenBody_of_empty {rparen : Token} (closed : rparen.kind = .rightParen)
    (passes : c.Passes [rparen] d) : parenBody sub c = .ok (none, rparen) d := by
  have eaten := eat_of_passes (p := (·.kind == .rightParen)) passes (by simp [closed])
  unfold parenBody eatKind
  rw [bind_of_ok _ eaten, passes.advance.eq_of_nil]
  rfl

/-- An expression that the parentheses hold is not kept raw. -/
theorem parenBody_of_expr {rparen : Token} (scalar : e.Everywhere Expr.IsScalar)
    (inner : Recovers sub e) (closed : rparen.kind = .rightParen)
    (passes : c.Passes (e.tree.tokens ++ [rparen]) d) :
    parenBody sub c = .ok (some e, rparen) d := by
  obtain ⟨t, ts, starts, other⟩ := Expr.starts_of_scalar scalar
  have first : c.current = t := by
    have passes' := passes
    rw [starts] at passes'
    exact passes'.current
  have uneaten : eat (·.kind == .rightParen) c = .ok none c := by
    refine eat_of_refused ?_
    simp [first, other]
  obtain ⟨d', recorded, ended⟩ := passes.record
  obtain ⟨b, before, behind⟩ := recorded.split
  have current : b.current = rparen := behind.current
  have read : sub .none c.beginRecording = .ok e b := by
    refine inner (Expr.above_none scalar) before ?_ ?_
    · rw [current]
      exact follows_close closed
    · rw [current, Token.precedence_eq closed]
      exact Precedence.none_le _
  unfold parenBody eatKind
  rw [bind_of_ok _ uneaten]
  refine withAssignment_of_comparing passes.comparing passes.assignment ?_
  rw [← ended, behind.advance.eq_of_nil]
  refine recording_of_ok ?_
  rw [attempt_bind, read]
  simp only [atKind_bind, current, closed, beq_self_eq_true, if_true, take_bind]
  rfl

theorem paren_arrives {lparen rparen : Token} (here : (Expr.paren lparen e rparen).Readable)
    (scalar : e.Everywhere Expr.IsScalar) (inner : Recovers sub e) :
    Arrives sub (.paren lparen e rparen) := by
  intro min c d above passes follows
  rw [Expr.tokens_eq_layout here.scalar] at passes
  obtain ⟨opened, closed⟩ := Expr.paren_slots here.scalar
  have body := parenBody_of_expr scalar inner closed passes.advance
  refine .operand ?_
  unfold operand
  rw [current_bind, passes.current, opened]
  simp only
  unfold paren
  rw [take_bind, passes.current, bind_of_ok _ body]
  exact build_of_ok (Shaped.ok_of_isOk here.scalar)

/-! ### Operators -/

theorem binary_arrives {op : Token} (here : (Expr.binary l op r).Readable) (left : Arrives sub l)
    (right : Recovers sub r) : Arrives sub (.binary l op r) := by
  intro min c d above passes follows
  have binds := Expr.comma_lt_of_binary here.scalar
  obtain ⟨b, reached, behind, tighter⟩ := reaches_left here rfl rfl rfl
    (fun b h => by rw [h.current]) binds left above passes
  have above' := here.bound.right op.precedence rfl r (by simp [Expr.rightOperands])
  obtain ⟨follows', weaker⟩ := follows.last rfl rfl above' (Precedence.le_of_lt binds)
  have run : binary sub l b = .ok (.binary l op r) d := by
    unfold binary
    rw [take_bind, behind.current, bind_of_ok _ (right above' behind.advance follows' weaker)]
    exact build_of_ok (Shaped.ok_of_isOk here.scalar)
  refine reached.apply behind tighter ?_ run
  unfold operator?
  rcases Expr.binary_slot here.scalar with ⟨_, kind⟩ | ⟨_, kind⟩ | kind | kind
  all_goals simp [kind, keywordOperator]

theorem isNull_arrives {isToken null : Token} {not : Option Token}
    (here : (Expr.isNull l isToken not null).Readable) (left : Arrives sub l) :
    Arrives sub (.isNull l isToken not null) := by
  intro min c d above passes follows
  obtain ⟨isGiven, notGiven, nullGiven⟩ := Expr.isNull_slots here.scalar
  have isKind := Token.isKeyword_iff.mp isGiven
  have power : isToken.precedence = .comparison := Token.precedence_eq isKind
  obtain ⟨b, reached, behind, tighter⟩ := reaches_left here rfl rfl rfl
    (fun b h => by rw [h.current, power]) (by decide) left above passes
  have other : null.isKeyword .NOT = false := by
    simp [Token.isKeyword, Token.keyword?_eq_some_iff.mpr (Token.isKeyword_iff.mp nullGiven)]
  obtain ⟨b', eaten, last⟩ := eatKeyword_of_passes behind.advance notGiven other
  have run : isNull l b = .ok (.isNull l isToken not null) d := by
    unfold isNull
    rw [take_bind, behind.current, bind_of_ok _ eaten]
    unfold keyword
    rw [bind_of_ok _ (require_of_passes _ last nullGiven), last.advance.eq_of_nil]
    exact build_of_ok (Shaped.ok_of_isOk here.scalar)
  refine reached.apply behind (power ▸ tighter) ?_ run
  unfold operator?
  rw [isKind]
  rfl

theorem collate_arrives {keyword collation : Token}
    (here : (Expr.collate l keyword collation).Readable) (left : Arrives sub l) :
    Arrives sub (.collate l keyword collation) := by
  intro min c d above passes follows
  obtain ⟨given, word⟩ := Expr.collate_slots here.scalar
  have kind := Token.isKeyword_iff.mp given
  have power : keyword.precedence = .postfixed := Token.precedence_eq kind
  obtain ⟨b, reached, behind, tighter⟩ := reaches_left here rfl rfl rfl
    (fun b h => by rw [h.current, power]) (by decide) left above passes
  have last := behind.advance
  have run : collate l b = .ok (.collate l keyword collation) d := by
    unfold collate Parser.word
    rw [take_bind, behind.current, bind_of_ok _ (require_of_passes _ last word),
      last.advance.eq_of_nil]
    exact build_of_ok (Shaped.ok_of_isOk here.scalar)
  refine reached.apply behind (power ▸ tighter) ?_ run
  unfold operator?
  rw [kind]
  rfl

theorem castKeyword?_of_name {n : Name} (scalar : (Expr.name n).IsScalar) :
    castKeyword? (.name n) = none := by
  obtain ⟨t, rfl, plain, _⟩ := Expr.name_slot scalar
  simp [castKeyword?, Token.isAnyKeyword, plain]

theorem call_arrives {callee : Expr} {lparen rparen : Token} {args : Option Expr}
    (here : (Expr.call callee lparen args rparen).Readable) (scalar : callee.IsScalar)
    (left : Arrives sub callee)
    (inner : ∀ x ∈ args, x.Everywhere Expr.IsScalar ∧ Recovers sub x) :
    Arrives sub (.call callee lparen args rparen) := by
  intro min c d above passes follows
  obtain ⟨⟨n, rfl, variable', wildcard⟩, made, opened, closed⟩ := Expr.call_slots here.scalar
  have power : lparen.precedence = .postfixed := Token.precedence_eq opened
  have operator : ∀ next, operator? sub (.name n) lparen next = some (call sub (.name n)) := by
    intro next
    unfold operator?
    simp [opened, isCallable, Expr.name?, variable', wildcard]
  cases args with
  | none =>
    obtain ⟨b, reached, behind, tighter⟩ := reaches_left here rfl rfl rfl
      (fun b h => by rw [h.current, power]) (by decide) left above passes
    refine reached.apply behind (power ▸ tighter) (operator _) ?_
    unfold call
    rw [castKeyword?_of_name scalar]
    simp only
    rw [take_bind, behind.current, bind_of_ok _ (parenBody_of_empty closed behind.advance)]
    exact build_of_ok made
  | some args =>
    obtain ⟨scalar', inner⟩ := inner args rfl
    obtain ⟨b, reached, behind, tighter⟩ := reaches_left here rfl rfl rfl
      (fun b h => by rw [h.current, power]) (by decide) left above passes
    refine reached.apply behind (power ▸ tighter) (operator _) ?_
    unfold call
    rw [castKeyword?_of_name scalar]
    simp only
    rw [take_bind, behind.current, bind_of_ok _ (parenBody_of_expr scalar' inner closed behind.advance)]
    exact build_of_ok made

/-! ### Operators that `NOT` may stand before -/

section Patterns

variable {keyword : Token} {k : Keyword} {not : Option Token}

/-- With or without `NOT`, the first token of the operator binds as a pattern does. -/
theorem pattern_precedence (negation : ∀ u ∈ not, u.isKeyword .NOT = true)
    (given : keyword.isKeyword k = true) (power : k.precedence = .pattern)
    (passes : b.Passes (not.toList ++ keyword :: ts) d) : b.current.precedence = .pattern := by
  cases not with
  | none =>
    rw [passes.current, Token.precedence_eq (Token.isKeyword_iff.mp given)]
    exact power
  | some u =>
    rw [passes.current, Token.precedence_eq (Token.isKeyword_iff.mp (negation u rfl))]
    rfl

theorem Reaches.pattern (before : Reaches sub min c l b) (tighter : min < .pattern)
    (negation : ∀ u ∈ not, u.isKeyword .NOT = true) (given : keyword.isKeyword k = true)
    (choice : k = .BETWEEN ∨ k = .LIKE ∨ k = .IN) (passes : b.Passes (not.toList ++ keyword :: ts) d)
    (run : ∀ b' : Cursor, b'.Passes (keyword :: ts) d → Grammar.pattern sub l not b' = .ok e d) :
    Reaches sub min c e d := by
  have kind := Token.isKeyword_iff.mp given
  have power : k.precedence = .pattern := by rcases choice with rfl | rfl | rfl <;> rfl
  cases not with
  | none =>
    have binds : keyword.precedence = .pattern := (Token.precedence_eq kind).trans power
    refine before.apply passes (binds ▸ tighter) ?_ (run b passes)
    unfold operator?
    rcases choice with rfl | rfl | rfl <;> simp [kind, keywordOperator]
  | some u =>
    have negated := Token.isKeyword_iff.mp (negation u rfl)
    have binds : u.precedence = .pattern := Token.precedence_eq negated
    have next : b.lookahead = keyword := Cursor.Passes.lookahead passes
    have negatedRun : (do Grammar.pattern sub l (some (← take))) b = .ok e d := by
      rw [take_bind, Cursor.Passes.current passes]
      exact run b.advance (Cursor.Passes.advance passes)
    refine before.apply passes (binds ▸ tighter) ?_ negatedRun
    unfold operator?
    simp only [negated, keywordOperator, next, Token.isAnyKeyword, Token.keyword?_eq_some_iff.mpr kind]
    rcases choice with rfl | rfl | rfl <;> rfl

theorem between_arrives {low high : Expr} {and : Token}
    (here : (Expr.between l not keyword low and high).Readable) (bound : low.Everywhere Expr.Bound)
    (left : Arrives sub l) (first : Recovers sub low) (second : Recovers sub high) :
    Arrives sub (.between l not keyword low and high) := by
  intro min c d above passes follows
  obtain ⟨negation, given, andGiven⟩ := Expr.between_slots here.scalar
  obtain ⟨b, reached, behind, tighter⟩ := reaches_left here rfl rfl rfl
    (fun b h => pattern_precedence negation given rfl h) (by decide) left above passes
  have lowAbove := here.bound.right .pattern rfl low (by simp [Expr.rightOperands])
  have highAbove := here.bound.right .pattern rfl high (by simp [Expr.rightOperands])
  obtain ⟨follows', weaker⟩ := follows.last rfl rfl highAbove (by decide)
  have andPower : and.precedence = .and := Token.precedence_eq (Token.isKeyword_iff.mp andGiven)
  -- The `AND` is weaker than anything at the end of the lower bound, be it a `NOT`.
  have lowFollows : Follows low and := by
    have holds := Expr.holds_of_above bound lowAbove (by decide)
    refine follows_of_operator ?_ ?_
    · rw [andPower]
      exact fun x member q power => Nat.le_trans (by decide) (holds x member q power)
    · rw [andPower]
      decide
  refine reached.pattern tighter negation given (by simp) behind fun b' passes' => ?_
  obtain ⟨a, lowRead, rest⟩ := passes'.advance.split
  have current := rest.current
  have lowRun : sub .pattern b'.advance = .ok low a := by
    refine first lowAbove lowRead (current ▸ lowFollows) ?_
    rw [current, andPower]
    decide
  unfold Grammar.pattern
  rw [current_bind, passes'.current, Token.keyword?_eq_some_iff.mpr (Token.isKeyword_iff.mp given)]
  simp only
  rw [take_bind, passes'.current, bind_of_ok _ lowRun]
  unfold Parser.keyword
  rw [bind_of_ok _ (require_of_passes _ rest andGiven),
    bind_of_ok _ (second highAbove rest.advance follows' weaker)]
  exact build_of_ok (Shaped.ok_of_isOk here.scalar)

theorem isIn_arrives {values : Expr} {lparen rparen : Token}
    (here : (Expr.isIn l not keyword lparen values rparen).Readable)
    (scalar : values.Everywhere Expr.IsScalar) (left : Arrives sub l) (inner : Recovers sub values) :
    Arrives sub (.isIn l not keyword lparen values rparen) := by
  intro min c d above passes follows
  obtain ⟨negation, given, opened, closed⟩ := Expr.isIn_slots here.scalar
  obtain ⟨b, reached, behind, tighter⟩ := reaches_left here rfl rfl rfl
    (fun b h => pattern_precedence negation given rfl h) (by decide) left above passes
  refine reached.pattern tighter negation given (by simp) behind fun b' passes' => ?_
  have rest := passes'.advance
  unfold Grammar.pattern
  rw [current_bind, passes'.current, Token.keyword?_eq_some_iff.mpr (Token.isKeyword_iff.mp given)]
  simp only
  unfold Parser.keyword leftParen Parser.kind
  rw [bind_of_ok _ (require_of_passes _ passes' given),
    bind_of_ok _ (require_of_passes _ rest (by simp [opened])),
    bind_of_ok _ (parenBody_of_expr scalar inner closed rest.advance)]
  exact build_of_ok (Shaped.ok_of_isOk here.scalar)

/-- The `ESCAPE` of the node is read with its pattern, and no other one is. -/
theorem like_arrives {pattern : Expr} {escape : Tail}
    (here : (Expr.like l not keyword pattern escape).Readable) (left : Arrives sub l)
    (first : Recovers sub pattern) (second : ∀ x ∈ escape.value?, Recovers sub x) :
    Arrives sub (.like l not keyword pattern escape) := by
  intro min c d above passes follows
  obtain ⟨negation, given, escapeGiven⟩ := Expr.like_slots here.scalar
  have keyword' := Token.keyword?_eq_some_iff.mpr (Token.isKeyword_iff.mp given)
  have patternAbove := here.bound.right .pattern rfl pattern (by simp [Expr.rightOperands])
  cases escape with
  | absent =>
    obtain ⟨b, reached, behind, tighter⟩ := reaches_left here rfl rfl rfl
      (fun b h => pattern_precedence negation given rfl h) (by decide) left above passes
    obtain ⟨follows', weaker⟩ := follows.last rfl rfl patternAbove (by decide)
    refine reached.pattern tighter negation given (by simp) behind fun b' passes' => ?_
    -- The node itself could take an `ESCAPE`, so none follows it.
    have other : d.current.isKeyword .ESCAPE = false := by
      refine Bool.eq_false_iff.mpr fun found => ?_
      have unescaped := follows.escape found _ (by rw [Expr.rightSpine_eq]; exact List.mem_cons_self)
      cases unescaped
    unfold Grammar.pattern
    rw [current_bind, passes'.current, keyword']
    simp only
    rw [take_bind, passes'.current, bind_of_ok _ (first patternAbove passes'.advance follows' weaker)]
    unfold optionalTail eatKeyword
    rw [bind_assoc, bind_of_ok _ (eat_of_refused other)]
    exact build_of_ok (Shaped.ok_of_isOk here.scalar)
  | present escape value =>
    obtain ⟨b, reached, behind, tighter⟩ := reaches_left here rfl rfl rfl
      (fun b h => pattern_precedence negation given rfl h) (by decide) left above passes
    have valueAbove := here.bound.right .pattern rfl value (by simp [Expr.rightOperands, Tail.value?])
    obtain ⟨follows', weaker⟩ := follows.last rfl rfl valueAbove (by decide)
    have escapes := escapeGiven escape value rfl
    have escapePower : escape.precedence = .none :=
      Token.precedence_eq (Token.isKeyword_iff.mp escapes)
    have patternFollows : Follows pattern escape := by
      refine ⟨holds_of_none escapePower, ?_, fun _ => here.nearest, ?_⟩
      · simp [Token.isKeyword_iff.mp escapes]
      · simp [Token.isKeyword_iff.mp escapes]
    refine reached.pattern tighter negation given (by simp) behind fun b' passes' => ?_
    obtain ⟨a, patternRead, rest⟩ := passes'.advance.split
    have current := rest.current
    have patternRun : sub .pattern b'.advance = .ok pattern a := by
      refine first patternAbove patternRead (current ▸ patternFollows) ?_
      rw [current, escapePower]
      exact Precedence.none_le _
    unfold Grammar.pattern
    rw [current_bind, passes'.current, keyword']
    simp only
    rw [take_bind, passes'.current, bind_of_ok _ patternRun]
    unfold optionalTail eatKeyword
    rw [bind_assoc, bind_of_ok _ (eat_of_passes rest escapes), bind_assoc,
      bind_of_ok _ (second value rfl valueAbove rest.advance follows' weaker)]
    exact build_of_ok (Shaped.ok_of_isOk here.scalar)

end Patterns

/-! ### Lists -/

theorem follows_of_comma (sound : e.Everywhere Expr.Sound) (item : e.isList = false)
    (comma : t.kind = .comma) : Follows e t := by
  refine ⟨?_, by simp [comma], ?_, fun _ => item⟩
  · rw [Token.precedence_eq comma]
    exact Expr.holds_comma sound
  · intro escape
    cases (Token.isKeyword_iff.mp escape).symm.trans comma

/-- Items are read one by one, up to a token that is no comma. -/
theorem rounds_items {items : List Expr} {separators : List Token} {read : List Expr × List Token}
    {limit : Nat} (paired : separators.length = items.length)
    (commas : ∀ s ∈ separators, s.kind = .comma) (recovers : ∀ x ∈ items, Recovers sub x)
    (above : ∀ x ∈ items, x.Above .comma)
    (between : ∀ x ∈ items, ∀ s : Token, s.kind = .comma → Follows x s)
    (last : ∀ x ∈ items.getLast?, Follows x d.current) (weak : d.current.precedence ≤ .comma)
    (done : d.current.kind ≠ .comma) (enough : c.ahead.length < limit)
    (passes : c.Passes (Expr.itemTokens separators items) d) :
    rounds (commaItem (sub .comma)) limit read c
      = .ok (read.1 ++ items, read.2 ++ separators) d := by
  induction separators generalizing items read limit c with
  | nil =>
    obtain rfl := List.length_eq_zero_iff.mp paired.symm
    obtain rfl := passes.eq_of_nil
    have stopped : commaItem (sub .comma) read d = .ok none d := by
      unfold commaItem eatKind
      rw [bind_of_ok _ (eat_of_refused (by simpa using done))]
      rfl
    cases limit with
    | zero => exact absurd enough (Nat.not_lt_zero _)
    | succ limit =>
      rw [rounds, bind_of_ok _ stopped]
      simp
      rfl
  | cons s separators ih =>
    cases items with
    | nil => cases paired
    | cons x items =>
      simp only [List.forall_mem_cons] at commas recovers above between
      have item : c.Passes ((s :: x.tree.tokens) ++ Expr.itemTokens separators items) d := passes
      obtain ⟨b, before, behind⟩ := item.split
      -- Behind an item stands the next comma, or what follows the list.
      have next : Follows x b.current ∧ b.current.precedence ≤ .comma := by
        cases items with
        | nil =>
          obtain rfl := List.length_eq_zero_iff.mp (Nat.succ.inj paired)
          obtain rfl := behind.eq_of_nil
          exact ⟨last x rfl, weak⟩
        | cons y items =>
          cases separators with
          | nil => cases paired
          | cons s' separators =>
            have comma := commas.2 s' List.mem_cons_self
            rw [Cursor.Passes.current behind, Token.precedence_eq comma]
            exact ⟨between.1 s' comma, Nat.le_refl _⟩
      have round : commaItem (sub .comma) read c = .ok (some (read.1 ++ [x], read.2 ++ [s])) b := by
        unfold commaItem eatKind
        rw [bind_of_ok _ (eat_of_passes before (by simp [commas.1]))]
        simp only
        rw [bind_of_ok _ (recovers.1 above.1 before.advance next.1 next.2)]
        rfl
      have fewer : b.ahead.length < c.ahead.length := before.shortens (List.cons_ne_nil _ _)
      have last' : ∀ y ∈ items.getLast?, Follows y d.current := by
        intro y member
        refine last y ?_
        rw [List.getLast?_cons, member]
        rfl
      cases limit with
      | zero => exact absurd enough (Nat.not_lt_zero _)
      | succ limit =>
        rw [rounds, bind_of_ok _ round]
        simp only
        rw [ih (Nat.succ.inj paired) commas.2 recovers.2 above.2 between.2 last' (by omega) behind]
        simp

theorem list_arrives {items : List Expr} {separators : List Token}
    (here : (Expr.list items separators).Readable)
    (sound : ∀ x ∈ items, x.Everywhere Expr.Sound) (first : ∀ x ∈ items.head?, Arrives sub x)
    (others : ∀ x ∈ items.tail, Recovers sub x) : Arrives sub (.list items separators) := by
  intro min c d above passes follows
  obtain ⟨several, flat, made, paired, commas⟩ := Expr.list_slots here.scalar
  match items, separators with
  | [], _ | [_], _ => simp at several
  | l :: x :: items, [] => cases paired
  | l :: x :: items, s :: separators =>
    rw [Expr.tokens_eq_layout here.scalar] at passes
    obtain ⟨b, before, behind⟩ := passes.split
    have comma := commas s List.mem_cons_self
    have power : s.precedence = .comma := Token.precedence_eq comma
    have current : b.current = s := Cursor.Passes.current behind
    have between : ∀ y ∈ l :: x :: items, ∀ u : Token, u.kind = .comma → Follows y u :=
      fun y member u comma => follows_of_comma (sound y member) (flat y member) comma
    have reached : Reaches sub min c l b := by
      refine first l rfl (above.operand rfl) before ?_
      rw [current]
      exact between l List.mem_cons_self s comma
    have itemAbove : ∀ y ∈ x :: items, y.Above .comma := here.bound.right .comma rfl
    have last : ∀ y ∈ (x :: items).getLast?, Follows y d.current := by
      intro y member
      have inside := List.mem_of_getLast? member
      exact (follows.last rfl member (itemAbove y inside) (Nat.le_refl _)).1
    have read : commaTail l (sub .comma) b = .ok (l :: x :: items, s :: separators) d := by
      unfold commaTail loop
      rw [get_bind]
      exact rounds_items (Nat.succ.inj paired) commas others itemAbove
        (fun y member => between y (List.mem_cons_of_mem l member)) last (follows.holds.power rfl)
        (fun comma => by cases follows.comma comma) (Nat.lt_succ_self _) behind
    have run : Grammar.list sub l b = .ok (.list (l :: x :: items) (s :: separators)) d := by
      unfold Grammar.list
      rw [bind_of_ok _ read]
      exact build_of_ok made
    refine reached.apply behind (power ▸ above.power rfl) ?_ run
    unfold operator?
    simp [comma]

end Grammar

end TransactSql
