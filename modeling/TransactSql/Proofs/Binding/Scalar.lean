import TransactSql.Proofs.Binding.Basic
import TransactSql.Proofs.Expr.Checked

/-!
# Scalar expressions

The expressions made of operators, calls and parentheses alone. Each is written as its tokens in
source order, without gaps.
-/

namespace TransactSql

namespace Token

theorem precedence_eq {t : Token} {k : TokenKind} (kind : t.kind = k) : t.precedence = k.precedence :=
  congrArg TokenKind.precedence kind

end Token

/-! ### Checks that pass -/

@[simp]
theorem Shaped.bind_eq_ok {checks : Shaped Unit} {k : Unit → Shaped α} {a : α} :
    (checks >>= k) = .ok a ↔ checks = .ok () ∧ k () = .ok a := by
  cases checks <;> simp [Bind.bind, Except.bind]

@[simp]
theorem Shaped.map_eq_ok {checks : Shaped Unit} {a b : α} :
    ((fun _ => a) <$> checks) = .ok b ↔ checks = .ok () ∧ a = b := by
  cases checks <;> simp [Functor.map, Except.map]

/-- Accepted parts are in the node as they were given. -/
theorem Shaped.ok_of_isOk {made : Shaped α} {a : α} [makes : Makes made a] (h : made.isOk = true) :
    made = .ok a := by
  cases made with
  | ok b => rw [makes.eq rfl]
  | error _ => cases h

namespace Check

variable {node : NodeKind} {slot expected : String} {t lparen rparen : Token} {k : Keyword}

@[simp]
theorem token_eq_ok {accepted : Bool} : token node slot t expected accepted = .ok () ↔ accepted = true := by
  cases accepted <;> simp [token]

@[simp]
theorem keyword_eq_ok : keyword node slot t k = .ok () ↔ t.isKeyword k = true := token_eq_ok

@[simp]
theorem keyword?_eq_ok {not : Option Token} :
    keyword? node slot not k = .ok () ↔ ∀ u ∈ not, u.isKeyword k = true := by
  cases not <;> simp [keyword?]

@[simp]
theorem kind_eq_ok {k : TokenKind} : kind node slot t k expected = .ok () ↔ t.kind = k := by
  simp [kind]

@[simp]
theorem parens_eq_ok :
    parens node lparen rparen = .ok () ↔ lparen.kind = .leftParen ∧ rparen.kind = .rightParen := by
  simp [parens]

end Check

namespace Checked

@[simp]
theorem tail_eq_ok {node : NodeKind} {slot : String} {k : Keyword} {escape : Tail} :
    Checked.tail node slot k escape = .ok () ↔
      ∀ t e, escape = .present t e → t.isKeyword k = true := by
  cases escape <;> simp [Checked.tail]

theorem commas_ok {node : NodeKind} {separators : List Token}
    (h : separators.forM (fun s => Check.kind node "separator" s .comma "','") = .ok ()) :
    ∀ s ∈ separators, s.kind = .comma := by
  induction separators with
  | nil => simp
  | cons s separators ih =>
    simp only [List.forM, Shaped.bind_eq_ok, Check.kind_eq_ok] at h
    simpa [h.1] using ih h.2

theorem list_ok {items : List Expr} {separators : List Token} {e : Expr}
    (h : list items separators = .ok e) :
    separators.length + 1 = items.length ∧ ∀ s ∈ separators, s.kind = .comma := by
  unfold list separated at h
  split at h
  · cases h
  · split at h
    · cases h
    · next paired =>
      refine ⟨not_not.mp paired, ?_⟩
      cases run : separators.forM (fun s => Check.kind .exprList "separator" s .comma "','") with
      | ok _ => exact commas_ok run
      | error _ =>
        rw [run] at h
        cases h

end Checked

namespace Expr

/-! ### Nodes -/

def isList : Expr → Bool
  | .list .. => true
  | _ => false

/-- A node of a scalar expression, of parts that checked construction accepts. A name is one word
or `*`, and only words that are no variables are called. A list has two items at least, none of
which is a list. -/
def isScalar : Expr → Bool
  | .literal t => (Checked.literal t).isOk
  | .name ⟨[t]⟩ => t.keyword?.isNone && (Checked.name [t]).isOk
  | .unary op e => (Checked.unary op e).isOk
  | .binary l op r => (Checked.binary l op r).isOk
  | .isNull e isToken not null => (Checked.isNull e isToken not null).isOk
  | .like e not keyword pattern escape => (Checked.like e not keyword pattern escape).isOk
  | .between e not keyword low and high => (Checked.between e not keyword low and high).isOk
  | .isIn e not keyword lparen values rparen =>
    (Checked.isIn e not keyword lparen values rparen).isOk
  | .paren lparen e rparen => (Checked.paren lparen e rparen).isOk
  | .call callee lparen args rparen =>
    callee.name?.any (fun n => !n.isVariable && !n.isWildcard)
      && (Checked.call callee lparen args rparen).isOk
  | .collate e keyword collation => (Checked.collate e keyword collation).isOk
  | .list items separators =>
    decide (2 ≤ items.length) && items.all (!·.isList) && (Checked.list items separators).isOk
  | _ => false

abbrev IsScalar (e : Expr) : Prop := e.isScalar = true

/-! ### Tokens -/

/-- The items of a list behind its first, each with the comma before it. -/
def itemTokens : List Token → List Expr → List Token
  | s :: separators, x :: items => s :: x.tree.tokens ++ itemTokens separators items
  | _, _ => []

/-- The tokens of a scalar node in source order. -/
def layout : Expr → List Token
  | .literal t => [t]
  | .name n => n.parts
  | .unary op e => op :: e.tree.tokens
  | .binary l op r => l.tree.tokens ++ op :: r.tree.tokens
  | .isNull e isToken not null => e.tree.tokens ++ isToken :: (not.toList ++ [null])
  | .like e not keyword pattern .absent =>
    e.tree.tokens ++ (not.toList ++ keyword :: pattern.tree.tokens)
  | .like e not keyword pattern (.present escape value) =>
    e.tree.tokens ++ (not.toList ++ keyword :: (pattern.tree.tokens ++ escape :: value.tree.tokens))
  | .between e not keyword low and high =>
    e.tree.tokens ++ (not.toList ++ keyword :: (low.tree.tokens ++ and :: high.tree.tokens))
  | .isIn e not keyword lparen values rparen =>
    e.tree.tokens ++ (not.toList ++ keyword :: lparen :: (values.tree.tokens ++ [rparen]))
  | .paren lparen e rparen => lparen :: (e.tree.tokens ++ [rparen])
  | .call callee lparen none rparen => callee.tree.tokens ++ [lparen, rparen]
  | .call callee lparen (some args) rparen =>
    callee.tree.tokens ++ lparen :: (args.tree.tokens ++ [rparen])
  | .collate e keyword collation => e.tree.tokens ++ [keyword, collation]
  | .list (first :: items) separators => first.tree.tokens ++ itemTokens separators items
  | _ => []

theorem tokensOf_optionalToken {k : Keyword} {not : Option Token}
    (h : ∀ u ∈ not, u.isKeyword k = true) : Tree.tokensOf (Tree.optionalToken not) = not.toList := by
  cases not with
  | none => rfl
  | some u => simp [Tree.optionalToken, Tree.tokens_token (Token.isSource_of_isKeyword (h u rfl))]

theorem tokensOf_interleave {first : Expr} {items : List Expr} {separators : List Token}
    (paired : separators.length = items.length) (commas : ∀ s ∈ separators, s.kind = .comma) :
    Tree.tokensOf (Tree.interleave (slotsOf (first :: items)) separators)
      = first.tree.tokens ++ itemTokens separators items := by
  induction separators generalizing first items with
  | nil =>
    obtain rfl := List.length_eq_zero_iff.mp paired.symm
    simp [slotsOf, Tree.interleave, itemTokens]
  | cons s separators ih =>
    cases items with
    | nil => cases paired
    | cons next items =>
      have source := Token.isSource_of_kind_eq rfl (commas s List.mem_cons_self)
      have rest := @ih next items (Nat.succ.inj paired)
        fun u member => commas u (List.mem_cons_of_mem s member)
      simp only [slotsOf] at rest
      simp [slotsOf, Tree.interleave, itemTokens, Tree.tokens_token source, rest]

/-! ### What stands in the slots -/

section

variable {t op keyword isToken null lparen rparen and collation : Token} {not : Option Token}
  {e l r pattern low high values callee : Expr} {escape : Tail} {args : Option Expr}

theorem literal_slot (h : (Expr.literal t).IsScalar) :
    t.kind.isLiteral = true ∨ t.isKeyword .NULL = true := by
  have made : Checked.literal t = .ok (.literal t) := Shaped.ok_of_isOk h
  simpa [Checked.literal] using made

/-- A name of a scalar expression is one token, a word or `*`. -/
theorem name_slot {n : Name} (h : (Expr.name n).IsScalar) :
    ∃ t, n = ⟨[t]⟩ ∧ t.keyword? = none ∧ Checked.name [t] = .ok ⟨[t]⟩ ∧
      (t.isWord = true ∨ t.kind = .arithmetic .star) := by
  match n with
  | ⟨[t]⟩ =>
    simp only [IsScalar, isScalar, Bool.and_eq_true, Option.isNone_iff_eq_none] at h
    have made : Checked.name [t] = .ok ⟨[t]⟩ := Shaped.ok_of_isOk h.2
    refine ⟨t, rfl, h.1, made, ?_⟩
    unfold Checked.name Checked.nameParts at made
    by_cases dot : t.kind = .dot
    · simp [dot] at made
    · simpa [dot, Checked.nameParts] using made
  | ⟨[]⟩ | ⟨_ :: _ :: _⟩ => cases h

theorem unary_slot (h : (Expr.unary op e).IsScalar) :
    ((op.kind = .arithmetic .plus ∨ op.kind = .arithmetic .minus) ∨ op.kind = .tilde) ∨
      op.isKeyword .NOT = true := by
  have made : Checked.unary op e = .ok (.unary op e) := Shaped.ok_of_isOk h
  simpa [Checked.unary] using made

theorem binary_slot (h : (Expr.binary l op r).IsScalar) :
    (∃ a, op.kind = .arithmetic a) ∨ (∃ c, op.kind = .comparison c) ∨
      op.kind = .word (.keyword .AND) ∨ op.kind = .word (.keyword .OR) := by
  have made : Checked.binary l op r = .ok (.binary l op r) := Shaped.ok_of_isOk h
  have slot : (op.kind.isArithmetic = true ∨ op.kind.isComparison = true) ∨
      op.isAnyKeyword [.AND, .OR] = true := by
    simpa [Checked.binary] using made
  rcases slot with (arithmetic | comparison) | logical
  · cases kind : op.kind <;> simp_all [TokenKind.isArithmetic]
  · cases kind : op.kind <;> simp_all [TokenKind.isComparison]
  · unfold Token.isAnyKeyword at logical
    cases found : op.keyword? with
    | none => simp [found] at logical
    | some k =>
      rw [Token.keyword?_eq_some_iff] at found
      simpa [Token.keyword?, found, TokenKind.keyword?, Word.keyword?] using logical

theorem isNull_slots (h : (Expr.isNull e isToken not null).IsScalar) :
    isToken.isKeyword .IS = true ∧ (∀ u ∈ not, u.isKeyword .NOT = true) ∧
      null.isKeyword .NULL = true := by
  have made : Checked.isNull e isToken not null = .ok (.isNull e isToken not null) :=
    Shaped.ok_of_isOk h
  simpa [Checked.isNull] using made

theorem like_slots (h : (Expr.like e not keyword pattern escape).IsScalar) :
    (∀ u ∈ not, u.isKeyword .NOT = true) ∧ keyword.isKeyword .LIKE = true ∧
      ∀ t value, escape = .present t value → t.isKeyword .ESCAPE = true := by
  have made : Checked.like e not keyword pattern escape = .ok (.like e not keyword pattern escape) :=
    Shaped.ok_of_isOk h
  simpa [Checked.like] using made

theorem between_slots (h : (Expr.between e not keyword low and high).IsScalar) :
    (∀ u ∈ not, u.isKeyword .NOT = true) ∧ keyword.isKeyword .BETWEEN = true ∧
      and.isKeyword .AND = true := by
  have made : Checked.between e not keyword low and high = .ok (.between e not keyword low and high) :=
    Shaped.ok_of_isOk h
  simpa [Checked.between] using made

theorem isIn_slots (h : (Expr.isIn e not keyword lparen values rparen).IsScalar) :
    (∀ u ∈ not, u.isKeyword .NOT = true) ∧ keyword.isKeyword .IN = true ∧
      lparen.kind = .leftParen ∧ rparen.kind = .rightParen := by
  have made : Checked.isIn e not keyword lparen values rparen
      = .ok (.isIn e not keyword lparen values rparen) := Shaped.ok_of_isOk h
  simpa [Checked.isIn] using made

theorem paren_slots (h : (Expr.paren lparen e rparen).IsScalar) :
    lparen.kind = .leftParen ∧ rparen.kind = .rightParen := by
  have made : Checked.paren lparen e rparen = .ok (.paren lparen e rparen) := Shaped.ok_of_isOk h
  simpa [Checked.paren] using made

theorem call_slots (h : (Expr.call callee lparen args rparen).IsScalar) :
    (∃ n, callee = .name n ∧ n.isVariable = false ∧ n.isWildcard = false) ∧
      Checked.call callee lparen args rparen = .ok (.call callee lparen args rparen) ∧
      lparen.kind = .leftParen ∧ rparen.kind = .rightParen := by
  simp only [IsScalar, isScalar, Bool.and_eq_true] at h
  have made : Checked.call callee lparen args rparen = .ok (.call callee lparen args rparen) :=
    Shaped.ok_of_isOk h.2
  refine ⟨?_, made, by simpa [Checked.call] using made⟩
  cases callee with
  | name n => simpa [name?] using h.1
  | _ => cases h.1

theorem collate_slots (h : (Expr.collate e keyword collation).IsScalar) :
    keyword.isKeyword .COLLATE = true ∧ collation.isWord = true := by
  have made : Checked.collate e keyword collation = .ok (.collate e keyword collation) :=
    Shaped.ok_of_isOk h
  simpa [Checked.collate, Check.identifier] using made

theorem list_slots {items : List Expr} {separators : List Token}
    (h : (Expr.list items separators).IsScalar) :
    2 ≤ items.length ∧ (∀ x ∈ items, x.isList = false) ∧
      Checked.list items separators = .ok (.list items separators) ∧
      separators.length + 1 = items.length ∧ ∀ s ∈ separators, s.kind = .comma := by
  simp only [IsScalar, isScalar, Bool.and_eq_true, decide_eq_true_eq, List.all_eq_true,
    Bool.not_eq_true'] at h
  have made : Checked.list items separators = .ok (.list items separators) := Shaped.ok_of_isOk h.2
  exact ⟨h.1.1, h.1.2, made, Checked.list_ok made⟩

theorem isSource_of_literal (h : (Expr.literal t).IsScalar) : t.isSource = true := by
  rcases literal_slot h with form | null
  · unfold Token.isSource
    cases kind : t.kind <;> simp_all [TokenKind.isLiteral, TokenKind.isSource]
  · exact Token.isSource_of_isKeyword null

theorem isSource_of_name (h : t.isWord = true ∨ t.kind = .arithmetic .star) : t.isSource = true := by
  rcases h with word | star
  · exact Token.isSource_of_isWord word
  · exact Token.isSource_of_kind_eq rfl star

theorem isSource_of_unary (h : (Expr.unary op e).IsScalar) : op.isSource = true := by
  rcases unary_slot h with ((plus | minus) | tilde) | not
  · exact Token.isSource_of_kind_eq rfl plus
  · exact Token.isSource_of_kind_eq rfl minus
  · exact Token.isSource_of_kind_eq rfl tilde
  · exact Token.isSource_of_isKeyword not

theorem isSource_of_binary (h : (Expr.binary l op r).IsScalar) : op.isSource = true := by
  rcases binary_slot h with ⟨_, kind⟩ | ⟨_, kind⟩ | kind | kind
  all_goals exact Token.isSource_of_kind_eq rfl kind

end

/-! ### Layout -/

/-- The slots of a scalar node hold just the tokens of its layout. -/
theorem tokens_eq_layout {e : Expr} (h : e.IsScalar) : e.tree.tokens = e.layout := by
  cases e with
  | literal t => simp [tree, layout, Tree.tokens_token (isSource_of_literal h)]
  | name n =>
    obtain ⟨t, rfl, _, _, slot⟩ := name_slot h
    simp [tree, Name.tree, Tree.tokenSlots, layout, Tree.tokens_token (isSource_of_name slot)]
  | unary op e => simp [tree, layout, Tree.tokens_token (isSource_of_unary h)]
  | binary l op r => simp [tree, layout, Tree.tokens_token (isSource_of_binary h)]
  | isNull e isToken not null =>
    obtain ⟨isGiven, notGiven, nullGiven⟩ := isNull_slots h
    simp [tree, layout, tokensOf_optionalToken notGiven,
      Tree.tokens_token (Token.isSource_of_isKeyword isGiven),
      Tree.tokens_token (Token.isSource_of_isKeyword nullGiven)]
  | like e not keyword pattern escape =>
    obtain ⟨notGiven, given, escapeGiven⟩ := like_slots h
    have source := Tree.tokens_token (Token.isSource_of_isKeyword given)
    cases escape with
    | absent => simp [tree, layout, Tail.slots, tokensOf_optionalToken notGiven, source]
    | present escape value =>
      have source' := Tree.tokens_token (Token.isSource_of_isKeyword (escapeGiven _ _ rfl))
      simp [tree, layout, Tail.slots, tokensOf_optionalToken notGiven, source, source']
  | between e not keyword low and high =>
    obtain ⟨notGiven, given, andGiven⟩ := between_slots h
    simp [tree, layout, tokensOf_optionalToken notGiven,
      Tree.tokens_token (Token.isSource_of_isKeyword given),
      Tree.tokens_token (Token.isSource_of_isKeyword andGiven)]
  | isIn e not keyword lparen values rparen =>
    obtain ⟨notGiven, given, opened, closed⟩ := isIn_slots h
    simp [tree, layout, tokensOf_optionalToken notGiven,
      Tree.tokens_token (Token.isSource_of_isKeyword given),
      Tree.tokens_token (Token.isSource_of_kind_eq rfl opened),
      Tree.tokens_token (Token.isSource_of_kind_eq rfl closed)]
  | paren lparen e rparen =>
    obtain ⟨opened, closed⟩ := paren_slots h
    simp [tree, layout, Tree.tokens_token (Token.isSource_of_kind_eq rfl opened),
      Tree.tokens_token (Token.isSource_of_kind_eq rfl closed)]
  | call callee lparen args rparen =>
    obtain ⟨_, _, opened, closed⟩ := call_slots h
    cases args <;> simp [tree, layout, optionalSlot,
      Tree.tokens_token (Token.isSource_of_kind_eq rfl opened),
      Tree.tokens_token (Token.isSource_of_kind_eq rfl closed)]
  | collate e keyword collation =>
    obtain ⟨given, word⟩ := collate_slots h
    simp [tree, layout, Tree.tokens_token (Token.isSource_of_isKeyword given),
      Tree.tokens_token (Token.isSource_of_isWord word)]
  | list items separators =>
    obtain ⟨_, _, _, paired, commas⟩ := list_slots h
    cases items with
    | nil => cases paired
    | cons first items => simp [tree, layout, tokensOf_interleave (Nat.succ.inj paired) commas]
  | _ => cases h

theorem isSource_of_itemTokens {items : List Expr} {separators : List Token}
    (commas : ∀ s ∈ separators, s.kind = .comma)
    (below : ∀ x ∈ items, ∀ t ∈ x.tree.tokens, t.isSource = true) :
    ∀ t ∈ itemTokens separators items, t.isSource = true := by
  induction separators generalizing items with
  | nil => simp [itemTokens]
  | cons s separators ih =>
    cases items with
    | nil => simp [itemTokens]
    | cons x items =>
      simp only [List.forall_mem_cons] at commas below
      simp only [itemTokens, List.cons_append, List.forall_mem_cons, List.forall_mem_append]
      exact ⟨Token.isSource_of_kind_eq rfl commas.1, below.1, ih commas.2 below.2⟩

theorem isSource_of_optional {k : Keyword} {not : Option Token}
    (h : ∀ u ∈ not, u.isKeyword k = true) : ∀ t ∈ not.toList, t.isSource = true := fun t member =>
  Token.isSource_of_isKeyword (h t (Option.mem_toList.mp member))

/-- All tokens of a scalar expression stand for text. -/
theorem isSource_of_scalar {e : Expr} (h : e.Everywhere IsScalar) :
    ∀ t ∈ e.tree.tokens, t.isSource = true := by
  induction h with
  | @intro e here below ih =>
    rw [tokens_eq_layout here]
    cases e with
    | literal t => simpa [layout] using isSource_of_literal here
    | name n =>
      obtain ⟨t, rfl, _, _, slot⟩ := name_slot here
      simpa [layout] using isSource_of_name slot
    | unary op e =>
      simp only [children, List.forall_mem_cons] at ih
      simpa [layout] using ⟨isSource_of_unary here, ih.1⟩
    | binary l op r =>
      simp only [children, List.forall_mem_cons] at ih
      simp only [layout, List.forall_mem_append, List.forall_mem_cons]
      exact ⟨ih.1, isSource_of_binary here, ih.2.1⟩
    | isNull e isToken not null =>
      obtain ⟨isGiven, notGiven, nullGiven⟩ := isNull_slots here
      simp only [children, List.forall_mem_cons] at ih
      simp only [layout, List.forall_mem_append, List.forall_mem_cons]
      exact ⟨ih.1, Token.isSource_of_isKeyword isGiven, isSource_of_optional notGiven,
        Token.isSource_of_isKeyword nullGiven, by simp⟩
    | like e not keyword pattern escape =>
      obtain ⟨notGiven, given, escapeGiven⟩ := like_slots here
      simp only [children, List.forall_mem_cons] at ih
      cases escape with
      | absent =>
        simp only [layout, List.forall_mem_append, List.forall_mem_cons]
        exact ⟨ih.1, isSource_of_optional notGiven, Token.isSource_of_isKeyword given, ih.2.1⟩
      | present escape value =>
        simp only [layout, List.forall_mem_append, List.forall_mem_cons]
        exact ⟨ih.1, isSource_of_optional notGiven, Token.isSource_of_isKeyword given, ih.2.1,
          Token.isSource_of_isKeyword (escapeGiven _ _ rfl), ih.2.2 value (by simp [Tail.value?])⟩
    | between e not keyword low and high =>
      obtain ⟨notGiven, given, andGiven⟩ := between_slots here
      simp only [children, List.forall_mem_cons] at ih
      simp only [layout, List.forall_mem_append, List.forall_mem_cons]
      exact ⟨ih.1, isSource_of_optional notGiven, Token.isSource_of_isKeyword given, ih.2.1,
        Token.isSource_of_isKeyword andGiven, ih.2.2.1⟩
    | isIn e not keyword lparen values rparen =>
      obtain ⟨notGiven, given, opened, closed⟩ := isIn_slots here
      simp only [children, List.forall_mem_cons] at ih
      simp only [layout, List.forall_mem_append, List.forall_mem_cons]
      exact ⟨ih.1, isSource_of_optional notGiven, Token.isSource_of_isKeyword given,
        Token.isSource_of_kind_eq rfl opened, ih.2.1, Token.isSource_of_kind_eq rfl closed, by simp⟩
    | paren lparen e rparen =>
      obtain ⟨opened, closed⟩ := paren_slots here
      simp only [children, List.forall_mem_cons] at ih
      simp only [layout, List.forall_mem_append, List.forall_mem_cons]
      exact ⟨Token.isSource_of_kind_eq rfl opened, ih.1, Token.isSource_of_kind_eq rfl closed, by simp⟩
    | call callee lparen args rparen =>
      obtain ⟨_, _, opened, closed⟩ := call_slots here
      simp only [children, List.forall_mem_cons] at ih
      cases args with
      | none =>
        simp only [layout, List.forall_mem_append, List.forall_mem_cons]
        exact ⟨ih.1, Token.isSource_of_kind_eq rfl opened, Token.isSource_of_kind_eq rfl closed, by simp⟩
      | some args =>
        simp only [layout, List.forall_mem_append, List.forall_mem_cons]
        exact ⟨ih.1, Token.isSource_of_kind_eq rfl opened, ih.2 args (by simp),
          Token.isSource_of_kind_eq rfl closed, by simp⟩
    | collate e keyword collation =>
      obtain ⟨given, word⟩ := collate_slots here
      simp only [children, List.forall_mem_cons] at ih
      simp only [layout, List.forall_mem_append, List.forall_mem_cons]
      exact ⟨ih.1, Token.isSource_of_isKeyword given, Token.isSource_of_isWord word, by simp⟩
    | list items separators =>
      obtain ⟨_, _, _, paired, commas⟩ := list_slots here
      cases items with
      | nil => cases paired
      | cons first items =>
        simp only [children, List.forall_mem_cons] at ih
        simp only [layout, List.forall_mem_append]
        exact ⟨ih.1, isSource_of_itemTokens commas ih.2⟩
    | _ => cases here

/-- A scalar expression starts with a token that closes nothing. -/
theorem starts_of_scalar {e : Expr} (h : e.Everywhere IsScalar) :
    ∃ t ts, e.tree.tokens = t :: ts ∧ t.kind ≠ .rightParen := by
  induction h with
  | @intro e here below ih =>
    have operand : ∀ x ∈ e.children, ∀ ts, e.layout = x.tree.tokens ++ ts →
        ∃ t ts, e.layout = t :: ts ∧ t.kind ≠ .rightParen := by
      intro x member ts laid
      obtain ⟨t, us, starts, other⟩ := ih x member
      rw [laid, starts]
      exact ⟨t, us ++ ts, rfl, other⟩
    rw [tokens_eq_layout here]
    cases e with
    | literal t =>
      refine ⟨t, [], rfl, fun closed => ?_⟩
      rcases literal_slot here with form | null
      · simp [closed, TokenKind.isLiteral] at form
      · simp [Token.isKeyword, Token.keyword?, closed, TokenKind.keyword?] at null
    | name n =>
      obtain ⟨t, rfl, _, _, slot⟩ := name_slot here
      refine ⟨t, [], rfl, fun closed => ?_⟩
      rcases slot with word | star
      · simp [Token.isWord, closed, TokenKind.isWord] at word
      · simp [closed] at star
    | unary op e =>
      refine ⟨op, e.tree.tokens, rfl, fun closed => ?_⟩
      have slot := unary_slot here
      simp [Token.isKeyword, Token.keyword?, closed, TokenKind.keyword?] at slot
    | paren lparen e rparen =>
      refine ⟨lparen, e.tree.tokens ++ [rparen], rfl, ?_⟩
      simp [(paren_slots here).1]
    | like e not keyword pattern escape => cases escape <;> exact operand e (by simp [children]) _ rfl
    | call callee lparen args rparen => cases args <;> exact operand callee (by simp [children]) _ rfl
    | list items separators =>
      obtain ⟨several, _⟩ := list_slots here
      cases items with
      | nil => cases several
      | cons first items => exact operand first (by simp [children]) _ rfl
    | binary e | isNull e | between e | isIn e | collate e => exact operand e (by simp [children]) _ rfl
    | _ => cases here

/-! ### Powers -/

section

variable {e l r : Expr} {min p q : Precedence}

theorem isList_of_above (above : e.Above q) (strong : .comma ≤ q) : e.isList = false := by
  cases e with
  | list items separators =>
    have weaker : q < .comma := above.power rfl
    exact absurd strong (Nat.not_le_of_lt weaker)
  | _ => rfl

theorem comma_lt_of_binary {op : Token} (scalar : (Expr.binary l op r).IsScalar) :
    .comma < op.precedence := by
  rcases binary_slot scalar with ⟨a, kind⟩ | ⟨a, kind⟩ | kind | kind
  · rw [Token.precedence_eq kind]
    cases a <;> decide
  · rw [Token.precedence_eq kind]
    cases a <;> decide
  · rw [Token.precedence_eq kind]
    decide
  · rw [Token.precedence_eq kind]
    decide

theorem none_lt_infixPower (scalar : e.IsScalar) (power : e.infixPower? = some p) : .none < p := by
  cases e with
  | binary l op r =>
    cases power
    exact Nat.lt_trans (by decide) (comma_lt_of_binary scalar)
  | isNull | like | between | isIn | call | collate | list =>
    cases power
    decide
  | literal | name | unary | paren => cases power
  | _ => cases scalar

theorem above_none (scalar : e.Everywhere IsScalar) : e.Above .none := by
  intro x member p power
  exact none_lt_infixPower (scalar.leftSpine x member) power

end

end Expr

end TransactSql
