import TransactSql.Expr.Checked
import TransactSql.Proofs.Parser.Reading

/-!
# What checked construction gives

A constructor that accepts its parts puts them into the node as they are. Checks only decide
whether it does.
-/

namespace TransactSql

/-! ### Kinds of expressions -/

namespace Expr

theorem isCall_eq (e : Expr) : e.isCall = (e.kind == .call) := by cases e <;> rfl

theorem isNone_name? (e : Expr) : e.name?.isNone = (e.kind != .name) := by cases e <;> rfl

theorem name?_eq_none {e : Expr} (other : e.kind ≠ .name) : e.name? = none := by
  rw [← Option.isNone_iff_eq_none, isNone_name?, bne_iff_ne]
  exact other

/-- A query is told by its kind, where it does not stand in parentheses. -/
theorem isQuery_eq {e : Expr} (inner : e.kind ≠ .paren) :
    e.isQuery = [.select, .setOperation, .orderBy, .queryOption].contains e.kind := by
  cases e with
  | paren => exact absurd rfl inner
  | _ => rfl

end Expr

/-- The keyword of an optional part. -/
@[simp]
def Tail.keyword? : Tail → Option Token
  | .absent => none
  | .present keyword _ => some keyword

/-! ### Construction -/

theorem exists_of_isOk {x : Except ε α} (h : x.isOk = true) : ∃ a, x = .ok a := by
  cases x with
  | ok a => exact ⟨a, rfl⟩
  | error e => cases h

namespace Shaped

@[simp]
theorem isOk_bind (checks : Shaped Unit) (f : Unit → Shaped α) :
    (checks >>= f).isOk = (checks.isOk && (f ()).isOk) := by
  cases checks <;> rfl

@[simp]
theorem isOk_pure (a : α) : (pure a : Shaped α).isOk = true := rfl

@[simp]
theorem isOk_ok (a : α) : (.ok a : Shaped α).isOk = true := rfl

@[simp]
theorem isOk_map (f : α → β) (m : Shaped α) : (f <$> m).isOk = m.isOk := by
  cases m <;> rfl

@[simp]
theorem isOk_error (e : ShapeError) : (.error e : Shaped α).isOk = false := rfl

@[simp]
theorem isOk_ite {c : Prop} [Decidable c] (x y : Shaped α) :
    (if c then x else y).isOk = if c then x.isOk else y.isOk := apply_ite _ c x y

end Shaped

/-- If the checks pass, the outcome is `a`. -/
class Shaped.Makes (made : Shaped α) (a : outParam α) : Prop where
  eq : ∀ {b : α}, made = .ok b → b = a

open TransactSql.Shaped

namespace Checked

instance (a : α) : Makes (pure a) a := ⟨fun h => (Except.ok.inj h).symm⟩

instance (a : α) : Makes (.ok a) a := ⟨fun h => (Except.ok.inj h).symm⟩

instance (checks : Shaped Unit) : Makes checks () := ⟨fun _ => rfl⟩

instance {m : Shaped α} {k : α → Shaped β} {a : α} {b : β} [first : Makes m a]
    [rest : Makes (k a) b] : Makes (m >>= k) b := by
  refine ⟨fun h => ?_⟩
  cases run : m with
  | error e =>
    rw [run] at h
    cases h
  | ok x =>
    rw [run, first.eq run] at h
    exact rest.eq h

instance {c : Prop} [Decidable c] {e : ShapeError} {m : Shaped α} {a : α} [rest : Makes m a] :
    Makes (if c then .error e else m) a := by
  refine ⟨fun h => ?_⟩
  split at h
  · cases h
  · exact rest.eq h

instance {c : Prop} [Decidable c] {e : ShapeError} {m : Shaped α} {a : α} [rest : Makes m a] :
    Makes (if c then m else .error e) a := by
  refine ⟨fun h => ?_⟩
  split at h
  · exact rest.eq h
  · cases h

end Checked

theorem Parser.build_ok {made : Shaped α} {a b : α} [makes : Makes made a] {c d : Cursor}
    (h : build made c = .ok b d) : b = a ∧ d = c := by
  unfold build at h
  split at h
  · cases h
    exact ⟨makes.eq rfl, rfl⟩
  · cases h

theorem Parser.build_bind_ok {made : Shaped α} {a : α} [Makes made a] {k : α → Parser β}
    {c d : Cursor} {b : β} (h : (build made >>= k) c = .ok b d) : k a c = .ok b d := by
  obtain ⟨x, e, built, rest⟩ := bind_ok h
  obtain ⟨rfl, rfl⟩ := build_ok built
  exact rest

namespace Checked

instance (node : NodeKind) (items : List α) (separators : List Token) :
    Makes (separated node items separators) (items, separators) := by
  unfold separated; infer_instance

instance (items : List Expr) (separators : List Token) :
    Makes (list items separators) (.list items separators) := by
  unfold list; infer_instance

instance (tokens : List Token) : Makes (rawTokens tokens) ⟨tokens⟩ := by
  refine ⟨fun h => ?_⟩
  unfold rawTokens at h
  split at h
  · cases h
  · cases h
    rfl

/-- Tokens kept raw stand for text. -/
theorem isSource_of_rawTokens {tokens : List Token} {r : RawTokens} (h : rawTokens tokens = .ok r) :
    ∀ t ∈ tokens, t.isSource = true := by
  unfold rawTokens at h
  split at h
  · cases h
  · next accepted =>
    intro t member
    have kind := List.find?_eq_none.mp accepted t member
    simpa [Token.isSource, TokenKind.isSource_eq_true_iff, Token.isPlaceholder, Token.isEof,
      Token.isError, and_assoc] using kind

theorem isSource_of_build {tokens : List Token} {r : RawTokens} {c d : Cursor}
    (h : Parser.build (rawTokens tokens) c = .ok r d) : ∀ t ∈ tokens, t.isSource = true := by
  unfold Parser.build at h
  cases made : rawTokens tokens with
  | ok kept => exact isSource_of_rawTokens made
  | error e =>
    rw [made] at h
    cases h

theorem rawTokens_bind_ok {tokens : List Token} {k : RawTokens → Parser β} {c d : Cursor} {b : β}
    (h : (Parser.build (rawTokens tokens) >>= k) c = .ok b d) :
    (∀ t ∈ tokens, t.isSource = true) ∧ k ⟨tokens⟩ c = .ok b d := by
  obtain ⟨_, _, built, _⟩ := Parser.bind_ok h
  exact ⟨isSource_of_build built, Parser.build_bind_ok h⟩

section

variable (node : NodeKind) (s t u v w : Token) (e f g : Expr)

instance : Makes (literal t) (.literal t) := by unfold literal; infer_instance

instance (parts : List Token) : Makes (name parts) ⟨parts⟩ := by unfold name; infer_instance

instance : Makes (paren t e u) (.paren t e u) := by unfold paren; infer_instance

instance : Makes (unary t e) (.unary t e) := by unfold unary; infer_instance

instance : Makes (binary e t f) (.binary e t f) := by unfold binary; infer_instance

instance : Makes (assignment e t f) (.assignment e t f) := by unfold assignment; infer_instance

instance (not : Option Token) : Makes (isNull e t not u) (.isNull e t not u) := by
  unfold isNull; infer_instance

instance (not : Option Token) (escape : Tail) :
    Makes (like e not t f escape) (.like e not t f escape) := by
  unfold like; infer_instance

instance (not : Option Token) : Makes (between e not t f u g) (.between e not t f u g) := by
  unfold between; infer_instance

instance (not : Option Token) : Makes (isIn e not t u f v) (.isIn e not t u f v) := by
  unfold isIn; infer_instance

instance : Makes (collate e t u) (.collate e t u) := by unfold collate; infer_instance

instance (args : Option Expr) : Makes (call e t args u) (.call e t args u) := by
  unfold call; infer_instance

instance (partition order : Option Clause) (frame : Option RawTokens) :
    Makes (overClause t u partition order frame v) ⟨t, u, partition, order, frame, v⟩ := by
  unfold overClause; infer_instance

instance (o : OverClause) : Makes (window e o) (.window e o) := by unfold window; infer_instance

instance (type : DataType) : Makes (cast t u e v type w) (.cast t u e v type w) := by
  unfold cast; infer_instance

instance : Makes (whenClause t e u f) ⟨t, e, u, f⟩ := by unfold whenClause; infer_instance

instance (operand : Option Expr) (whens : List WhenClause) (otherwise : Tail) :
    Makes (case t operand whens otherwise u) (.case t operand whens otherwise u) := by
  unfold case; infer_instance

instance (n : Name) (args : Option Expr) : Makes (typeName n t args u) (.named n t args u) := by
  unfold typeName; infer_instance

instance (definition : RawTokens) : Makes (tableType t u definition v) ⟨t, u, definition, v⟩ := by
  unfold tableType; infer_instance

instance : Makes (aliased e t u) (.aliased e t u) := by unfold aliased; infer_instance

instance : Makes (sort e t) (.sort e t) := by unfold sort; infer_instance

instance (operator : List Token) (on : Tail) : Makes (join e operator f on) (.join e operator f on) := by
  unfold join
  split
  · exact ⟨fun h => by cases h⟩
  · infer_instance

instance : Makes (tableHint e t u f v) (.tableHint e t u f v) := by unfold tableHint; infer_instance

instance (keywords : List Token) (expected : List Keyword) :
    Makes (clause keywords expected e) ⟨keywords, e⟩ := by
  unfold clause; infer_instance

instance (percent : Option Token) (withTies : Option (Token × Token)) :
    Makes (top t u e v percent withTies) ⟨t, u, e, v, percent, withTies⟩ := by
  unfold top; infer_instance

instance (quantifier : Option Token) (topClause : Option TopClause) (clauses : SelectClauses) :
    Makes (select t quantifier topClause e clauses) (.select t quantifier topClause e clauses) := by
  unfold select
  cases quantifier <;> dsimp only <;> infer_instance

instance (all : Option Token) : Makes (setOperation e t all f) (.setOperation e t all f) := by
  unfold setOperation
  cases all <;> dsimp only <;> infer_instance

instance : Makes (fetch t u e v w) ⟨t, u, e, v, w⟩ := by unfold fetch; infer_instance

instance (next : Option FetchClause) : Makes (offset t e u next) ⟨t, e, u, next⟩ := by
  unfold offset; infer_instance

instance (order : Clause) (next : Option OffsetFetch) :
    Makes (orderBy e order next) (.orderBy e order next) := by
  unfold orderBy; infer_instance

instance (options : RawTokens) : Makes (queryOption e t options) (.queryOption e t options) := by
  unfold queryOption; infer_instance

end

end Checked

end TransactSql
