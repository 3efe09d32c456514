import TransactSql.Grammar.Operand
import TransactSql.Proofs.Parens.Depth
import TransactSql.Proofs.Parser.Settling

/-!
# Parsers and the level of parentheses

A rule closes the parentheses that it opens and no others, also where it fails on the way. `Levels`
says so of an outcome: a run that succeeds has come to a given level, and a run that fails stands at
the token it failed at, with only its own parentheses open. `ClosesParen` is for the rules that read
on to the `)` of a parenthesis opened before them.
-/

namespace TransactSql

/-! ### Errors of checked construction -/

/-- The sort of node that was refused. -/
def ShapeError.node : ShapeError → NodeKind
  | .unexpectedToken node .. | .emptyList node .. | .separators node .. | .invalid node .. => node

/-- All errors are about nodes of one sort. -/
class Shaped.Concerns (node : NodeKind) (made : Shaped α) : Prop where
  node_eq : ∀ {e : ShapeError}, made = .error e → e.node = node

/-- No error is about tokens kept raw. -/
class Shaped.Apart (made : Shaped α) : Prop where
  node_ne : ∀ {e : ShapeError}, made = .error e → e.node ≠ .rawTokens

open TransactSql.Shaped

theorem Shaped.Apart.of {made : Shaped α} (node : NodeKind) (concerns : Concerns node made)
    (other : node ≠ .rawTokens := by decide) : Apart made where
  node_ne refused := concerns.node_eq refused ▸ other

namespace Check

variable {node : NodeKind}

instance (a : α) : Concerns node (pure a : Shaped α) := ⟨nofun⟩

instance (a : α) : Concerns node (.ok a : Shaped α) := ⟨nofun⟩

instance (list : String) : Concerns node (.error (.emptyList node list) : Shaped α) :=
  ⟨fun refused => by cases refused; rfl⟩

instance (items found : Nat) : Concerns node (.error (.separators node items found) : Shaped α) :=
  ⟨fun refused => by cases refused; rfl⟩

instance (reason : String) : Concerns node (.error (.invalid node reason) : Shaped α) :=
  ⟨fun refused => by cases refused; rfl⟩

theorem concerns_bind {m : Shaped α} {k : α → Shaped β} (first : Concerns node m)
    (rest : ∀ a, Concerns node (k a)) : Concerns node (m >>= k) where
  node_eq refused := by
    cases run : m with
    | error e =>
      rw [run] at refused
      cases refused
      exact first.node_eq run
    | ok a =>
      rw [run] at refused
      exact (rest a).node_eq refused

instance {m : Shaped α} {k : α → Shaped β} [first : Concerns node m]
    [rest : ∀ a, Concerns node (k a)] : Concerns node (m >>= k) := concerns_bind first rest

instance {c : Prop} [Decidable c] {x y : Shaped α} [Concerns node x] [Concerns node y] :
    Concerns node (if c then x else y) := by
  split <;> infer_instance

variable {slot expected : String} {t : Token} {k : Keyword}

instance {ok : Bool} : Concerns node (token node slot t expected ok) where
  node_eq refused := by
    unfold token at refused
    split at refused
    · cases refused
    · cases refused
      rfl

instance : Concerns node (keyword node slot t k) := by unfold keyword; infer_instance

instance (found : Option Token) : Concerns node (keyword? node slot found k) := by
  unfold keyword?
  split <;> infer_instance

instance {k : TokenKind} : Concerns node (kind node slot t k expected) := by
  unfold kind; infer_instance

instance (lparen rparen : Token) : Concerns node (parens node lparen rparen) := by
  unfold parens; infer_instance

instance {k : TokenKind} : Concerns node (optionalKind node slot t k expected) := by
  unfold optionalKind; infer_instance

instance (lparen rparen : Token) : Concerns node (parenPair node lparen rparen) := by
  unfold parenPair; infer_instance

instance : Concerns node (identifier node slot t) := by unfold identifier; infer_instance

instance : Concerns node (variableName node slot t) := by unfold variableName; infer_instance

instance : Concerns node (optionalAs node t) := by unfold optionalAs; infer_instance

instance {check : α → Shaped Unit} [∀ a, Concerns node (check a)] (as : List α) :
    Concerns node (forM as check) := by
  induction as with
  | nil => exact ⟨nofun⟩
  | cons a as ih =>
    rw [List.forM_cons]
    infer_instance

instance (tail : Tail) : Concerns node (Checked.tail node slot k tail) := by
  unfold Checked.tail
  split <;> infer_instance

instance (clause : Option Clause) : Concerns node (Checked.leading node slot clause k) := by
  unfold Checked.leading
  split <;> infer_instance

instance : Concerns node (Checked.rows node t) := by unfold Checked.rows; infer_instance

instance (items : List α) (separators : List Token) :
    Concerns node (Checked.separated node items separators) := by
  have commas : ∀ ss : List Token,
      Concerns node (ss.forM fun s => kind node "separator" s .comma "','") := fun ss =>
    inferInstanceAs (Concerns node (forM ss _))
  unfold Checked.separated
  infer_instance

end Check

namespace Checked

section

variable (t u v w : Token) (e f g : Expr)

instance : Apart (literal t) := .of .literal (by unfold literal; infer_instance)

theorem nameParts_concerns (first wanted : Bool) (parts : List Token) :
    Concerns .name (nameParts first wanted parts) := by
  induction parts generalizing first wanted with
  | nil => unfold nameParts; infer_instance
  | cons t rest ih => unfold nameParts; infer_instance

instance (parts : List Token) : Apart (name parts) := by
  have concerns := nameParts_concerns true true parts
  exact .of .name (by unfold name; infer_instance)

instance : Apart (paren t e u) := .of .paren (by unfold paren; infer_instance)

instance : Apart (unary t e) := .of .unary (by unfold unary; infer_instance)

instance : Apart (binary e t f) := .of .binary (by unfold binary; infer_instance)

instance : Apart (assignment e t f) := .of .assignment (by unfold assignment; infer_instance)

instance (items : List Expr) (separators : List Token) : Apart (list items separators) :=
  .of .exprList (by unfold list; infer_instance)

instance (not : Option Token) : Apart (isNull e t not u) :=
  .of .isNull (by unfold isNull; infer_instance)

instance (not : Option Token) (escape : Tail) : Apart (like e not t f escape) :=
  .of .like (by unfold like; infer_instance)

instance (not : Option Token) : Apart (between e not t f u g) :=
  .of .between (by unfold between; infer_instance)

instance (not : Option Token) : Apart (isIn e not t u f v) :=
  .of .isIn (by unfold isIn; infer_instance)

instance : Apart (collate e t u) := .of .collate (by unfold collate; infer_instance)

instance (args : Option Expr) : Apart (call e t args u) :=
  .of .call (by unfold call; infer_instance)

instance (partition order : Option Clause) (frame : Option RawTokens) :
    Apart (overClause t u partition order frame v) :=
  .of .overClause (by unfold overClause; infer_instance)

instance (o : OverClause) : Apart (window e o) := .of .window (by unfold window; infer_instance)

instance (type : DataType) : Apart (cast t u e v type w) :=
  .of .cast (by unfold cast; infer_instance)

instance : Apart (whenClause t e u f) := .of .whenClause (by unfold whenClause; infer_instance)

instance (operand : Option Expr) (whens : List WhenClause) (otherwise : Tail) :
    Apart (case t operand whens otherwise u) := .of .case (by unfold case; infer_instance)

instance (n : Name) (args : Option Expr) : Apart (typeName n t args u) :=
  .of .typeName (by unfold typeName; infer_instance)

instance (definition : RawTokens) : Apart (tableType t u definition v) :=
  .of .tableType (by unfold tableType; infer_instance)

instance : Apart (aliased e t u) := .of .aliased (by unfold aliased; infer_instance)

instance : Apart (sort e t) := .of .sort (by unfold sort; infer_instance)

instance (operator : List Token) (on : Tail) : Apart (join e operator f on) := by
  refine .of .join ?_
  unfold join
  split <;> infer_instance

instance : Apart (tableHint e t u f v) := .of .tableHint (by unfold tableHint; infer_instance)

instance (keywords : List Token) (expected : List Keyword) : Apart (clause keywords expected e) := by
  have words : ∀ pairs : List (Token × Keyword),
      Concerns .clause (pairs.forM fun (t, k) => Check.keyword .clause "keyword" t k) := fun pairs =>
    inferInstanceAs (Concerns .clause (forM pairs _))
  exact .of .clause (by unfold clause; infer_instance)

instance (percent : Option Token) (withTies : Option (Token × Token)) :
    Apart (top t u e v percent withTies) := .of .topClause (by unfold top; infer_instance)

instance (quantifier : Option Token) (topClause : Option TopClause) (clauses : SelectClauses) :
    Apart (select t quantifier topClause e clauses) := by
  refine .of .select ?_
  unfold select
  refine Check.concerns_bind inferInstance fun _ => ?_
  cases quantifier with
  | none => exact Check.concerns_bind inferInstance fun _ => inferInstance
  | some q =>
    refine Check.concerns_bind inferInstance fun _ => ?_
    exact Check.concerns_bind inferInstance fun _ => inferInstance

instance (all : Option Token) : Apart (setOperation e t all f) := by
  refine .of .setOperation ?_
  unfold setOperation
  cases all <;> dsimp only <;> infer_instance

instance : Apart (fetch t u e v w) := .of .fetchClause (by unfold fetch; infer_instance)

instance (next : Option FetchClause) : Apart (offset t e u next) :=
  .of .offsetFetch (by unfold offset; infer_instance)

instance (order : Clause) (next : Option OffsetFetch) : Apart (orderBy e order next) :=
  .of .orderBy (by unfold orderBy; infer_instance)

instance (options : RawTokens) : Apart (queryOption e t options) :=
  .of .queryOption (by unfold queryOption; infer_instance)

end

end Checked

/-! ### Where runs stand -/

namespace Cursor

/-- From one cursor to another over tokens that close only what they opened and leave `k` open. -/
def Opens (b : Cursor) (k : Nat) (c : Cursor) : Prop :=
  ∃ raw, b.ahead = raw ++ c.ahead ∧ parenDepth? 0 raw = some k

/-- The token stands ahead, behind tokens that close only what they opened. -/
def Meets (b : Cursor) (t : Token) : Prop :=
  ∃ before after, b.ahead = before ++ t :: after ∧ Upright before

/-- How a run that began at `b` may fail: at the token where it stands, for a fault of the text, or
because it met a token that cannot be kept raw. -/
def Stops (b d : Cursor) : Failure → Prop
  | .grammar x => d.fault = some x ∧ x.span = d.rawCurrent.span ∧ ∃ k, b.Opens k d
  | .shape e => e.node = .rawTokens → ∃ t, b.Meets t ∧ t.isSource = false
  | _ => True

variable {b c d : Cursor} {j k l : Nat}

theorem Opens.refl (c : Cursor) : c.Opens 0 c := ⟨[], rfl, rfl⟩

theorem Opens.trans (h : b.Opens j c) (h' : c.Opens k d) : b.Opens (j + k) d := by
  obtain ⟨raw, ahead, depth⟩ := h
  obtain ⟨more, ahead', depth'⟩ := h'
  refine ⟨raw ++ more, by rw [ahead, ahead', List.append_assoc], ?_⟩
  have shifted := parenDepth?_add depth' j
  rw [Nat.zero_add] at shifted
  rw [parenDepth?_append_of depth, shifted, Nat.add_comm]

theorem Opens.of_ahead (h : b.Opens k c) (same : d.ahead = c.ahead) : b.Opens k d := by
  unfold Opens
  rw [same]
  exact h

theorem Opens.meets {t : Token} (h : b.Opens k c) (meets : c.Meets t) : b.Meets t := by
  obtain ⟨raw, ahead, depth⟩ := h
  obtain ⟨before, after, ahead', ⟨m, upright⟩⟩ := meets
  refine ⟨raw ++ before, after, by rw [ahead, ahead', List.append_assoc], m + k, ?_⟩
  rw [parenDepth?_append_of depth]
  have shifted := parenDepth?_add upright k
  rwa [Nat.zero_add] at shifted

theorem Opens.stops {f : Failure} (h : b.Opens k c) (stops : c.Stops d f) : b.Stops d f := by
  cases f with
  | grammar x =>
    obtain ⟨fault, span, m, opens⟩ := stops
    exact ⟨fault, span, k + m, h.trans opens⟩
  | shape e =>
    intro isRaw
    obtain ⟨t, meets, absent⟩ := stops isRaw
    exact ⟨t, h.meets meets, absent⟩
  | _ => exact trivial

theorem parenStep_normalize (c : Cursor) (k : Nat) (t : Token) :
    parenStep k (c.normalize t) = parenStep k t := by
  have same := parenDepth?_of_readAs (.cons (c.readAs_normalize t) .nil) k
  simpa using same

/-- The level behind the current token, if there is one. -/
theorem Opens.advance (h : b.Opens k c) (ready : c.Ready) (step : parenStep k c.current = some l)
    (source : c.current.isSource = true) : b.Opens l c.advance := by
  obtain ⟨raw, ahead, depth⟩ := h
  obtain ⟨t, rest, ahead', current⟩ := exists_cons_of_isSource ready source
  rw [current, parenStep_normalize] at step
  rw [advance_eq ready ahead']
  refine ⟨raw ++ [t], by simp [ahead, ahead'], ?_⟩
  rw [parenDepth?_append_of depth, parenDepth?_cons, step]
  rfl

theorem Ready.advance (ready : c.Ready) : c.advance.Ready := by
  unfold Cursor.advance advance?
  split
  · exact ready
  · simp only [Option.getD_some, Cursor.skip, ready.fault]
    exact ⟨rfl, ready.eof⟩

theorem Opens.advance_plain (h : b.Opens k c) (ready : c.Ready)
    (plain : c.current.isParen = false) : b.Opens k c.advance := by
  obtain ⟨raw, ahead, depth⟩ := h
  cases ahead' : c.ahead with
  | nil =>
    have stays : c.advance = c := by simp [Cursor.advance, advance?, ahead']
    rw [stays]
    exact ⟨raw, ahead, depth⟩
  | cons t rest =>
    have current : c.current = c.normalize t := by
      rw [current_eq ready, rawCurrent, ahead']
      rfl
    have step := parenStep_of_not_isParen plain k
    rw [current, parenStep_normalize] at step
    rw [advance_eq ready ahead']
    refine ⟨raw ++ [t], by simp [ahead, ahead'], ?_⟩
    rw [parenDepth?_append_of depth, parenDepth?_cons, step]
    rfl

end Cursor

/-- A run that began at `b` comes to the level `k`, or fails as it may. -/
def Levels (b : Cursor) (k : Nat) : EStateM.Result Failure Cursor α → Prop
  | .ok _ d => b.Opens k d ∧ d.Ready
  | .error f d => b.Stops d f

/-- Every run ends at the level where it began. -/
class Parser.Level (p : Parser α) : Prop where
  level : ∀ {c : Cursor}, c.Ready → Levels c 0 (p c)

/-- The run reads balanced tokens and the `)` behind them, which is part of the value. A fault of
the text is that the tokens are cut short. -/
def Closed (c : Cursor) : EStateM.Result Failure Cursor (α × Token) → Prop
  | .ok (_, rparen) d => d.Ready ∧ rparen.kind = .rightParen ∧
      ∃ inner, c.ahead = inner ++ rparen :: d.ahead ∧ parenDepth? 0 inner = some 0
  | .error f d => c.Stops d f ∧ ∀ x, f = .grammar x → Grammar.isCutShort d.rawCurrent = true

/-- Every run reads on to the `)` of the parenthesis that is open. -/
class Parser.ClosesParen (p : Parser (α × Token)) : Prop where
  closed : ∀ {c : Cursor}, c.Ready → Closed c (p c)

namespace Levels

variable {b c : Cursor} {j k l : Nat}

theorem of_opens {reply : EStateM.Result Failure Cursor α} (opens : b.Opens j c)
    (levels : Levels c k reply) : Levels b (j + k) reply := by
  cases reply with
  | ok a d => exact ⟨opens.trans levels.1, levels.2⟩
  | error f d => exact opens.stops levels

theorem of_closed {reply : EStateM.Result Failure Cursor (α × Token)} (opens : b.Opens (j + 1) c)
    (closed : Closed c reply) : Levels b j reply := by
  cases reply with
  | ok a d =>
    obtain ⟨ready, isClosing, inner, ahead, depth⟩ := closed
    obtain ⟨raw, ahead', depth'⟩ := opens
    refine ⟨⟨raw ++ (inner ++ [a.2]), by simp [ahead, ahead'], ?_⟩, ready⟩
    have shifted := parenDepth?_add depth (j + 1)
    rw [Nat.zero_add] at shifted
    rw [parenDepth?_append_of depth', parenDepth?_append_of shifted, parenDepth?_cons,
      parenStep_rightParen isClosing]
    rfl
  | error f d => exact opens.stops closed.1

theorem bind {p : Parser α} {f : α → Parser β} (first : Levels b j (p c))
    (rest : ∀ a d, b.Opens j d → d.Ready → Levels b k (f a d)) : Levels b k ((p >>= f) c) := by
  cases run : p c with
  | ok a d =>
    rw [run] at first
    rw [Parser.bind_of_ok f run]
    exact rest a d first.1 first.2
  | error e d =>
    rw [run] at first
    rw [Parser.bind_of_error f run]
    exact first

/-- A part that keeps the level. -/
theorem next {p : Parser α} {f : α → Parser β} [part : Parser.Level p] (opens : b.Opens j c)
    (ready : c.Ready) (rest : ∀ a d, b.Opens j d → d.Ready → Levels b k (f a d)) :
    Levels b k ((p >>= f) c) :=
  (of_opens opens (part.level ready)).bind rest

theorem last {p : Parser α} [part : Parser.Level p] (opens : b.Opens k c) (ready : c.Ready) :
    Levels b k (p c) := of_opens opens (part.level ready)

/-- A part that closes the parenthesis that is open. -/
theorem close {p : Parser (α × Token)} {f : α × Token → Parser β} [part : Parser.ClosesParen p]
    (opens : b.Opens (j + 1) c) (ready : c.Ready)
    (rest : ∀ a d, b.Opens j d → d.Ready → Levels b k (f a d)) : Levels b k ((p >>= f) c) :=
  (of_closed opens (part.closed ready)).bind rest

theorem pure {a : α} (opens : b.Opens k c) (ready : c.Ready) :
    Levels b k ((Pure.pure a : Parser α) c) := ⟨opens, ready⟩

theorem fail {f : Fault} (opens : b.Opens j c) (ready : c.Ready) :
    Levels b k ((Parser.fail f : Parser α) c) := by
  refine ⟨rfl, ?_, j, opens.of_ahead rfl⟩
  rw [Cursor.diagnose, ready.fault]
  rfl

theorem fail_bind {f : Fault} {g : α → Parser β} (opens : b.Opens j c) (ready : c.Ready) :
    Levels b k (((Parser.fail f : Parser α) >>= g) c) := fail opens ready

theorem take {f : Token → Parser β} (opens : b.Opens j c) (ready : c.Ready)
    (plain : c.current.isParen = false)
    (rest : b.Opens j c.advance → c.advance.Ready → Levels b k (f c.current c.advance)) :
    Levels b k ((Parser.take >>= f) c) :=
  rest (opens.advance_plain ready plain) ready.advance

theorem takeOpen {f : Token → Parser β} (opens : b.Opens j c) (ready : c.Ready)
    (isOpen : c.current.kind = .leftParen)
    (rest : b.Opens (j + 1) c.advance → c.advance.Ready → Levels b k (f c.current c.advance)) :
    Levels b k ((Parser.take >>= f) c) :=
  rest (opens.advance ready (parenStep_leftParen isOpen j) (Token.isSource_of_kind_eq rfl isOpen))
    ready.advance

end Levels

namespace Parser

variable {b c : Cursor} {j k : Nat}

theorem Level.ok {p : Parser α} [part : Level p] {d : Cursor} {a : α} (ready : c.Ready)
    (run : p c = .ok a d) : c.Opens 0 d ∧ d.Ready := by
  have levels := part.level ready
  rwa [run] at levels

/-! ### Sequences and choices -/

instance (a : α) : Level (pure a : Parser α) := ⟨fun ready => .pure (.refl _) ready⟩

instance : Level (get : Parser Cursor) := ⟨fun {c} ready => ⟨.refl c, ready⟩⟩

theorem Level.bind {p : Parser α} {f : α → Parser β} (_ : Level p) (_ : ∀ a, Level (f a)) :
    Level (p >>= f) where
  level ready := .next (.refl _) ready fun _ _ opens ready => .last opens ready

instance {p : Parser α} {f : α → Parser β} [first : Level p] [rest : ∀ a, Level (f a)] :
    Level (p >>= f) := first.bind rest

instance {h : Prop} [Decidable h] {p q : Parser α} [Level p] [Level q] :
    Level (if h then p else q) := by
  split <;> infer_instance

/-! ### Tokens -/

instance : Level current := by unfold current; infer_instance

instance (k : TokenKind) : Level (atKind k) := by unfold atKind; infer_instance

instance (k : Keyword) : Level (atKeyword k) := by unfold atKeyword; infer_instance

theorem level_eat {p : Token → Bool} (plain : ∀ {t}, p t = true → t.isParen = false) :
    Level (eat p) where
  level {c} ready := by
    cases run : eat p c with
    | ok found d =>
      rcases eat_ok run with ⟨rfl, accepted, rfl⟩ | ⟨rfl, rfl, _⟩
      · exact ⟨(Cursor.Opens.refl c).advance_plain ready (plain accepted), ready.advance⟩
      · exact ⟨.refl _, ready⟩
    | error f d => cases run

theorem isParen_of_isKeyword {t : Token} {k : Keyword} (h : t.isKeyword k = true) :
    t.isParen = false := by
  simp [Token.isParen, Token.isKeyword_iff.mp h]

theorem isParen_of_isAnyKeyword {t : Token} {ks : List Keyword} (h : t.isAnyKeyword ks = true) :
    t.isParen = false := by
  unfold Token.isAnyKeyword Token.keyword? at h
  unfold Token.isParen
  cases kind : t.kind <;> simp_all [TokenKind.keyword?]

theorem isParen_of_isWord {t : Token} (h : t.isWord = true) : t.isParen = false := by
  unfold Token.isWord at h
  unfold Token.isParen
  cases kind : t.kind <;> simp_all [TokenKind.isWord]

theorem isParen_of_kind {t : Token} {k : TokenKind} (other : k ≠ .leftParen ∧ k ≠ .rightParen)
    (h : (t.kind == k) = true) : t.isParen = false := by
  simp [Token.isParen, eq_of_beq h, other.1, other.2]

instance (k : Keyword) : Level (eatKeyword k) := level_eat isParen_of_isKeyword

instance (ks : List Keyword) : Level (eatAnyKeyword ks) := level_eat isParen_of_isAnyKeyword

instance : Level (eatKind .comma) := level_eat (isParen_of_kind (by decide))

instance (op : Option Arithmetic) : Level (eatKind (.assignment op)) :=
  level_eat (isParen_of_kind (by simp))

instance : Level optionalAs := by unfold optionalAs; infer_instance

theorem levels_require {p : Token → Bool} {what : String} {l : Nat} (opens : b.Opens j c)
    (ready : c.Ready) (step : p c.current = true → b.Opens l c.advance) :
    Levels b l (require p what c) := by
  cases held : p c.current with
  | true =>
    have found : require p what c = .ok c.current c.advance := by
      simp [require, Cursor.expect, ready.fault, held]
    rw [found]
    exact ⟨step held, ready.advance⟩
  | false =>
    have refused : require p what c =
        fail (.expectedFound what c.current.describe) c := by
      simp [require, Cursor.expect, ready.fault, held, fail, Cursor.install]
    rw [refused]
    exact .fail opens ready

theorem level_require {p : Token → Bool} {what : String}
    (plain : ∀ {t}, p t = true → t.isParen = false) : Level (require p what) where
  level ready := levels_require (.refl _) ready fun accepted =>
    (Cursor.Opens.refl _).advance_plain ready (plain accepted)

instance (k : Keyword) : Level (keyword k) := level_require isParen_of_isKeyword

instance (what : String) : Level (word what) := level_require isParen_of_isWord

instance (what : String) : Level (identifier what) :=
  level_require fun accepted => isParen_of_isWord (Bool.and_eq_true _ _ ▸ accepted).1

instance : Level variableName := level_require fun {t} accepted => by
  unfold Token.isVariable Token.hasFlag at accepted
  unfold Token.isParen
  cases kind : t.kind <;> simp_all

/-- A `(` that has to follow opens a level. -/
theorem levels_leftParen {f : Token → Parser β} {l : Nat} (opens : b.Opens j c) (ready : c.Ready)
    (rest : ∀ t d, b.Opens (j + 1) d → d.Ready → Levels b l (f t d)) :
    Levels b l ((leftParen >>= f) c) := by
  refine Levels.bind (j := j + 1) (levels_require opens ready fun accepted => ?_) rest
  have isOpen := eq_of_beq accepted
  exact opens.advance ready (parenStep_leftParen isOpen j) (Token.isSource_of_kind_eq rfl isOpen)

/-- A `)` that has to follow closes a level. -/
theorem levels_rightParen {f : Token → Parser β} {l : Nat} (opens : b.Opens (j + 1) c)
    (ready : c.Ready) (rest : ∀ t d, b.Opens j d → d.Ready → Levels b l (f t d)) :
    Levels b l ((rightParen >>= f) c) := by
  refine Levels.bind (j := j) (levels_require opens ready fun accepted => ?_) rest
  have isClosing := eq_of_beq accepted
  exact opens.advance ready (parenStep_rightParen isClosing j)
    (Token.isSource_of_kind_eq rfl isClosing)

/-- A `(` that may follow opens a level. -/
theorem levels_eatLeftParen {f : Option Token → Parser β} {l : Nat} (opens : b.Opens j c)
    (ready : c.Ready) (some : ∀ t d, b.Opens (j + 1) d → d.Ready → Levels b l (f (some t) d))
    (none : Levels b l (f none c)) : Levels b l ((eatKind .leftParen >>= f) c) := by
  cases run : eatKind .leftParen c with
  | ok found d =>
    rw [bind_of_ok f run]
    rcases eat_ok run with ⟨rfl, accepted, rfl⟩ | ⟨rfl, rfl, _⟩
    · have isOpen := eq_of_beq accepted
      exact some _ _ (opens.advance ready (parenStep_leftParen isOpen j)
        (Token.isSource_of_kind_eq rfl isOpen)) ready.advance
    · exact none
  | error e d => cases run

/-! ### Failing -/

instance (f : Fault) : Level (fail f : Parser α) := ⟨fun ready => .fail (.refl _) ready⟩

instance (what : String) : Level (failExpected what : Parser α) := by
  unfold failExpected; infer_instance

instance : Level (failAtError : Parser α) where
  level {c} ready := by
    unfold failAtError
    rw [get_bind, ready.fault]
    exact .fail (.refl c) ready

/-! ### Making nodes -/

instance (made : Shaped α) [apart : Apart made] : Level (build made) where
  level {c} ready := by
    cases outcome : made with
    | ok a => exact ⟨.refl c, ready⟩
    | error e => exact fun isRaw => absurd isRaw (apart.node_ne outcome)

/-- Tokens are refused only for one that was met. -/
theorem stops_rawTokens {tokens : List Token} {e : ShapeError}
    (known : ∀ t ∈ tokens, t.isSource = true ∨ b.Meets t)
    (refused : Checked.rawTokens tokens = .error e) (d : Cursor) : b.Stops d (.shape e) := by
  unfold Checked.rawTokens at refused
  split at refused
  · next bad found =>
    have absent : bad.isSource = false := by
      have held := List.find?_some found
      rw [Bool.eq_false_iff]
      intro source
      simp [Token.isPlaceholder_of_isSource source, Token.not_isEof_of_isSource source,
        Token.isError_of_isSource source] at held
    have met := (known bad (List.mem_of_find?_eq_some found)).resolve_left (by simp [absent])
    exact fun _ => ⟨bad, met, absent⟩
  · cases refused

theorem levels_rawTokens {tokens : List Token} {f : RawTokens → Parser β} {d : Cursor}
    (known : ∀ t ∈ tokens, t.isSource = true ∨ b.Meets t)
    (rest : Levels b k (f ⟨tokens⟩ d)) :
    Levels b k ((build (Checked.rawTokens tokens) >>= f) d) := by
  cases made : Checked.rawTokens tokens with
  | ok kept =>
    obtain rfl := Makes.eq made
    exact rest
  | error e => exact stops_rawTokens known made d

/-! ### Control -/

theorem levels_withAssignment {p : Parser α} {assignment : Bool}
    (inside : Levels b k (p (c.setAssignment assignment))) :
    Levels b k (withAssignment assignment p c) := by
  unfold withAssignment
  cases run : p (c.setAssignment assignment) with
  | ok a d =>
    rw [run] at inside
    exact ⟨inside.1, inside.2.setAssignment _⟩
  | error e d =>
    rw [run] at inside
    cases e <;> exact inside

instance {p : Parser α} (assignment : Bool) [part : Level p] : Level (withAssignment assignment p) where
  level ready := levels_withAssignment (part.level (ready.setAssignment _))

instance {p : Parser α} (f : Fault) [part : Level p] : Level (context f p) where
  level {c} ready := by
    have levels := part.level ready
    unfold context
    cases run : p c with
    | ok a d =>
      rw [run] at levels
      exact levels
    | error e d =>
      rw [run] at levels
      cases e with
      | grammar x =>
        obtain ⟨fault, span, m, opens⟩ := levels
        refine ⟨rfl, ?_, m, opens.of_ahead rfl⟩
        rw [Cursor.diagnose, fault]
        exact span
      | _ => exact levels

instance {step : σ → Parser (Option σ)} [∀ s, Level (step s)] (limit : Nat) (s : σ) :
    Level (rounds step limit s) := by
  induction limit generalizing s with
  | zero => unfold rounds; infer_instance
  | succ limit ih =>
    unfold rounds
    refine .bind inferInstance fun next => ?_
    cases next <;> infer_instance

instance {step : σ → Parser (Option σ)} [∀ s, Level (step s)] (s : σ) : Level (loop step s) := by
  unfold loop; infer_instance

instance {item : Parser α} [Level item] (read : List α × List Token) :
    Level (commaItem item read) := by
  unfold commaItem
  refine .bind inferInstance fun comma => ?_
  cases comma <;> infer_instance

instance (first : α) {item : Parser α} [Level item] : Level (commaTail first item) := by
  unfold commaTail; infer_instance

instance {item : Parser α} [Level item] : Level (commaSeparated item) := by
  unfold commaSeparated; infer_instance

end Parser

end TransactSql
