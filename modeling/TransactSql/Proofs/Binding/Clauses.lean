import TransactSql.Proofs.Binding.Basic
import TransactSql.Proofs.Expr.Checked
import TransactSql.Proofs.Grammar.Frame
import TransactSql.Proofs.Parser.Yield

/-!
# Operands, clauses and queries are bound if the expressions in them are
-/

namespace TransactSql

/-- The input of the cursor ends. -/
def Cursor.Ends (c : Cursor) : Prop := c.eof.isEof = true

namespace Parser

/-- What holds of the value of every successful run. -/
class Ensures (p : Parser α) (Q : outParam (α → Prop)) : Prop where
  holds : ∀ {c d : Cursor} {a : α}, c.Ends → p c = .ok a d → Q a

end Parser

open TransactSql.Parser

namespace Cursor.Ends

variable {c d : Cursor} {p : Parser α} {k : α → Parser β} {Q : α → Prop} {a : α} {b : β}

theorem after [Framed p] (ends : c.Ends) (h : p c = .ok a d) : d.Ends := by
  obtain ⟨raw, moved⟩ := Framed.ok h
  rw [Ends, moved.eof]
  exact ends

/-- Passes over a part that holds no expressions. -/
theorem pass [Framed p] (ends : c.Ends) (h : (p >>= k) c = .ok b d) :
    ∃ a e, e.Ends ∧ k a e = .ok b d := by
  obtain ⟨a, e, run, h⟩ := bind_ok h
  exact ⟨a, e, ends.after run, h⟩

theorem bind [Framed p] [ensures : Ensures p Q] (ends : c.Ends) (h : (p >>= k) c = .ok b d) :
    ∃ a e, Q a ∧ e.Ends ∧ k a e = .ok b d := by
  obtain ⟨a, e, run, h⟩ := bind_ok h
  exact ⟨a, e, ensures.holds ends run, ends.after run, h⟩

end Cursor.Ends

namespace Parser

instance {p : Parser α} {Q : α → Prop} [ensures : Ensures p Q] (assignment : Bool) :
    Ensures (withAssignment assignment p) Q where
  holds {c _ _} ends h := by
    obtain ⟨e, _, run⟩ := withAssignment_ok h
    exact ensures.holds (c := c.setAssignment assignment) ends run

theorem ensures_loop {step : σ → Parser (Option σ)} [∀ s, Framed (step s)] (Inv : σ → Prop)
    (keep : ∀ {s c next d}, c.Ends → Inv s → step s c = .ok next d → Inv (next.getD s)) {s s' : σ}
    {c d : Cursor} (ends : c.Ends) (inv : Inv s) (h : loop step s c = .ok s' d) : Inv s' :=
  (loop_invariant (fun s c => c.Ends ∧ Inv s)
    (fun {_ _ _ _} both run => ⟨both.1.after run, keep both.1 both.2 run⟩) ⟨ends, inv⟩ h).2

/-- The items behind the first one are what `item` ensures. -/
theorem ensures_commaTail {item : Parser α} [Framed item] {Q : α → Prop} [Ensures item Q] {first : α}
    {c d : Cursor} {read : List α × List Token} (ends : c.Ends)
    (h : commaTail first item c = .ok read d) : ∃ rest, read.1 = first :: rest ∧ ∀ x ∈ rest, Q x := by
  refine ensures_loop (fun read : List α × List Token =>
    ∃ rest, read.1 = first :: rest ∧ ∀ x ∈ rest, Q x) ?_ ends ⟨[], rfl, by simp⟩ h
  rintro ⟨items, commas⟩ c next d ends ⟨rest, rfl, held⟩ h
  unfold commaItem at h
  obtain ⟨comma, e, ends, h⟩ := ends.pass h
  cases comma with
  | none =>
    cases h
    exact ⟨rest, rfl, held⟩
  | some comma =>
    obtain ⟨x, _, good, _, h⟩ := ends.bind h
    cases h
    refine ⟨rest ++ [x], rfl, fun y member => ?_⟩
    rcases List.mem_append.mp member with before | last
    · exact held y before
    · rw [List.mem_singleton.mp last]
      exact good

instance {item : Parser α} [Framed item] {Q : α → Prop} [Ensures item Q] :
    Ensures (commaSeparated item) fun read => ∃ first rest,
      read.1 = first :: rest ∧ Q first ∧ ∀ x ∈ rest, Q x where
  holds ends h := by
    unfold commaSeparated at h
    obtain ⟨first, _, good, ends, h⟩ := ends.bind h
    obtain ⟨rest, items, held⟩ := ensures_commaTail ends h
    exact ⟨first, rest, items, good, held⟩

end Parser

/-- Parsers of expressions, one for each power, whose results fit behind a node of the power. -/
class Grammar.Fitting (sub : Precedence → Parser Expr) : Prop where
  fits : ∀ {min : Precedence} {c d : Cursor} {e : Expr}, c.Ends → sub min c = .ok e d → e.Fits min

namespace Grammar

variable (sub : Precedence → Parser Expr) [fitting : Fitting sub] [∀ min, Framed (sub min)]

instance (min : Precedence) : Ensures (sub min) (Expr.Fits min) := ⟨Fitting.fits⟩

/-! ### Parentheses and data types -/

omit fitting [∀ min, Framed (sub min)] in
theorem rawParenBody_fits {c d : Cursor} {body : Option Expr × Token} (h : rawParenBody c = .ok body d) :
    ∀ e ∈ body.1, e.Fits .none := by
  unfold rawParenBody at h
  obtain ⟨_, _, _, h⟩ := bind_ok h
  obtain ⟨_, _, _, h⟩ := bind_ok h
  cases h
  rintro _ ⟨⟩
  exact Expr.Closed.fits ⟨rfl, rfl, by simp [Expr.children]⟩

instance : Ensures (parenBody sub) fun body => ∀ e ∈ body.1, e.Fits .none where
  holds {c _ body} ends h := by
    unfold parenBody at h
    obtain ⟨rparen, e, ends, h⟩ := ends.pass h
    cases rparen with
    | some rparen =>
      cases h
      simp
    | none =>
      obtain ⟨_, _, h⟩ := withAssignment_ok h
      obtain ⟨_, _, h⟩ := recording_ok h
      rw [attempt_bind] at h
      cases run : sub .none (e.setAssignment false).beginRecording with
      | ok inner f =>
        simp only [run, atKind_bind] at h
        split at h
        · cases h
          rintro _ ⟨⟩
          exact Fitting.fits (c := (e.setAssignment false).beginRecording) ends run
        · exact rawParenBody_fits h
      | error failure f =>
        cases failure with
        | grammar x =>
          simp only [run, rawCurrent_bind] at h
          split at h
          · exact absurd h throw_ok
          · exact rawParenBody_fits h
        | _ =>
          simp only [run] at h
          exact absurd h throw_ok

instance : Ensures (dataType sub) fun type => ∀ e ∈ type.exprs, e.Fits .none where
  holds ends h := by
    unfold dataType at h
    simp only [atKeyword_bind] at h
    split at h
    · obtain ⟨_, _, _, h⟩ := ends.pass h
      cases h
      simp [DataType.exprs]
    · obtain ⟨name, _, ends, h⟩ := ends.pass h
      obtain ⟨lparen, _, ends, h⟩ := ends.pass h
      cases lparen with
      | none =>
        cases h
        simp [simpleType, DataType.exprs]
      | some lparen =>
        obtain ⟨⟨args, rparen⟩, _, good, _, h⟩ := ends.bind h
        dsimp only at h
        split at h
        · exact absurd h fail_ok
        · obtain ⟨rfl, rfl⟩ := build_ok h
          simpa [DataType.exprs] using good

/-! ### Clauses -/

omit fitting [∀ min, Framed (sub min)] in
/-- A list of fitting items, or the item alone. -/
theorem listOrSingle_fits {read : List Expr × List Token} {e : Expr} {c d : Cursor}
    (good : ∃ first rest, read.1 = first :: rest ∧ first.Fits .comma ∧ ∀ x ∈ rest, x.Fits .comma)
    (h : build (listOrSingle read) c = .ok e d) : e.Fits .none := by
  obtain ⟨items, separators⟩ := read
  obtain ⟨first, rest, rfl, fits, others⟩ := good
  cases rest with
  | nil =>
    have single : build (.ok first) c = .ok e d := h
    obtain ⟨rfl, rfl⟩ := build_ok single
    exact fits.mono (Precedence.none_le _)
  | cons next rest =>
    have several : build (Checked.list (first :: next :: rest) separators) c = .ok e d := h
    obtain ⟨rfl, rfl⟩ := build_ok several
    exact Expr.fits_list (by decide) (fits.mono (Precedence.none_le _)) others

section

variable {body : Parser Expr} [Framed body] {Q : Expr → Prop} [Ensures body Q]

instance (k : Keyword) : Ensures (optionalClause k body) fun c => ∀ e ∈ Clause.exprs c, Q e where
  holds ends h := by
    unfold optionalClause at h
    obtain ⟨found, _, ends, h⟩ := ends.pass h
    cases found with
    | none =>
      cases h
      simp [Clause.exprs]
    | some t =>
      obtain ⟨e, _, good, _, h⟩ := ends.bind h
      cases build_bind_ok h
      simpa [Clause.exprs] using good

instance (k : Keyword) : Ensures (optionalByClause k body) fun c => ∀ e ∈ Clause.exprs c, Q e where
  holds ends h := by
    unfold optionalByClause at h
    simp only [atKeyword_bind] at h
    split at h
    · cases h
      simp [Clause.exprs]
    · obtain ⟨first, _, ends, h⟩ := ends.pass h
      obtain ⟨second, _, ends, h⟩ := ends.pass h
      obtain ⟨e, _, good, _, h⟩ := ends.bind h
      cases build_bind_ok h
      simpa [Clause.exprs] using good

instance (k : Keyword) : Ensures (optionalTail k body) fun t => ∀ e ∈ t.value?, Q e where
  holds ends h := by
    unfold optionalTail at h
    obtain ⟨keyword, _, ends, h⟩ := ends.pass h
    cases keyword with
    | none =>
      cases h
      simp [Tail.value?]
    | some keyword =>
      obtain ⟨e, _, good, _, h⟩ := ends.bind h
      cases h
      simpa [Tail.value?] using good

end

instance : Ensures (sortItem sub) (Expr.Fits .comma) where
  holds ends h := by
    unfold sortItem at h
    obtain ⟨e, _, good, ends, h⟩ := ends.bind h
    obtain ⟨direction, _, _, h⟩ := ends.pass h
    cases direction with
    | none =>
      cases h
      exact good
    | some direction =>
      obtain ⟨rfl, rfl⟩ := build_ok h
      exact Expr.Closed.fits ⟨rfl, rfl, by simpa [Expr.children] using good.sound⟩

instance : Ensures (sortItems sub) (Expr.Fits .none) where
  holds ends h := by
    unfold sortItems at h
    obtain ⟨read, _, good, _, h⟩ := ends.bind h
    exact listOrSingle_fits good h

instance : Ensures (topCount sub) fun count => count.2.1.Fits .none where
  holds ends h := by
    unfold topCount at h
    obtain ⟨lparen, _, ends, h⟩ := ends.pass h
    cases lparen with
    | none =>
      obtain ⟨count, _, good, _, h⟩ := ends.bind h
      cases h
      exact good.mono (Precedence.none_le _)
    | some lparen =>
      obtain ⟨count, _, good, ends, h⟩ := ends.bind h
      obtain ⟨rparen, _, _, h⟩ := ends.pass h
      cases h
      exact good

instance : Ensures (topClause sub) fun top => top.count.Fits .none where
  holds {c _ _} ends h := by
    unfold topClause at h
    obtain ⟨topToken, e, ends, h⟩ := ends.pass h
    obtain ⟨_, _, h⟩ := withAssignment_ok h
    have inside : (e.setAssignment false).Ends := ends
    obtain ⟨count, _, good, inside, h⟩ := inside.bind h
    obtain ⟨percent, _, inside, h⟩ := inside.pass h
    obtain ⟨withTies, _, _, h⟩ := inside.pass h
    obtain ⟨rfl, rfl⟩ := build_ok h
    exact good

instance : Ensures (optionalTop sub) fun top => ∀ t ∈ top, t.count.Fits .none where
  holds ends h := by
    unfold optionalTop at h
    simp only [atKeyword_bind] at h
    split at h
    · obtain ⟨top, _, good, _, h⟩ := ends.bind h
      cases h
      simpa using good
    · cases h
      simp

omit fitting [∀ min, Framed (sub min)] in
/-- An alias closes the expression it names. -/
theorem aliased_fits {e a : Expr} {accepts : Token → Bool} {c d : Cursor} {min : Precedence}
    (fits : e.Fits min) (h : aliased e accepts c = .ok a d) : a.Fits min := by
  have named : ∀ asToken name, (Expr.aliased e asToken name).Fits min := fun asToken name =>
    Expr.Closed.fits ⟨rfl, rfl, by simpa [Expr.children] using fits.sound⟩
  unfold aliased at h
  obtain ⟨asToken, _, _, h⟩ := bind_ok h
  cases asToken with
  | some asToken =>
    obtain ⟨name, _, _, h⟩ := bind_ok h
    obtain ⟨rfl, rfl⟩ := build_ok h
    exact named _ _
  | none =>
    simp only [current_bind] at h
    split at h
    · rw [take_bind] at h
      obtain ⟨rfl, rfl⟩ := build_ok h
      exact named _ _
    · cases h
      exact fits

instance : Ensures (selectItem sub) (Expr.Fits .comma) where
  holds ends h := by
    unfold selectItem at h
    obtain ⟨e, _, good, _, h⟩ := ends.bind h
    exact aliased_fits good h

instance : Ensures (selectColumns sub) (Expr.Fits .none) where
  holds ends h := by
    unfold selectColumns at h
    obtain ⟨⟨items, separators⟩, _, ⟨first, rest, rfl, fits, others⟩, _, h⟩ := ends.bind h
    obtain ⟨rfl, rfl⟩ := build_ok h
    exact Expr.fits_list (by decide) (fits.mono (Precedence.none_le _)) others

/-! ### Table sources -/

instance (operator : List Token) :
    Ensures (joinCondition sub operator) fun on => ∀ e ∈ on.value?, e.Fits .comma where
  holds ends h := by
    unfold joinCondition at h
    split at h
    · cases h
      simp [Tail.value?]
    · obtain ⟨keyword, _, ends, h⟩ := ends.pass h
      obtain ⟨e, _, good, _, h⟩ := ends.bind h
      cases h
      simpa [Tail.value?] using good

instance (source : Parser Expr) [Framed source] [Ensures source (Expr.Fits .comma)] :
    Ensures (joinChain sub source) (Expr.Fits .comma) where
  holds ends h := by
    unfold joinChain at h
    obtain ⟨first, _, good, ends, h⟩ := ends.bind h
    refine ensures_loop (Expr.Fits .comma) ?_ ends good h
    intro left c next d ends fits h
    unfold joinStep at h
    obtain ⟨operator, _, ends, h⟩ := ends.pass h
    cases operator with
    | none =>
      cases h
      exact fits
    | some operator =>
      obtain ⟨right, _, good, ends, h⟩ := ends.bind h
      obtain ⟨on, _, condition, _, h⟩ := ends.bind h
      cases build_bind_ok h
      refine Expr.Closed.fits ⟨rfl, rfl, ?_⟩
      simpa [Expr.children] using ⟨fits.sound, good.sound, fun e given => (condition e given).sound⟩

instance (sources : Parser Expr) [Framed sources] [Ensures sources (Expr.Fits .none)] :
    Ensures (tableOrJoin sub sources) (Expr.Fits .comma) where
  holds ends h := by
    unfold tableOrJoin at h
    simp only [lookahead_bind, atKind_bind] at h
    split at h
    · obtain ⟨lparen, _, ends, h⟩ := ends.pass h
      obtain ⟨inner, _, good, ends, h⟩ := ends.bind h
      obtain ⟨rparen, _, _, h⟩ := ends.pass h
      obtain ⟨rfl, rfl⟩ := build_ok h
      exact Expr.Closed.fits ⟨rfl, rfl, by simpa [Expr.children] using good.sound⟩
    · exact (Fitting.fits ends h).mono (by decide)

theorem hinted_fits {table e : Expr} {c d : Cursor} {min : Precedence} (ends : c.Ends)
    (fits : table.Fits min) (h : hinted sub table c = .ok e d) : e.Fits min := by
  unfold hinted at h
  simp only [atKeyword_bind, lookahead_bind] at h
  split at h
  · cases h
    exact fits
  · obtain ⟨keyword, _, ends, h⟩ := ends.pass h
    obtain ⟨lparen, _, ends, h⟩ := ends.pass h
    obtain ⟨⟨hints, rparen⟩, _, good, _, h⟩ := ends.bind h
    cases hints with
    | none => exact absurd h fail_ok
    | some hints =>
      obtain ⟨rfl, rfl⟩ := build_ok h
      refine Expr.Closed.fits ⟨rfl, rfl, ?_⟩
      simpa [Expr.children] using ⟨fits.sound, (good hints rfl).sound⟩

instance (sources : Parser Expr) [Framed sources] [Ensures sources (Expr.Fits .none)] :
    Ensures (tableSource sub sources) (Expr.Fits .comma) where
  holds ends h := by
    unfold tableSource at h
    obtain ⟨source, _, good, ends, h⟩ := ends.bind h
    obtain ⟨named, _, run, h⟩ := bind_ok h
    exact hinted_fits sub (ends.after run) (aliased_fits good run) h

theorem tableSources_ensures (limit : Nat) : Ensures (tableSources sub limit) (Expr.Fits .none) := by
  induction limit with
  | zero =>
    refine ⟨fun _ h => ?_⟩
    unfold tableSources at h
    exact absurd h fail_ok
  | succ limit ih =>
    refine ⟨fun ends h => ?_⟩
    unfold tableSources at h
    obtain ⟨read, _, good, _, h⟩ := ends.bind h
    exact listOrSingle_fits good h

instance : Ensures (fromSources sub) (Expr.Fits .none) where
  holds {c _ _} ends h := by
    unfold fromSources at h
    rw [get_bind] at h
    exact (tableSources_ensures sub (c.ahead.length + 1)).holds ends h

/-! ### Queries -/

instance : Ensures (selectClauses sub) fun clauses => ∀ e ∈ clauses.exprs, e.Everywhere Expr.Sound where
  holds ends h := by
    unfold selectClauses at h
    obtain ⟨into, _, target, ends, h⟩ := ends.bind h
    obtain ⟨source, _, tables, ends, h⟩ := ends.bind h
    obtain ⟨condition, _, filter, ends, h⟩ := ends.bind h
    obtain ⟨grouping, _, groups, ends, h⟩ := ends.bind h
    obtain ⟨having', _, having'', _, h⟩ := ends.bind h
    cases h
    intro e member
    simp only [SelectClauses.exprs, List.mem_append] at member
    rcases member with (((in₁ | in₂) | in₃) | in₄) | in₅
    · exact (target e in₁).sound
    · exact (tables e in₂).sound
    · exact (filter e in₃).sound
    · exact (groups e in₄).sound
    · exact (having'' e in₅).sound

theorem select_closed {c d : Cursor} {e : Expr} (ends : c.Ends)
    (h : select sub c = .ok e d) : e.Closed := by
  unfold select at h
  obtain ⟨keyword, _, ends, h⟩ := ends.pass h
  obtain ⟨quantifier, _, ends, h⟩ := ends.pass h
  obtain ⟨top, _, count, ends, h⟩ := ends.bind h
  obtain ⟨columns, _, items, ends, h⟩ := ends.bind h
  obtain ⟨clauses, _, parts, _, h⟩ := ends.bind h
  obtain ⟨rfl, rfl⟩ := build_ok h
  refine ⟨rfl, rfl, fun x member => ?_⟩
  simp only [Expr.children, List.mem_append, List.mem_cons] at member
  rcases member with inTop | rfl | inClauses
  · obtain ⟨t, given, rfl⟩ : ∃ t ∈ top, t.count = x := by simpa using inTop
    exact (count t given).sound
  · exact items.sound
  · exact parts x inClauses

section

variable {c d : Cursor} {query e : Expr} (ends : c.Ends)
  (sound : query.Everywhere Expr.Sound)

include ends sound

theorem setOperation_closed (h : setOperation sub query c = .ok e d) : e.Closed := by
  unfold setOperation at h
  obtain ⟨operator, _, ends, h⟩ := ends.pass h
  obtain ⟨all, _, ends, h⟩ := ends.pass h
  obtain ⟨right, _, good, _, h⟩ := ends.bind h
  dsimp only at h
  split at h
  · exact absurd h fail_ok
  · obtain ⟨rfl, rfl⟩ := build_ok h
    exact ⟨rfl, rfl, by simpa [Expr.children] using ⟨sound, good.sound⟩⟩

omit fitting [∀ min, Framed (sub min)] ends in
theorem forOption_closed (h : forOption query c = .ok e d) : e.Closed := by
  unfold forOption at h
  obtain ⟨_, _, _, h⟩ := bind_ok h
  obtain ⟨_, _, _, h⟩ := bind_ok h
  obtain ⟨_, _, _, h⟩ := bind_ok h
  obtain ⟨rfl, rfl⟩ := build_ok h
  exact ⟨rfl, rfl, by simpa [Expr.children] using sound⟩

omit fitting [∀ min, Framed (sub min)] ends in
theorem hintOption_closed (h : hintOption query c = .ok e d) : e.Closed := by
  unfold hintOption at h
  obtain ⟨_, _, _, h⟩ := bind_ok h
  obtain ⟨_, _, _, h⟩ := bind_ok h
  obtain ⟨_, _, _, h⟩ := bind_ok h
  obtain ⟨_, _, _, h⟩ := bind_ok h
  obtain ⟨rfl, rfl⟩ := build_ok h
  exact ⟨rfl, rfl, by simpa [Expr.children] using sound⟩

end

instance : Ensures (fetchClause sub) fun fetch => ∀ f ∈ fetch, f.count.Fits .comma where
  holds ends h := by
    unfold fetchClause at h
    obtain ⟨fetchToken, _, ends, h⟩ := ends.pass h
    cases fetchToken with
    | none =>
      cases h
      simp
    | some fetchToken =>
      obtain ⟨direction, _, ends, h⟩ := ends.pass h
      obtain ⟨count, _, good, ends, h⟩ := ends.bind h
      obtain ⟨rows, _, ends, h⟩ := ends.pass h
      obtain ⟨only, _, _, h⟩ := ends.pass h
      cases build_bind_ok h
      simpa using good

instance : Ensures (offsetFetch sub) fun offset => ∀ e ∈ offset.exprs, e.Fits .comma where
  holds ends h := by
    unfold offsetFetch at h
    obtain ⟨offsetToken, _, ends, h⟩ := ends.pass h
    obtain ⟨count, _, good, ends, h⟩ := ends.bind h
    obtain ⟨rows, _, ends, h⟩ := ends.pass h
    obtain ⟨fetch, _, more, _, h⟩ := ends.bind h
    obtain ⟨rfl, rfl⟩ := build_ok h
    simpa [OffsetFetch.exprs] using ⟨good, more⟩

instance : Ensures (optionalOffset sub) fun offset => ∀ o ∈ offset, ∀ e ∈ o.exprs, e.Fits .comma where
  holds ends h := by
    unfold optionalOffset at h
    simp only [atKeyword_bind] at h
    split at h
    · obtain ⟨o, _, good, _, h⟩ := ends.bind h
      cases h
      simpa using good
    · cases h
      simp

theorem orderBy_closed {c d : Cursor} {query e : Expr} (ends : c.Ends)
    (sound : query.Everywhere Expr.Sound) (h : orderBy sub query c = .ok e d) : e.Closed := by
  unfold orderBy at h
  obtain ⟨_, _, h⟩ := withAssignment_ok h
  have inside : (c.setAssignment false).Ends := ends
  obtain ⟨first, _, inside, h⟩ := inside.pass h
  obtain ⟨second, _, inside, h⟩ := inside.pass h
  obtain ⟨items, _, good, inside, h⟩ := inside.bind h
  have h := build_bind_ok h
  obtain ⟨offset, _, counts, _, h⟩ := inside.bind h
  obtain ⟨rfl, rfl⟩ := build_ok h
  refine ⟨rfl, rfl, fun x member => ?_⟩
  simp only [Expr.children, List.mem_cons] at member
  rcases member with rfl | rfl | inOffset
  · exact sound
  · exact good.sound
  · cases offset with
    | none => cases inOffset
    | some o => exact (counts o rfl x inOffset).sound

/-! ### Case, casts and windows -/

instance : Ensures (whenClause sub) fun w => ∀ e ∈ [w.condition, w.result], e.Fits .comma where
  holds ends h := by
    unfold whenClause at h
    obtain ⟨whenToken, _, ends, h⟩ := ends.pass h
    obtain ⟨condition, _, good, ends, h⟩ := ends.bind h
    obtain ⟨thenToken, _, ends, h⟩ := ends.pass h
    obtain ⟨result, _, good', _, h⟩ := ends.bind h
    obtain ⟨rfl, rfl⟩ := build_ok h
    simpa using ⟨good, good'⟩

instance : Ensures (caseOperand sub) fun operand => ∀ e ∈ operand, e.Fits .comma where
  holds ends h := by
    unfold caseOperand at h
    simp only [atKeyword_bind] at h
    split at h
    · cases h
      simp
    · obtain ⟨e, _, good, _, h⟩ := ends.bind h
      cases h
      simpa using good

/-- The expressions of the branches of a `CASE` fit behind a comma. -/
def FittingWhens (whens : List WhenClause) : Prop :=
  ∀ w ∈ whens, ∀ e ∈ [w.condition, w.result], e.Fits .comma

theorem moreWhens_fits {whens : List WhenClause} {next : Option (List WhenClause)} {c d : Cursor}
    (ends : c.Ends) (good : FittingWhens whens) (h : moreWhens sub whens c = .ok next d) :
    FittingWhens (next.getD whens) := by
  unfold moreWhens at h
  simp only [atKeyword_bind] at h
  split at h
  · obtain ⟨w, _, last, _, h⟩ := ends.bind h
    cases h
    intro x member
    rcases List.mem_append.mp member with before | final
    · exact good x before
    · rw [List.mem_singleton.mp final]
      exact last
  · cases h
    exact good

theorem caseExpr_closed {c d : Cursor} {e : Expr} (ends : c.Ends)
    (h : caseExpr sub c = .ok e d) : e.Closed := by
  unfold caseExpr at h
  obtain ⟨keyword, f, ends, h⟩ := ends.pass h
  obtain ⟨_, _, h⟩ := withAssignment_ok h
  have inside : (f.setAssignment false).Ends := ends
  obtain ⟨operand, _, given, inside, h⟩ := inside.bind h
  obtain ⟨first, _, branch, inside, h⟩ := inside.bind h
  obtain ⟨whens, _, run, h⟩ := bind_ok h
  have start : FittingWhens [first] := by simpa [FittingWhens] using branch
  have branches := ensures_loop FittingWhens (moreWhens_fits sub) inside start run
  obtain ⟨otherwise, _, default', inside, h⟩ := (inside.after run).bind h
  obtain ⟨endToken, _, _, h⟩ := inside.pass h
  obtain ⟨rfl, rfl⟩ := build_ok h
  refine ⟨rfl, rfl, fun x member => ?_⟩
  simp only [Expr.children, List.mem_append, List.mem_flatMap, Option.mem_toList] at member
  rcases member with (inOperand | ⟨w, inWhens, inBranch⟩) | inElse
  · exact (given x inOperand).sound
  · exact (branches w inWhens x inBranch).sound
  · exact (default' x inElse).sound

theorem paren_closed {c d : Cursor} {e : Expr} (ends : c.Ends)
    (h : paren sub c = .ok e d) : e.Closed := by
  unfold paren at h
  obtain ⟨lparen, _, ends, h⟩ := ends.pass h
  obtain ⟨⟨inner, rparen⟩, _, good, _, h⟩ := ends.bind h
  cases inner with
  | none => exact absurd h fail_ok
  | some inner =>
    obtain ⟨rfl, rfl⟩ := build_ok h
    exact ⟨rfl, rfl, by simpa [Expr.children] using (good inner rfl).sound⟩

theorem cast_closed {c d : Cursor} {e : Expr} {keyword : Token} (ends : c.Ends)
    (h : cast sub keyword c = .ok e d) : e.Closed := by
  unfold cast at h
  obtain ⟨lparen, f, ends, h⟩ := ends.pass h
  obtain ⟨_, _, h⟩ := withAssignment_ok h
  have inside : (f.setAssignment false).Ends := ends
  obtain ⟨operand, _, good, inside, h⟩ := inside.bind h
  obtain ⟨asToken, _, inside, h⟩ := inside.pass h
  obtain ⟨type, _, arguments, inside, h⟩ := inside.bind h
  obtain ⟨rparen, _, _, h⟩ := inside.pass h
  obtain ⟨rfl, rfl⟩ := build_ok h
  refine ⟨rfl, rfl, fun x member => ?_⟩
  simp only [Expr.children, List.mem_cons] at member
  rcases member with rfl | inType
  · exact good.sound
  · exact (arguments x inType).sound

instance : Ensures (overClause sub) fun window =>
    ∀ e ∈ Clause.exprs window.partition ++ Clause.exprs window.order, e.Everywhere Expr.Sound where
  holds ends h := by
    unfold overClause at h
    obtain ⟨overToken, _, ends, h⟩ := ends.pass h
    obtain ⟨lparen, f, ends, h⟩ := ends.pass h
    obtain ⟨_, _, h⟩ := withAssignment_ok h
    have inside : (f.setAssignment false).Ends := ends
    obtain ⟨partition, _, good, inside, h⟩ := inside.bind h
    obtain ⟨order, _, good', inside, h⟩ := inside.bind h
    obtain ⟨⟨frame, rparen⟩, _, _, h⟩ := inside.pass h
    obtain ⟨rfl, rfl⟩ := build_ok h
    intro e member
    rcases List.mem_append.mp member with inPartition | inOrder
    · exact (good e inPartition).sound
    · exact (good' e inOrder).sound

end Grammar

end TransactSql
