import TransactSql.Proofs.Grammar.Frame
import TransactSql.Proofs.Parens.Levels

/-!
# Parentheses around raw tokens

What follows a `(` is read to the `)` that matches it, whether as an expression or as tokens. An
attempt to read an expression leaves open just the parentheses that it recorded, so the count of
those tells where the matching `)` is.
-/

namespace TransactSql.Grammar

open TransactSql.Parser

/-! ### Names -/

theorem level_takeWhile {p : Token → Bool} (plain : ∀ {t}, p t = true → t.isParen = false) :
    Level (takeRun fun ts => (ts.takeWhile p).length) where
  level {c} ready := by
    rw [takeRun_of_ready ready.fault]
    obtain ⟨moved, _, fault⟩ :=
      moved_skip_of_fault ready.fault (c.ahead.takeWhile p).length
    have run : c.ahead.take (c.ahead.takeWhile p).length = c.ahead.takeWhile p :=
      (List.prefix_iff_eq_take.mp (List.takeWhile_prefix p)).symm
    refine ⟨⟨_, moved.ahead, ?_⟩, fault, moved.eof ▸ ready.eof⟩
    rw [run]
    exact parenDepth?_of_plain (fun t member => plain (List.mem_takeWhile_imp member)) 0

instance : Level (takeRun fun ts => (ts.takeWhile (·.kind == .dot)).length) :=
  level_takeWhile (isParen_of_kind (by decide))

instance (parts : List Token) : Level (namePart parts) where
  level {c} ready := by
    unfold namePart
    rw [atKind_bind]
    split
    · exact .pure (.refl c) ready
    · refine .next (.refl c) ready fun dots d opens ready => ?_
      rw [atKind_bind]
      split
      · next star =>
        exact .take opens ready (isParen_of_kind (by decide) star) fun opens ready =>
          .pure opens ready
      · exact .last opens ready

instance : Level name := by unfold name; infer_instance

instance : Level assignSign := by unfold assignSign; infer_instance

/-! ### Reading on to a `)` -/

theorem meets_of_mem {b : Cursor} {inner rest : List Token} {t : Token}
    (ahead : b.ahead = inner ++ rest) (upright : Upright inner) (member : t ∈ inner) :
    b.Meets t := by
  obtain ⟨before, after, rfl⟩ := List.append_of_mem member
  refine ⟨before, after ++ rest, by simp [ahead], upright.of_prefix ?_⟩
  exact List.prefix_append before (t :: after)

/-- Whatever was read since the recording began, the tokens up to the matching `)` are balanced. If
there is none all tokens are read. -/
theorem readToCloseParen_cases {b c : Cursor} {raw : List Token} {m : Nat}
    (moved : b.beginRecording.Moved raw c) (eof : b.eof.isEof = true)
    (depth : parenDepth? 0 raw = some m) :
    (∃ inner rparen d, readToCloseParen c = .ok (inner, rparen) d ∧ d.Ready ∧
      rparen.kind = .rightParen ∧ b.ahead = inner ++ rparen :: d.ahead ∧
      parenDepth? 0 inner = some 0) ∨
    (∃ x d, readToCloseParen c = .error (.grammar x) d ∧ b.Stops d (.grammar x) ∧
      isCutShort d.rawCurrent = true) := by
  have cleared := moved.trans c.moved_clear
  have recorded : c.clear.recorded = raw := by
    rw [recorded_of_moved cleared, List.append_nil]
  have ahead : b.ahead = raw ++ c.ahead := moved.ahead
  cases distance : closingDistance? m c.clear.ahead with
  | none =>
    obtain ⟨skipped, rest, fault⟩ := moved_skip_of_fault (c := c.clear) rfl c.clear.ahead.length
    have toEnd := cleared.trans skipped
    have ready : (c.clear.skip c.clear.ahead.length).Ready := ⟨fault, toEnd.eof ▸ eof⟩
    have run : readToCloseParen c =
        fail (.missing "')'") (c.clear.skip c.clear.ahead.length) := by
      unfold readToCloseParen
      simp only [modify_bind, get_bind, recorded, openParens_eq depth, distance]
    obtain ⟨k, upright⟩ := exists_depth_of_closingDistance? distance
    have opens : b.Opens k (c.clear.skip c.clear.ahead.length) := by
      refine ⟨raw ++ c.ahead, by rw [rest, List.drop_length, List.append_nil, ahead], ?_⟩
      rw [parenDepth?_append_of depth]
      exact upright
    have fails : Levels b k ((fail (.missing "')'") : Parser (List Token × Token))
        (c.clear.skip c.clear.ahead.length)) := .fail opens ready
    refine .inr ⟨_, _, run, fails, ?_⟩
    simp [isCutShort, Cursor.install, Cursor.rawCurrent, rest, ready.eof]
  | some n =>
    obtain ⟨t, rest, closing, isClosing⟩ := closingDistance?_spec distance
    obtain ⟨skipped, behind, fault⟩ := moved_skip_of_fault (c := c.clear) rfl n
    have toEnd := cleared.trans skipped
    have ready : (c.clear.skip n).Ready := ⟨fault, toEnd.eof ▸ eof⟩
    rw [closing] at behind
    have current : (c.clear.skip n).current = t := by
      rw [Cursor.current_eq ready, Cursor.rawCurrent, behind]
      exact Cursor.normalize_eq _ (by simp [isClosing])
    have inner : (c.clear.skip n).recorded = raw ++ c.ahead.take n := by
      rw [recorded_of_moved toEnd, List.append_nil]
      rfl
    have run : readToCloseParen c =
        .ok (raw ++ c.ahead.take n, t) (c.clear.skip n).advance := by
      unfold readToCloseParen
      simp only [modify_bind, get_bind, recorded, openParens_eq depth, distance, take_bind, inner,
        current]
      rfl
    refine .inl ⟨_, t, _, run, ready.advance, isClosing, ?_, ?_⟩
    · rw [Cursor.advance_eq ready behind, ahead, List.append_assoc, ← closing]
      exact congrArg (raw ++ ·) (List.take_append_drop n c.ahead).symm
    · rw [parenDepth?_append_of depth]
      exact closingDistance?_depth distance

theorem closed_recording {p : Parser (α × Token)} {b c : Cursor}
    (inside : Closed b (p c.beginRecording)) : Closed b (recording p c) := by
  unfold recording
  cases run : p c.beginRecording with
  | ok a d =>
    rw [run] at inside
    exact ⟨⟨inside.1.fault, inside.1.eof⟩, inside.2⟩
  | error e d =>
    rw [run] at inside
    cases e <;> exact inside

theorem closed_withAssignment {p : Parser (α × Token)} {b c : Cursor} {assignment : Bool}
    (inside : Closed b (p (c.setAssignment assignment))) :
    Closed b (withAssignment assignment p c) := by
  unfold withAssignment
  cases run : p (c.setAssignment assignment) with
  | ok a d =>
    rw [run] at inside
    exact ⟨inside.1.setAssignment _, inside.2⟩
  | error e d =>
    rw [run] at inside
    cases e <;> exact inside

instance : ClosesParen (recording readToCloseParen) where
  closed {c} ready := by
    refine closed_recording ?_
    rcases readToCloseParen_cases (Cursor.Moved.refl _) ready.eof (parenDepth?_nil 0) with
      ⟨inner, rparen, d, run, ready, isClosing, ahead, depth⟩ | ⟨x, d, run, stops, cut⟩
    · rw [run]
      exact ⟨ready, isClosing, inner, ahead, depth⟩
    · rw [run]
      exact ⟨stops, fun _ _ => cut⟩

/-- The tokens that are read up to a `)` have been met. -/
theorem levels_readToCloseParen {f : List Token × Token → Parser β} {b c : Cursor} {j k : Nat}
    (opens : b.Opens (j + 1) c) (ready : c.Ready)
    (rest : ∀ {tokens rparen d}, (∀ t ∈ tokens, b.Meets t) → rparen.kind = .rightParen →
      b.Opens j d → d.Ready → Levels b k (f (tokens, rparen) d)) :
    Levels b k ((recording readToCloseParen >>= f) c) := by
  have closed := ClosesParen.closed (p := recording readToCloseParen) ready
  cases run : recording readToCloseParen c with
  | error e d =>
    rw [run] at closed
    rw [bind_of_error _ run]
    exact opens.stops closed.1
  | ok read d =>
    rw [run] at closed
    obtain ⟨tokens, rparen⟩ := read
    have levels := Levels.of_closed opens closed
    rw [bind_of_ok _ run]
    refine rest (fun t member => ?_) closed.2.1 levels.1 levels.2
    obtain ⟨e, rfl, inside⟩ := recording_ok run
    rcases readToCloseParen_cases (Cursor.Moved.refl _) ready.eof (parenDepth?_nil 0) with
      ⟨_, _, _, run, _, _, ahead, depth⟩ | ⟨x, d, run, _⟩
    · rw [run] at inside
      cases inside
      exact opens.meets (meets_of_mem ahead ⟨0, depth⟩ member)
    · rw [run] at inside
      cases inside

theorem rawParenBody_closed {b c : Cursor} {raw : List Token} {m : Nat}
    (moved : b.beginRecording.Moved raw c) (eof : b.eof.isEof = true)
    (depth : parenDepth? 0 raw = some m) : Closed b (rawParenBody c) := by
  unfold rawParenBody
  rcases readToCloseParen_cases moved eof depth with
    ⟨inner, rparen, d, run, ready, isClosing, ahead, level⟩ | ⟨x, d, run, stops, cut⟩
  · rw [bind_of_ok _ run]
    dsimp only
    have known : ∀ t ∈ inner, t.isSource = true ∨ b.Meets t := fun t member =>
      .inr (meets_of_mem ahead ⟨0, level⟩ member)
    cases made : Checked.rawTokens inner with
    | ok tokens => exact ⟨ready, isClosing, inner, ahead, level⟩
    | error e => exact ⟨stops_rawTokens known made d, nofun⟩
  · rw [bind_of_error _ run]
    exact ⟨stops, fun _ _ => cut⟩

/-! ### Expressions in parentheses -/

/-- A run that leaves parentheses open has come to where nothing follows. -/
def Trails (c : Cursor) : EStateM.Result Failure Cursor α → Prop
  | .ok _ d => d.Ready ∧ ∃ k, c.Opens k d ∧ (k ≠ 0 → Blocked d.ahead)
  | .error f d => c.Stops d f

/-- The options of a query, which only an expression without a bound on its operators takes, may
leave parentheses open. All other expressions keep the level. -/
class Subexpressions (sub : Precedence → Parser Expr) : Prop where
  framed : ∀ min, Framed (sub min)
  level : ∀ {min}, .none < min → Level (sub min)
  trails : ∀ {c : Cursor}, c.Ready → Trails c (sub .none c)

section

variable (sub : Precedence → Parser Expr) [subs : Subexpressions sub]

instance (min : Precedence) : Framed (sub min) := subs.framed min

instance : Level (sub .comma) := subs.level (by decide)

instance : Level (sub .setOperator) := subs.level (by decide)

instance : Level (sub .assignment) := subs.level (by decide)

instance : Level (sub .not) := subs.level (by decide)

instance : Level (sub .pattern) := subs.level (by decide)

instance : Level (sub .unary) := subs.level (by decide)

theorem not_closing_of_blocked {c : Cursor} (ready : c.Ready) (blocked : Blocked c.ahead) :
    c.current.kind ≠ .rightParen := by
  intro isClosing
  have source := Token.isSource_of_kind_eq rfl isClosing
  obtain ⟨t, rest, ahead, current⟩ := Cursor.exists_cons_of_isSource ready source
  have error : t.isError = true := blocked t (by simp [ahead])
  rw [current, Cursor.isSource_normalize] at source
  rw [Token.isError_of_isSource source] at error
  cases error

/-- A `)` at the cursor closes what is open. -/
theorem closed_take {b c : Cursor} {a : α} (opens : b.Opens 0 c) (ready : c.Ready)
    (isClosing : c.current.kind = .rightParen) :
    Closed b ((do return (a, ← Parser.take) : Parser (α × Token)) c) := by
  obtain ⟨t, rest, ahead, current⟩ :=
    Cursor.exists_cons_of_isSource ready (Token.isSource_of_kind_eq rfl isClosing)
  obtain ⟨raw, ahead', depth⟩ := opens
  have same : c.current = t := by
    have plain : t.kind ≠ .comparison .eq := by
      intro isEq
      rw [current, Cursor.normalize] at isClosing
      split at isClosing <;> simp [Token.asAssignment, isEq] at isClosing
    rw [current, c.normalize_eq plain]
  refine ⟨ready.advance, isClosing, raw, ?_, depth⟩
  rw [same, Cursor.advance_eq ready ahead, ahead', ahead]

instance parenBody_closes : ClosesParen (parenBody sub) where
  closed {c} ready := by
    unfold parenBody
    cases run : eatKind .rightParen c with
    | error e d => cases run
    | ok found d =>
      rw [bind_of_ok _ run]
      rcases eat_ok run with ⟨rfl, accepted, rfl⟩ | ⟨rfl, rfl, _⟩
      · exact closed_take (a := none) (.refl c) ready (eq_of_beq accepted)
      · refine closed_withAssignment (closed_recording ?_)
        have start : (d.setAssignment false).beginRecording.Ready :=
          (ready.setAssignment false).beginRecording
        have trails := subs.trails start
        rw [attempt_bind]
        -- What was read is what was recorded, in either case.
        have framed := subs.framed .none
        cases run : sub .none (d.setAssignment false).beginRecording with
        | ok inner e =>
          rw [run] at trails
          obtain ⟨ready', k, opens, blocked⟩ := trails
          dsimp only
          rw [atKind_bind]
          split
          · next closes =>
            have isClosing : e.current.kind = .rightParen := eq_of_beq closes
            have whole : k = 0 := by
              by_contra more
              exact not_closing_of_blocked ready' (blocked more) isClosing
            subst whole
            exact closed_take opens ready' isClosing
          · obtain ⟨raw, moved⟩ := framed.ok run
            obtain ⟨raw', ahead, depth⟩ := opens
            rw [moved.ahead] at ahead
            rw [← List.append_cancel_right ahead] at depth
            exact rawParenBody_closed (b := d.setAssignment false) moved ready.eof depth
        | error f e =>
          rw [run] at trails
          cases f with
          | grammar x =>
            dsimp only
            rw [rawCurrent_bind]
            split
            · next cut => exact ⟨trails, fun _ _ => cut⟩
            · obtain ⟨_, _, k, raw', ahead, depth⟩ := trails
              obtain ⟨raw, moved⟩ := framed.error run
              rw [moved.ahead] at ahead
              rw [← List.append_cancel_right ahead] at depth
              exact rawParenBody_closed (b := d.setAssignment false) moved ready.eof depth
          | _ => exact ⟨trails, nofun⟩

end

/-! ### Data types -/

instance : Level tableType where
  level {c} ready := by
    unfold tableType
    refine .next (.refl c) ready fun tableToken d opens ready => ?_
    refine levels_leftParen opens ready fun lparen d opens ready => ?_
    refine levels_readToCloseParen opens ready fun met isClosing opens ready => ?_
    dsimp only
    split
    · exact .fail_bind opens ready
    · exact levels_rawTokens (fun t member => .inr (met t member)) (.last opens ready)

instance (sub : Precedence → Parser Expr) [Subexpressions sub] : Level (dataType sub) where
  level {c} ready := by
    unfold dataType
    rw [atKeyword_bind]
    split
    · exact .last (.refl c) ready
    · refine .next (.refl c) ready fun name d opens ready => ?_
      refine levels_eatLeftParen opens ready (fun lparen e opens ready => ?_) (.pure opens ready)
      refine .close opens ready fun body f opens ready => ?_
      dsimp only
      split
      · exact .fail_bind opens ready
      · exact .last opens ready

end TransactSql.Grammar
