import TransactSql.Proofs.Grammar.Progress
import TransactSql.Proofs.Nodes.Construction
import TransactSql.Proofs.Parens.Expressions
import TransactSql.Proofs.Parser.Repetition

/-!
# Parentheses and data types are proper

What stands in parentheses is balanced because the run that read it closes what it opens, and the
tokens it read are those of the slots. All of it is read where `=` is a comparison.
-/

namespace TransactSql

open TransactSql.Parser TransactSql.Tree

/-! ### Balanced runs -/

/-- The tokens that a run at one level reads are balanced. -/
theorem Cursor.Opens.balanced {c d : Cursor} {slots : List Tree} (opens : c.Opens 0 d)
    (reads : c.Reads slots d) : Balanced (tokensOf slots) := by
  obtain ⟨raw, ahead, depth⟩ := opens
  obtain ⟨raw', moved, read⟩ := reads.moved
  rw [moved.ahead] at ahead
  obtain rfl := List.append_cancel_right ahead
  rw [balanced_iff, parenDepth?_of_readAs read]
  exact depth

theorem forall₂_concat_iff {R : α → β → Prop} {as : List α} {bs : List β} {a : α} {b : β} :
    List.Forall₂ R (as ++ [a]) (bs ++ [b]) ↔ List.Forall₂ R as bs ∧ R a b := by
  rw [← List.forall₂_reverse_iff]
  simp [and_comm]

/-- The tokens that are read up to a `)` are balanced. -/
theorem Closed.balanced {c d : Cursor} {a : α} {rparen : Token} {slots : List Tree}
    (closed : Closed c (.ok (a, rparen) d)) (reads : c.Reads (slots ++ [.token rparen]) d) :
    Balanced (tokensOf slots) := by
  obtain ⟨_, isClosing, inner, ahead, depth⟩ := closed
  obtain ⟨raw, moved, tokens⟩ := reads.moved
  have all : raw = inner ++ [rparen] := by
    have same : raw ++ d.ahead = (inner ++ [rparen]) ++ d.ahead := by
      rw [← moved.ahead, ahead]
      simp
    exact List.append_cancel_right same
  have last : tokensOf (slots ++ [.token rparen]) = tokensOf slots ++ [rparen] := by
    simp [tokens_token (Token.isSource_of_kind_eq rfl isClosing)]
  rw [all, last, forall₂_concat_iff] at tokens
  rw [balanced_iff, parenDepth?_of_readAs tokens.1]
  exact depth

theorem Closed.enclosed {c d : Cursor} {a : α} {lparen rparen : Token} {slots : List Tree}
    (isOpen : lparen.kind = .leftParen) (closed : Closed c (.ok (a, rparen) d))
    (reads : c.Reads (slots ++ [.token rparen]) d) : Paired lparen slots rparen :=
  .inl ⟨isOpen, closed.2.1, closed.balanced reads⟩

theorem Closed.of_opens {b c d : Cursor} {read : α × Token} (closed : Closed c (.ok read d))
    (opens : b.Opens 0 c) : Closed b (.ok read d) := by
  obtain ⟨ready, isClosing, inner, ahead, depth⟩ := closed
  obtain ⟨raw, before, level⟩ := opens
  refine ⟨ready, isClosing, raw ++ inner, by simp [before, ahead], ?_⟩
  rw [parenDepth?_append_of level]
  exact depth

theorem Parser.ClosesParen.ok {p : Parser (α × Token)} [closes : ClosesParen p] {c d : Cursor}
    {read : α × Token} (ready : c.Ready) (run : p c = .ok read d) : Closed c (.ok read d) :=
  run ▸ closes.closed ready

/-- What is made passed the checks. -/
theorem Parser.isOk_of_build {made : Shaped α} {c d : Cursor} {a : α} (h : build made c = .ok a d) :
    made.isOk = true := by
  cases made with
  | ok => rfl
  | error => cases h

theorem Cursor.Lexed.sound_current {b : Bool} {c : Cursor} (lexed : c.Lexed) (context : c.assignment = b) :
    Sound b c.current := by
  subst context
  exact Token.sound_iff.mpr lexed.isForeign_current

/-- What is read at one level between two parentheses is enclosed by them. -/
theorem Parser.sound_enclosed {b : Bool} [Parts α] {p : Parser α} [Framed p] [Trusted b p] [Level p]
    {f : α → List Tree} [Yields p f] {c d e : Cursor} {a : α} {rparen : Token} (lexed : c.Lexed)
    (context : c.assignment = b) (isOpen : c.current.kind = .leftParen)
    (run : p c.advance = .ok a d) (close : rightParen d = .ok rparen e) :
    Sound b c.current ∧ Sound b a ∧ Sound b rparen ∧ Paired c.current (f a) rparen := by
  obtain ⟨raw, moved⟩ := c.moved_advance
  have lexed₁ := lexed.moved moved
  have context₁ := moved.assignment.trans context
  have ready := Cursor.ready_of_isSource lexed.eof (Token.isSource_of_kind_eq rfl isOpen)
  have closing : Sound b rparen :=
    Trusted.sound (Framed.lexed lexed₁ run) (Framed.assignment context₁ run) close
  have level := (Level.ok ready.advance run).1
  have reads := (Cursor.Reads.start ready.advance).next run
  obtain ⟨rfl, isClosing, _⟩ := require_ok close
  exact ⟨lexed.sound_current context, Trusted.sound lexed₁ context₁ run, closing,
    .inl ⟨isOpen, eq_of_beq isClosing, level.balanced reads⟩⟩

namespace Grammar

variable {b : Bool}

instance : Trusted b name where
  sound {c d n} lexed context run := by
    unfold name at run
    obtain ⟨first, d', one, run⟩ := bind_ok run
    obtain ⟨parts, d'', more, run⟩ := bind_ok run
    have lexed := Framed.lexed (Framed.lexed lexed one) more
    exact Trusted.sound lexed (Framed.assignment (Framed.assignment context one) more) run

/-! ### Tables -/

instance : Trusted false tableType where
  sound {c d t} lexed context run := by
    unfold tableType at run
    obtain ⟨tableToken, c₁, first, run⟩ := bind_ok run
    have lexed₁ := Framed.lexed lexed first
    have context₁ := Framed.assignment context first
    obtain ⟨lparen, c₂, second, run⟩ := bind_ok run
    obtain ⟨⟨definition, rparen⟩, c₃, read, run⟩ := bind_ok run
    dsimp only at run
    split at run
    · exact absurd run fail_ok
    · obtain ⟨source, run⟩ := Checked.rawTokens_bind_ok run
      have accepted := isOk_of_build run
      obtain ⟨rfl, _⟩ := build_ok run
      have keyword : Sound false tableToken := Trusted.sound lexed context first
      have opening : Sound false lparen := Trusted.sound lexed₁ context₁ second
      have both : Sound false (definition, rparen) :=
        Trusted.sound (Framed.lexed lexed₁ second) (Framed.assignment context₁ second) read
      have tokens : Sound false definition := (Sound.pair_iff.mp both).1
      have closing : Sound false rparen := (Sound.pair_iff.mp both).2
      obtain ⟨rfl, isOpen, rfl⟩ := require_ok second
      have ready := Cursor.ready_of_isSource lexed₁.eof (Token.isSource_of_kind rfl isOpen)
      obtain ⟨_, _, inside, leave⟩ := reads_recording (.start ready.advance) read
      have reads := leave (readToCloseParen_reads (.refl _) ready.advance.eof inside source)
      have balanced := (ClosesParen.ok ready.advance read).balanced reads
      refine Checked.sound_tableType accepted (.inl ⟨eq_of_beq isOpen, ?_, by simpa using balanced⟩)
      exact (ClosesParen.ok ready.advance read).2.1

/-! ### Parentheses -/

section

variable (sub : Precedence → Parser Expr) [Subexpressions sub] [∀ min, Trusted false (sub min)]

instance : Trusted false rawParenBody := by unfold rawParenBody; infer_instance

instance : Trusted b (parenBody sub) := by
  unfold parenBody
  refine .option ?_ fun rparen => inferInstanceAs (Trusted b (pure (none, rparen.1)))
  refine .comparison (.recording (.attempt inferInstance (fun inner => inferInstance) fun e => ?_))
  cases e <;> dsimp only <;> infer_instance

variable [∀ min, Yields (sub min) fun e => [e.tree]]

/-- What is known of the contents behind a `(`. -/
theorem parenBody_sound {c d : Cursor} {body : Option Expr × Token} (lexed : c.Lexed)
    (context : c.assignment = b) (isOpen : c.current.kind = .leftParen)
    (run : parenBody sub c.advance = .ok body d) :
    Sound b c.current ∧ Sound b body.1 ∧ Sound b body.2 ∧
      Paired c.current (Expr.optionalSlot body.1) body.2 := by
  obtain ⟨raw, moved⟩ := c.moved_advance
  have ready := Cursor.ready_of_isSource lexed.eof (Token.isSource_of_kind_eq rfl isOpen)
  have sound : Sound b body := Trusted.sound (lexed.moved moved) (moved.assignment.trans context) run
  have reads : c.advance.Reads (parenSlots body) d := Yields.reads ready.advance run
  exact ⟨lexed.sound_current context, inferInstance, inferInstance,
    (ClosesParen.ok ready.advance run).enclosed isOpen reads⟩

instance : Trusted b (paren sub) where
  sound {c d e} lexed context run := by
    unfold paren at run
    rw [take_bind] at run
    obtain ⟨⟨inner, rparen⟩, _, body, run⟩ := bind_ok run
    cases inner with
    | none => exact absurd run fail_ok
    | some inner =>
      have accepted := isOk_of_build run
      obtain ⟨rfl, _⟩ := build_ok run
      have isOpen : c.current.kind = .leftParen := by
        simp only [Checked.paren, Shaped.isOk_bind, Check.isOk_parens, Bool.and_eq_true,
          beq_iff_eq] at accepted
        exact accepted.1.1
      obtain ⟨opening, contents, closing, enclosed⟩ := parenBody_sound sub lexed context isOpen body
      have inside := Sound.some_iff.mp contents
      exact Checked.sound_paren enclosed

/-! ### Data types -/

instance : Trusted false (dataType sub) where
  sound {c d type} lexed context run := by
    unfold dataType at run
    rw [atKeyword_bind] at run
    split at run
    · exact Trusted.sound (p := do return .table (← tableType)) lexed context run
    · obtain ⟨n, c₁, named, run⟩ := bind_ok run
      have word : Sound false n := Trusted.sound lexed context named
      have lexed₁ := Framed.lexed lexed named
      have context₁ := Framed.assignment context named
      obtain ⟨lparen, c₂, eaten, run⟩ := bind_ok run
      cases lparen with
      | none =>
        cases run
        exact Checked.sound_typeName (.inr ⟨rfl, rfl⟩)
      | some lparen =>
        rcases eat_ok eaten with ⟨same, isOpen, rfl⟩ | ⟨none, _⟩
        · cases same
          obtain ⟨⟨args, rparen⟩, c₃, body, run⟩ := bind_ok run
          obtain ⟨opening, contents, closing, enclosed⟩ :=
            parenBody_sound sub lexed₁ context₁ (eq_of_beq isOpen) body
          dsimp only at run
          split at run
          · exact absurd run fail_ok
          · obtain ⟨rfl, _⟩ := build_ok run
            exact Checked.sound_typeName enclosed
        · cases none

end

end Grammar

end TransactSql
