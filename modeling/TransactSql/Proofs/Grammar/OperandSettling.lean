import TransactSql.Grammar.Operand
import TransactSql.Proofs.Parser.Settling

/-!
# Names, parentheses and data types settle

The parts that a rule hands to the checked construction of a node have passed the tests that the
construction makes, because the rule took them by the same tests.
-/

namespace TransactSql.Grammar

open TransactSql.Parser

variable {ts : List Token} {c : Cursor}

/-! ### Names -/

theorem isOk_nameParts_dots {t : Token} (part : t.isWord = true ∨ t.kind = .arithmetic .star) :
    ∀ {wanted : Bool} (dots : List Token), (∀ d ∈ dots, d.kind = .dot) →
      (dots = [] → wanted = true) → (Checked.nameParts false wanted (dots ++ [t])).isOk = true
  | _, [], _, given => by
    have other : t.kind ≠ .dot := by
      rintro dot
      simp [Token.isWord, dot, TokenKind.isWord] at part
    rcases part with word | star
    · simp [Checked.nameParts, other, given rfl, word]
    · simp [Checked.nameParts, given rfl, star]
  | _, d :: dots, kinds, _ => by
    have behind : ∀ e ∈ dots, e.kind = .dot := fun e member =>
      kinds e (List.mem_cons_of_mem d member)
    have rest : (Checked.nameParts false true (dots ++ [t])).isOk = true :=
      isOk_nameParts_dots part dots behind fun _ => rfl
    simp [Checked.nameParts, kinds d List.mem_cons_self, rest]

/-- A name that does not end in `*` goes on behind dots. -/
theorem isOk_nameParts_append {t : Token} (part : t.isWord = true ∨ t.kind = .arithmetic .star)
    {dots : List Token} (kinds : ∀ d ∈ dots, d.kind = .dot) (some : dots ≠ []) :
    ∀ {first wanted : Bool} {parts : List Token}, parts ≠ [] → Name.isWildcard ⟨parts⟩ = false →
      (Checked.nameParts first wanted parts).isOk = true →
      (Checked.nameParts first wanted (parts ++ (dots ++ [t]))).isOk = true
  | _, _, [], nonempty, _, _ => absurd rfl nonempty
  | first, wanted, [p], _, plain, given => by
    have rest : (Checked.nameParts false false (dots ++ [t])).isOk = true :=
      isOk_nameParts_dots part dots kinds fun none => absurd none some
    by_cases dot : p.kind = .dot
    · simp [Checked.nameParts, dot] at given
    · simp [Name.isWildcard] at plain
      simp [Checked.nameParts, dot, plain] at given
      simp [Checked.nameParts, dot, given, rest]
  | first, wanted, p :: q :: parts, _, plain, given => by
    have goesOn : ∀ {w : Bool}, (Checked.nameParts false w (q :: parts)).isOk = true →
        (Checked.nameParts false w ((q :: parts) ++ (dots ++ [t]))).isOk = true :=
      isOk_nameParts_append part kinds some (by simp) (by simpa [Name.isWildcard] using plain)
    by_cases dot : p.kind = .dot
    · rw [Checked.nameParts, if_pos dot] at given
      rw [List.cons_append, Checked.nameParts, if_pos dot]
      simp only [Shaped.isOk_bind, Bool.and_eq_true] at given ⊢
      exact ⟨by simpa using given.1, goesOn given.2⟩
    · rw [Checked.nameParts, if_neg dot] at given
      rw [List.cons_append, Checked.nameParts, if_neg dot]
      simp only [Shaped.isOk_bind, Bool.and_eq_true] at given ⊢
      exact ⟨given.1, by simpa using given.2.1, goesOn given.2.2⟩

/-- The parts of a name so far. -/
def IsName (parts : List Token) : Prop :=
  parts ≠ [] ∧ (Checked.nameParts true true parts).isOk = true

theorem isDot_normalize (c : Cursor) (t : Token) :
    ((c.normalize t).kind == .dot) = (t.kind == .dot) := by
  by_cases plain : t.kind = .comparison .eq
  · unfold Cursor.normalize Token.asAssignment
    split <;> simp [plain]
  · rw [c.normalize_eq plain]

theorem namePart_settles {parts : List Token} (stands : c.Stands ts) (name : IsName parts) :
    Settles ts (fun next => ∀ more, next = some more → IsName more) (namePart parts c) := by
  unfold namePart
  rw [atKind_bind]
  split
  · exact .pure stands nofun
  · next goesOn =>
    simp only [Bool.or_eq_true, Bool.not_eq_true', not_or, Bool.not_eq_true, Bool.not_eq_false]
      at goesOn
    obtain ⟨plain, dot⟩ := goesOn
    have run := takeWhile_settles stands (isDot_normalize c) (Token.isSource_of_kind rfl)
    refine run.bind fun dots d stands read => ?_
    obtain ⟨kinds, some⟩ := read
    have whole : ∀ {t : Token}, t.isWord = true ∨ t.kind = .arithmetic .star →
        IsName (parts ++ dots ++ [t]) := by
      intro t part
      rw [List.append_assoc]
      refine ⟨by simp, ?_⟩
      exact isOk_nameParts_append part (by simpa using kinds) (some dot) name.1 plain name.2
    rw [atKind_bind]
    split
    · next star =>
      rw [take_bind]
      refine .pure stands.advance fun more same => ?_
      obtain rfl := Option.some.inj same
      exact whole (.inr (beq_iff_eq.mp star))
    · refine .next stands fun part e stands word => .pure stands fun more same => ?_
      obtain rfl := Option.some.inj same
      exact whole (.inl word)

instance : Settled ts name fun n => IsName n.parts where
  settles stands := by
    unfold name
    refine .next stands fun first d stands word => ?_
    have other : first.kind ≠ .dot := by
      rintro dot
      simp [Token.isWord, dot, TokenKind.isWord] at word
    have start : IsName [first] := ⟨by simp, by simp [Checked.nameParts, other, word]⟩
    refine (settles_loop IsName namePart_settles stands start).bind fun parts e stands named => ?_
    exact settles_build stands (by simp [Checked.name, named.1, named.2]) named

/-! ### Parentheses -/

theorem rawParenBody_settles (stands : c.clear.Stands ts) :
    Settles ts (fun body => (body.2.kind == .rightParen) = true) (rawParenBody c) := by
  unfold rawParenBody
  refine (readToCloseParen_settles stands).bind fun read d stands held => ?_
  obtain ⟨tokens, rparen⟩ := read
  exact settles_rawTokens_bind stands (fun t member => .inr (held.1 t member)) (.pure stands held.2)

instance : Settled ts tableType fun _ => True where
  settles stands := by
    unfold tableType
    refine .next stands fun tableToken d stands isTable => ?_
    refine .next stands fun lparen d stands isOpen => ?_
    refine .next stands fun read d stands held => ?_
    obtain ⟨definition, rparen⟩ := read
    dsimp only at held ⊢
    split
    · exact .fail_bind stands
    · refine settles_rawTokens_bind stands (fun t member => .inr (held.1 t member)) ?_
      exact settles_build stands (by simp [Checked.tableType, isTable, isOpen, held.2]) trivial

section Expressions

variable (sub : Precedence → Parser Expr) [subs : ∀ min, Settled ts (sub min) fun _ => True]

instance : Settled ts (parenBody sub) fun body => (body.2.kind == .rightParen) = true where
  settles {c} stands := by
    unfold parenBody
    refine .next stands fun closed d stands isClosing => ?_
    cases closed with
    | some rparen => exact .pure stands (by simpa using isClosing)
    | none =>
      refine settles_withAssignment (settles_recording ?_)
      have inside := (subs .none).settles (stands.setAssignment false).beginRecording
      rw [attempt_bind]
      cases run : sub .none (d.setAssignment false).beginRecording with
      | ok inner e =>
        rw [run] at inside
        dsimp only
        rw [atKind_bind]
        split
        · next closes =>
          rw [take_bind]
          exact .pure inside.1.advance closes
        · exact rawParenBody_settles inside.1.clear
      | error failure e =>
        rw [run] at inside
        cases failure with
        | grammar x =>
          dsimp only
          rw [rawCurrent_bind]
          split
          · exact inside
          · exact rawParenBody_settles inside.1
        | _ => exact inside

/-! ### Data types -/

/-- A type is a table only where the word `TABLE` stands. -/
theorem dataType_settles (stands : c.Stands ts) :
    Settles ts (fun type => c.current.isKeyword .TABLE = false → type.isTable = false)
      (dataType sub c) := by
  unfold dataType
  rw [atKeyword_bind]
  split
  · next isTable =>
    exact .next stands fun type d stands _ => .pure stands fun other => by simp [isTable] at other
  · refine .next stands fun name d stands _ => ?_
    refine .next stands fun lparen d stands isOpen => ?_
    cases lparen with
    | none => exact .pure stands fun _ => rfl
    | some lparen =>
      refine .next stands fun body d stands isClosing => ?_
      obtain ⟨args, rparen⟩ := body
      dsimp only at isClosing ⊢
      split
      · exact .fail_bind stands
      · next some =>
        simp only [Option.all_some, beq_iff_eq] at isOpen isClosing
        refine settles_build stands ?_ fun _ => rfl
        have paired : Check.isParenPair lparen rparen = true := by
          simp [Check.isParenPair, isOpen, isClosing]
        simp [Checked.typeName, Check.isOk_parenPair paired, Token.isPlaceholder, isOpen, some]

instance : Settled ts (dataType sub) fun _ => True where
  settles stands := (dataType_settles sub stands).mono fun _ _ => trivial

instance : Settled ts assignSign fun found => found.all (·.kind == .assignment none) = true := by
  unfold assignSign; infer_instance

end Expressions

end TransactSql.Grammar
