import TransactSql.Proofs.Nodes.Statements
import TransactSql.Proofs.RoundTrip
import TransactSql.Proofs.Token.Relexing

/-!
# The nodes of accepted texts

Texts are lexed without assignments, so whatever an entry point accepts a text as is proper. From
this follow the two facts about its nodes: parentheses that a node stores are partners, and `=` is
an assignment where a value is assigned and nowhere else.
-/

namespace TransactSql

open TransactSql.Tree

/-! ### Tokens of texts -/

namespace Lexeme

/-- The symbol is no lone assignment. -/
def IsPlain (found : Lexeme × Nat) : Prop := found.1 ≠ .symbol (.assignment none)

theorem isPlain_either (second : Char) {long short : TokenKind} (cs : List Char)
    (first : long ≠ .assignment none) (other : short ≠ .assignment none) :
    IsPlain (either second long short cs) :=
  either_cases second cs (by simpa [IsPlain] using first) (by simpa [IsPlain] using other)

theorem isPlain_delimited {found : Lexeme} (what : String) (closing : Char) (n : Nat) (cs : List Char)
    (plain : found ≠ .symbol (.assignment none)) : IsPlain (delimited found what closing n cs) := by
  unfold delimited IsPlain
  split
  · exact plain
  · nofun

/-- A lone `=` is lexed as a comparison. -/
theorem measure_isPlain (c : Char) (cs : List Char) : IsPlain (measure c cs) := by
  unfold measure
  split
  case h_30 => split <;> nofun
  case h_32 => split <;> nofun
  case h_34 =>
    split
    · nofun
    · split <;> nofun
  all_goals first
    | exact isPlain_either _ _ nofun nofun
    | exact isPlain_delimited _ _ _ _ nofun
    | nofun

end Lexeme

theorem isForeign_of_mem_lex {text : String} {t : Token} (member : t ∈ lex text) :
    t.isForeign = false := by
  have comparison : t.isSign = false := by
    rcases (lex_scanned text).mem member with ⟨eof, _⟩ | ⟨c, cs, rest, read⟩
    · simp [Token.isSign, eof]
    · have plain := Lexeme.measure_isPlain c cs
      have kind := read.kind
      generalize Lexeme.measure c cs = found at plain kind
      obtain ⟨found, n⟩ := found
      cases found with
      | symbol k =>
        have same : t.kind = k := kind
        have other : k ≠ .assignment none := fun isSign => plain (by rw [isSign])
        simp [Token.isSign, same, other]
      | word => simp [Token.isSign, kind, Lexeme.token, Token.word]
      | fault cause => simp [Token.isSign, kind, Lexeme.token, Token.error]
  have known : t.isSource = true ∨ t.text = "" := by
    rcases (lex_tiling text).mem_covers member with ⟨_, _, blank, _⟩ | ⟨_, _, _, _, covers⟩
    · exact .inr blank
    · rcases covers.text with ⟨source, _⟩ | ⟨_, blank⟩
      · exact .inl source
      · exact .inr blank
  rcases known with source | blank
  · simp [Token.isForeign, comparison, source]
  · simp [Token.isForeign, comparison, blank]

/-- A token with the text `=` is a comparison. -/
theorem kind_of_mem_lex {text : String} {t : Token} (member : t ∈ lex text) (clean : t.isError = false)
    (equals : t.text = "=") : t.kind = .comparison .eq := by
  rcases (lex_scanned text).mem member with ⟨_, blank⟩ | ⟨c, cs, rest, read⟩
  · rw [blank] at equals
    exact absurd equals (by decide)
  · obtain ⟨_, _, same⟩ := read.text_eq clean
    rw [equals] at same
    obtain ⟨rfl, _⟩ := List.cons.inj same
    exact read.kind

/-- The end of input has no text. -/
theorem Cursor.text_eof_ofText (text : String) : (Cursor.ofText text).eof.text = "" := by
  unfold Cursor.ofText Cursor.ofTokens
  cases found : (lex text).find? Token.isEof with
  | none => rfl
  | some t =>
    rcases (lex_tiling text).mem_covers (List.mem_of_find?_eq_some found) with
      ⟨_, _, blank, _⟩ | ⟨_, _, _, _, covers⟩
    · exact blank
    · have isEof := List.find?_some found
      rw [covers.isEof_eq] at isEof
      cases isEof

theorem Cursor.lexed_ofText (text : String) : (Cursor.ofText text).Lexed := by
  obtain ⟨ahead, ready⟩ := Cursor.ofText_eq text
  refine ⟨ready.eof, text_eof_ofText text, fun t member => ?_, nofun⟩
  rw [ahead] at member
  exact isForeign_of_mem_lex (List.dropLast_subset _ member)

theorem Parser.parseAll_sound [Parts α] {p : Parser α} [Trusted false p] {text : String} {a : α}
    (parsed : parseAll p text = .ok a) : Sound false a := by
  obtain ⟨c, _, run, _⟩ := parseAll_ok parsed
  exact Trusted.sound (Cursor.lexed_ofText text) rfl run

/-! ### Accepted texts -/

/-- One of the entry points accepts the text as the tree. -/
inductive Accepts (text : String) : Tree → Prop
  | expression {e : Expr} (parsed : parseExpression text = .ok e) : Accepts text e.tree
  | statement {s : Statement} (parsed : parseStatement text = .ok s) : Accepts text s.tree
  | script {ss : List Statement} (parsed : parseScript text = .ok ss) :
    Accepts text (Statement.listTree ss)

namespace Accepts

variable {text : String} {tree : Tree}

theorem roundTrips (accepts : Accepts text tree) : RoundTrips text tree := by
  cases accepts with
  | expression parsed => exact Parser.parseAll_roundTrips parsed (by simp)
  | statement parsed => exact Parser.parseAll_roundTrips parsed (by simp)
  | script parsed => exact Parser.parseAll_roundTrips parsed (by simp [Statement.listTree])

theorem isSound (accepts : Accepts text tree) : tree.IsSound false := by
  cases accepts with
  | @expression e parsed =>
    have sound : Sound false e := Parser.parseAll_sound parsed
    exact sound_iff.mp inferInstance
  | @statement s parsed =>
    have sound : Sound false s := Parser.parseAll_sound parsed
    exact sound_iff.mp inferInstance
  | @script ss parsed =>
    have sound : Sound false ss := Parser.parseAll_sound parsed
    exact sound_iff.mp (sound_node rfl rfl)

end Accepts

/-! ### Parentheses -/

/-- The parentheses that a node stores are partners: between them as many are closed as are opened,
and nowhere before more. -/
theorem accepted_parens_partners {text : String} {tree : Tree} (accepts : Accepts text tree)
    {place : Place} (member : place ∈ tree.places []) (stores : place.kind.hasParens = true)
    {before inner after : List Tree} {l r : Token}
    (slots : place.slots = before ++ .token l :: (inner ++ .token r :: after))
    (isOpen : l.kind = .leftParen) (isClose : r.kind = .rightParen) : Balanced (tokensOf inner) :=
  (accepts.isSound.proper.at member).partners stores slots isOpen isClose

/-- The arguments of a call that are kept as tokens. -/
theorem accepted_parens_partners_raw : ∃ e, parseExpression "f(a b (c d), e)" = .ok e ∧
    ∃ place ∈ e.tree.places [], ∃ callee l args r, place.kind = .call ∧
      place.slots = [callee, .token l, args, .token r] ∧ args.tokens.length = 8 ∧
        Balanced (tokensOf [args]) := by
  let isOpen : Tree → Bool := isTokenWith (·.kind == .leftParen)
  let isClose : Tree → Bool := isTokenWith (·.kind == .rightParen)
  obtain ⟨e, parsed⟩ := exists_of_isOk (x := parseExpression "f(a b (c d), e)") (by decide +kernel)
  have found : (parseExpression "f(a b (c d), e)").toOption.any (fun e =>
      (e.tree.places []).any fun place => place.kind == .call &&
        place.slots.map (fun t => (isOpen t, isClose t, t.tokens.length)) ==
          [(false, false, 1), (true, false, 1), (false, false, 8), (false, true, 1)]) = true := by
    decide +kernel
  rw [parsed] at found
  obtain ⟨place, member, held⟩ := List.any_eq_true.mp found
  simp only [Bool.and_eq_true, beq_iff_eq, List.map_eq_cons_iff, List.map_eq_nil_iff,
    Prod.mk.injEq] at held
  obtain ⟨kind, callee, _, slots, _, left, _, rfl, ⟨opens, _⟩, args, _, rfl, ⟨_, _, size⟩, right, _,
    rfl, ⟨_, closes, _⟩, rfl⟩ := held
  obtain ⟨l, rfl, opening⟩ := exists_of_isTokenWith opens
  obtain ⟨r, rfl, closing⟩ := exists_of_isTokenWith closes
  have split : place.slots = [callee] ++ .token l :: ([args] ++ .token r :: []) := slots
  exact ⟨e, parsed, place, member, callee, l, args, r, kind, slots, size,
    accepted_parens_partners (.expression parsed) member (by rw [kind]; rfl) split
      (beq_iff_eq.mp opening) (beq_iff_eq.mp closing)⟩

/-! ### Signs -/

namespace Tree

theorem mem_tokensOf_of_slot {slots : List Tree} {t : Tree} {u : Token} (slot : t ∈ slots)
    (member : u ∈ t.tokens) : u ∈ tokensOf slots := by
  obtain ⟨front, back, rfl⟩ := List.append_of_mem slot
  simp [member]

theorem mem_tokens_of_places {t : Tree} {around : List NodeKind} {place : Place} {u : Token}
    (member : place ∈ t.places around) (slot : .token u ∈ place.slots) (present : u.isPlaceholder = false) :
    u ∈ t.tokens := by
  have inherited : Inherited fun _ s => ∀ u ∈ s.tokens, u ∈ t.tokens := by
    intro _ kind slots held s found u inside
    exact held u (by rw [tokens_node]; exact mem_tokensOf_of_slot found inside)
  refine inherited.at (fun u inside => inside) member u ?_
  rw [tokens_node]
  exact mem_tokensOf_of_slot slot (by simp [tokens, present])

/-- The nodes around are those of the item of a select list, or of the operand of its alias. -/
def IsSelected (around : List NodeKind) : Prop :=
  [.exprList, .select] <+: around ∨ [.aliased, .exprList, .select] <+: around

/-- A tree that has to stand in a select list stands there. -/
structure StandsIn (around : List NodeKind) (t : Tree) : Prop where
  assigns : t.assigns = true → IsSelected around
  renames : t.renames = true → [.exprList, .select] <+: around
  lists : t.lists = true → [.select] <+: around

theorem StandsIn.of_not_isLoose {around : List NodeKind} {t : Tree} (fixed : t.isLoose = false) :
    StandsIn around t := by
  obtain ⟨assigns, renames, lists⟩ := isLoose_eq_false.mp fixed
  exact ⟨by simp [assigns], by simp [renames], by simp [lists]⟩

theorem StandsIn.slot {around : List NodeKind} {kind : NodeKind} {slots : List Tree} {t : Tree}
    (stands : StandsIn around (node kind slots)) (member : t ∈ slots)
    (placed : t.mayStandIn kind = true) : StandsIn (kind :: around) t := by
  simp only [mayStandIn, Bool.and_eq_true, Bool.or_eq_true, Bool.not_eq_true', beq_iff_eq] at placed
  obtain ⟨⟨inItem, inList⟩, inQuery⟩ := placed
  have listed : t.assigns = true ∨ t.renames = true → kind = .exprList → [.select] <+: around := by
    rintro found rfl
    refine stands.lists (List.any_eq_true.mpr ⟨t, member, ?_⟩)
    simpa using found
  refine ⟨fun assigns => ?_, fun renames => ?_, fun lists => ?_⟩
  · rw [assigns] at inItem
    rcases inItem with (absent | rfl) | rfl
    · cases absent
    · exact .inl (List.cons_prefix_cons.mpr ⟨rfl, listed (.inl assigns) rfl⟩)
    · -- The alias renames an assignment, so it is an item itself.
      have renamed : (node .aliased slots).renames = true :=
        List.any_eq_true.mpr ⟨t, member, assigns⟩
      exact .inr (List.cons_prefix_cons.mpr ⟨rfl, stands.renames renamed⟩)
  · rw [renames] at inList
    rcases inList with absent | rfl
    · cases absent
    · exact List.cons_prefix_cons.mpr ⟨rfl, listed (.inr renames) rfl⟩
  · rw [lists] at inQuery
    rcases inQuery with absent | rfl
    · cases absent
    · exact List.cons_prefix_cons.mpr ⟨rfl, List.nil_prefix⟩

/-- In a proper tree every node stands where it may. -/
theorem AllProper.standsIn {t : Tree} {around : List NodeKind} {place : Place} (proper : t.AllProper)
    (stands : StandsIn around t) (member : place ∈ t.places around) :
    StandsIn place.around (.node place.kind place.slots) := by
  have inherited : Inherited fun around t => t.AllProper ∧ StandsIn around t := by
    rintro _ kind slots ⟨proper, stands⟩ t found
    obtain ⟨here, inside⟩ := allProper_node.mp proper
    exact ⟨inside t found, stands.slot found (here.placed t found)⟩
  exact (inherited.at ⟨proper, stands⟩ member).2

end Tree

theorem exists_readAs {raw ts : List Token} (read : List.Forall₂ Token.ReadAs raw ts) {t : Token}
    (member : t ∈ ts) : ∃ u ∈ raw, u.ReadAs t := by
  induction read with
  | nil => cases member
  | @cons u v _ _ first _ ih =>
    rcases List.mem_cons.mp member with rfl | later
    · exact ⟨u, List.mem_cons_self, first⟩
    · obtain ⟨w, found, same⟩ := ih later
      exact ⟨w, List.mem_cons_of_mem u found, same⟩

/-- A `=` in the tree of a text is read as a comparison or as an assignment. -/
theorem Accepts.kind_of_equals {text : String} {tree : Tree} (accepts : Accepts text tree) {t : Token}
    (member : t ∈ tree.tokens) (equals : t.text = "=") :
    t.kind = .comparison .eq ∨ t.kind = .assignment none := by
  obtain ⟨clean, tokens, _⟩ := accepts.roundTrips
  obtain ⟨u, found, read⟩ := exists_readAs tokens member
  have inText : u ∈ lex text := List.dropLast_subset _ found
  rcases read with rfl | rfl
  · exact .inl (kind_of_mem_lex inText (clean t inText) equals)
  · have same : u.text = "=" := by
      unfold Token.asAssignment at equals
      split at equals <;> exact equals
    have kind := kind_of_mem_lex inText (clean u inText) same
    exact .inr (by simp [Token.asAssignment, kind])

/-- Where a `=` is an assignment: as the operator of an assignment or of a `SET`, and before the
initial value of a variable or a parameter. Any other `=` is a comparison. An assignment with `=` is
an item of a select list or has just an alias around it there. -/
theorem accepted_signs {text : String} {tree : Tree} (accepts : Accepts text tree) {place : Place}
    (member : place ∈ tree.places []) {before after : List Tree} {t : Token}
    (slots : place.slots = before ++ .token t :: after) (equals : t.text = "=") :
    (t.kind = .assignment none ↔ isSignSlot place.kind before after = true) ∧
    (isSignSlot place.kind before after = false → t.kind = .comparison .eq) ∧
    (place.kind = .assignment → IsSelected place.around) := by
  have sound := accepts.isSound
  have slot : .token t ∈ place.slots := by simp [slots]
  have sign := (sound.proper.at member).signs slots
  -- Only a placeholder is left out of the tokens of a tree, and it has no text.
  have present : t.isPlaceholder = false := by
    by_contra hidden
    have kind : t.kind = .placeholder := by simpa [Token.isPlaceholder] using hidden
    split at sign
    · rw [kind] at sign
      cases sign
    · simp [Token.isForeign, Token.isSource, TokenKind.isSource, kind, equals] at sign
  have kinds := accepts.kind_of_equals (mem_tokens_of_places member slot present) equals
  have assigned : isSignSlot place.kind before after = true → t.kind = .assignment none := by
    intro held
    rw [if_pos held] at sign
    rcases kinds with comparison | assignment
    · rw [comparison] at sign
      cases sign
    · exact assignment
  have compared : isSignSlot place.kind before after = false → t.kind = .comparison .eq := by
    intro other
    rw [other] at sign
    rcases kinds with comparison | assignment
    · exact comparison
    · simp [Token.isForeign, Token.isSign, assignment] at sign
  refine ⟨⟨fun isSign => ?_, assigned⟩, compared, fun isAssignment => ?_⟩
  · cases held : isSignSlot place.kind before after with
    | true => rfl
    | false =>
      rw [compared held] at isSign
      cases isSign
  · have kind : t.kind = .assignment none := assigned (by rw [isAssignment]; rfl)
    have stands := sound.proper.standsIn (.of_not_isLoose sound.fixed) member
    rw [isAssignment] at stands
    refine stands.assigns (List.any_eq_true.mpr ⟨.token t, slot, ?_⟩)
    simp [isSign, Token.isSign, kind]

/-- An assignment with an alias, and a condition. -/
theorem accepted_signs_query : ∃ e, parseExpression "SELECT @a = b AS c FROM t WHERE d = 1" = .ok e ∧
    (∃ place ∈ e.tree.places [], place.kind = .assignment ∧ IsSelected place.around) ∧
    ∃ place ∈ e.tree.places [], place.kind = .binary ∧
      ∃ t, .token t ∈ place.slots ∧ t.text = "=" ∧ t.kind = .comparison .eq := by
  obtain ⟨e, parsed⟩ := exists_of_isOk
    (x := parseExpression "SELECT @a = b AS c FROM t WHERE d = 1") (by decide +kernel)
  have found : (parseExpression "SELECT @a = b AS c FROM t WHERE d = 1").toOption.any (fun e =>
      [NodeKind.assignment, .binary].all fun kind => (e.tree.places []).any fun place =>
        place.kind == kind && place.slots.any (isTokenWith (·.text == "="))) = true := by
    decide +kernel
  rw [parsed] at found
  have find : ∀ kind ∈ [NodeKind.assignment, .binary], ∃ place ∈ e.tree.places [],
      place.kind = kind ∧ ∃ before after t, place.slots = before ++ .token t :: after ∧ t.text = "=" := by
    intro kind listed
    obtain ⟨place, member, held⟩ := List.any_eq_true.mp (List.all_eq_true.mp found kind listed)
    rw [Bool.and_eq_true, beq_iff_eq, List.any_eq_true] at held
    obtain ⟨same, slot, inSlots, equals⟩ := held
    obtain ⟨t, rfl, equals⟩ := exists_of_isTokenWith equals
    obtain ⟨before, after, split⟩ := List.append_of_mem inSlots
    exact ⟨place, member, same, before, after, t, split, beq_iff_eq.mp equals⟩
  refine ⟨e, parsed, ?_, ?_⟩
  · obtain ⟨place, member, kind, before, after, t, split, equals⟩ := find .assignment (by simp)
    exact ⟨place, member, kind,
      (accepted_signs (.expression parsed) member split equals).2.2 kind⟩
  · obtain ⟨place, member, kind, before, after, t, split, equals⟩ := find .binary (by simp)
    refine ⟨place, member, kind, t, by simp [split], equals, ?_⟩
    exact (accepted_signs (.expression parsed) member split equals).2.1 (by rw [kind]; rfl)

end TransactSql
