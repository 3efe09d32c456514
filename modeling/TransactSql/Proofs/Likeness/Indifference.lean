import TransactSql.Proofs.Grammar.Frame
import TransactSql.Proofs.Likeness.Scripts
import TransactSql.Proofs.RoundTrip

/-!
# The parsers see kinds, keywords and flags only

Token lists that agree in these are read in the same way, whatever the texts, spans and trivia: the
trees have the same nodes with the tokens of the same places in their slots, or the failures are
of one sort and at the same place.
-/

namespace TransactSql

/-! ### Agreement -/

/-- Texts, spans, trivia and the messages of errors may differ. -/
structure Token.Agrees (t u : Token) : Prop where
  kind : t.kind.name = u.kind.name
  keyword : t.keyword? = u.keyword?
  flags : t.flags = u.flags

/-- A kind is known by its name, apart from the class of a word and the message of an error. -/
theorem TokenKind.find?_name (k : TokenKind) :
    (ofName?.fixed.find? fun l => l.name == k.name) =
      if k.isWord || k.isError then none else some k := by
  cases k with
  | literal form => cases form <;> rfl
  | arithmetic op => cases op <;> rfl
  | comparison op => cases op <;> rfl
  | assignment compound =>
    cases compound with
    | none => rfl
    | some op => cases op <;> rfl
  | _ => rfl

namespace Token

theorem hasFlag_iff_mem_flags (t : Token) (f : TokenFlag) : t.hasFlag f = true ↔ f ∈ t.flags := by
  have all : f ∈ TokenFlag.all := by cases f <;> decide
  simp [flags, all]

variable {t u : Token}

theorem Agrees.hasFlag_eq (h : t.Agrees u) (f : TokenFlag) : t.hasFlag f = u.hasFlag f := by
  rw [Bool.eq_iff_iff, hasFlag_iff_mem_flags, hasFlag_iff_mem_flags, h.flags]

theorem Agrees.word_eq (h : t.Agrees u) {w v : Word} (left : t.kind = .word w)
    (right : u.kind = .word v) : w = v := by
  have keyword := h.keyword
  have flag := h.hasFlag_eq
  simp only [keyword?, left, right, TokenKind.keyword?] at keyword
  simp only [hasFlag, left, right] at flag
  -- Words that are no keywords and have none of these flags are plain.
  have quoted := flag .quoted
  have variable' := flag .variable
  have system := flag .systemVariable
  have temporary := flag .temporary
  cases w <;> cases v <;> simp_all [Word.keyword?, Word.isVariable]

theorem Agrees.silent_eq (h : t.Agrees u) : t.kind.silent = u.kind.silent := by
  have known := t.kind.find?_name
  rw [h.kind, u.kind.find?_name] at known
  have name := h.kind
  cases left : t.kind <;> cases right : u.kind <;>
    simp_all [TokenKind.silent, TokenKind.isWord, TokenKind.isError, TokenKind.name]
  exact h.word_eq left right

theorem Agrees.isEof_eq (h : t.Agrees u) : t.isEof = u.isEof := by
  obtain same | ⟨_, _, left, right⟩ := TokenKind.eq_or_error h.silent_eq
  · rw [isEof, same, isEof]
  · rw [isEof, left, isEof, right]
    rfl

theorem silent_asAssignment (t : Token) : t.asAssignment.kind.silent =
    if t.kind.silent = .comparison .eq then .assignment none else t.kind.silent := by
  unfold asAssignment
  split
  · next eq => simp [eq, TokenKind.silent]
  · next other =>
    rw [if_neg fun silent => other ?_]
    cases kind : t.kind <;> simp_all [TokenKind.silent]

theorem asAssignment_asAssignment (t : Token) : t.asAssignment.asAssignment = t.asAssignment := by
  unfold asAssignment
  split <;> rfl

end Token

/-! ### Places -/

/-- The tokens a cursor finds in a list: behind them comes an end of input, if they have none. -/
def withEnd (ts : List Token) : List Token := ts ++ [.eof .zero]

def SamePlace (ts us : List Token) (t u : Token) : Prop :=
  ∃ i : Nat, (withEnd ts)[i]? = some t ∧ (withEnd us)[i]? = some u

/-- A slot is empty for both, or holds the tokens of the same index, as they are or both with `=`
read as an assignment. -/
inductive SameSlot (ts us : List Token) : Token → Token → Prop
  | placeholder : SameSlot ts us .placeholder .placeholder
  | token {t u : Token} : SamePlace ts us t u → SameSlot ts us t u
  | reclassified {t u : Token} : SamePlace ts us t u →
    SameSlot ts us t.asAssignment u.asAssignment

variable {ts us : List Token}

theorem agrees_of_samePlace (agree : List.Forall₂ Token.Agrees ts us) {t u : Token}
    (place : SamePlace ts us t u) : t.Agrees u := by
  obtain ⟨i, left, right⟩ := place
  obtain ⟨inside, rfl⟩ := List.getElem?_eq_some_iff.mp left
  obtain ⟨inside', rfl⟩ := List.getElem?_eq_some_iff.mp right
  have all : List.Forall₂ Token.Agrees (withEnd ts) (withEnd us) :=
    List.rel_append agree (.cons ⟨rfl, rfl, rfl⟩ .nil)
  exact all.get inside inside'

def placeCorrespondence (agree : List.Forall₂ Token.Agrees ts us) : Correspondence where
  tokens := SameSlot ts us
  spans s s' := ∃ t u, SamePlace ts us t u ∧ t.span = s ∧ u.span = s'
  kind h := by
    cases h with
    | placeholder => rfl
    | token place => exact (agrees_of_samePlace agree place).silent_eq
    | reclassified place =>
      rw [Token.silent_asAssignment, Token.silent_asAssignment,
        (agrees_of_samePlace agree place).silent_eq]
  assignment h := by
    cases h with
    | placeholder => exact .placeholder
    | token place => exact .reclassified place
    | reclassified place =>
      rw [Token.asAssignment_asAssignment, Token.asAssignment_asAssignment]
      exact .reclassified place
  placeholder := .placeholder

theorem Cursor.rel_ofTokens {S : Token → Token → Prop} (ends : ∀ {t u}, S t u → t.isEof = u.isEof)
    (last : S (.eof .zero) (.eof .zero)) (tokens : List.Forall₂ S ts us) :
    List.Forall₂ S (ofTokens ts).ahead (ofTokens us).ahead ∧
      S (ofTokens ts).eof (ofTokens us).eof := by
  unfold ofTokens
  induction tokens with
  | nil => exact ⟨.nil, last⟩
  | @cons t u _ _ first _ rest =>
    have same := ends first
    cases eof : u.isEof with
    | true => simp [same, eof, first]
    | false => simpa [same, eof, first] using rest

theorem forall₂_samePlace (lengths : ts.length = us.length) :
    List.Forall₂ (SamePlace ts us) ts us := by
  refine List.forall₂_iff_get.mpr ⟨lengths, fun i inside inside' => ⟨i, ?_, ?_⟩⟩
  · simp [withEnd, List.getElem?_append_left inside, inside]
  · simp [withEnd, List.getElem?_append_left inside', inside']

theorem Cursor.related_ofTokens (agree : List.Forall₂ Token.Agrees ts us) :
    Related (placeCorrespondence agree) (ofTokens ts) (ofTokens us) := by
  have last : SamePlace ts us (.eof .zero) (.eof .zero) :=
    ⟨ts.length, by simp [withEnd], by simp [withEnd, agree.length_eq]⟩
  obtain ⟨ahead, eof⟩ := rel_ofTokens (fun place => (agrees_of_samePlace agree place).isEof_eq) last
    (forall₂_samePlace agree.length_eq)
  exact ⟨⟨ahead.imp fun _ _ => .token⟩, ⟨.token eof⟩,
    ahead.imp fun t u place => ⟨t, u, place, rfl, rfl⟩, ⟨_, _, eof, rfl, rfl⟩, ⟨.none⟩, rfl, ⟨.nil⟩⟩

/-! ### Runs -/

/-- Trees of one shape whose slots hold tokens of the same places, or failures of one sort, where
those of the grammar are at the same place. -/
inductive Parallel (ts us : List Token) (tree : α → Tree) :
    Except Failure α → Except Failure α → Prop
  | ok {a b : α} : Tree.Alike (SameSlot ts us) (tree a) (tree b) →
    Parallel ts us tree (.ok a) (.ok b)
  | grammar {x y : Diagnostic} {t u : Token} : SamePlace ts us t u → x.span = t.span →
    y.span = u.span → Parallel ts us tree (.error (.grammar x)) (.error (.grammar y))
  | shape (e e' : ShapeError) : Parallel ts us tree (.error (.shape e)) (.error (.shape e'))
  | unsupported (what : String) :
    Parallel ts us tree (.error (.unsupported what)) (.error (.unsupported what))
  | mismatch (expected found : NodeKind) :
    Parallel ts us tree (.error (.mismatch expected found)) (.error (.mismatch expected found))

namespace Parser

/-- What a run gives, without the cursor. -/
def result (p : Parser α) (c : Cursor) : Except Failure α :=
  match p c with
  | .ok a _ => .ok a
  | .error e _ => .error e

/-- Reads on to the end of input. -/
def toEnd (p : Parser α) : Parser α := do
  let a ← p
  expectEnd
  return a

/-- On token lists that agree, in either context, the parser passes over the same number of tokens
and gives parallel results. -/
structure Indifferent (p : Parser α) (tree : α → Tree) : Prop where
  results : ∀ {ts us : List Token}, List.Forall₂ Token.Agrees ts us → ∀ assignment,
    Parallel ts us tree (p.result ((Cursor.ofTokens ts).setAssignment assignment))
      (p.result ((Cursor.ofTokens us).setAssignment assignment))
  consumption : ∀ {ts us : List Token}, List.Forall₂ Token.Agrees ts us → ∀ assignment,
    ∃ n ≤ (Cursor.ofTokens ts).ahead.length,
      (p.final ((Cursor.ofTokens ts).setAssignment assignment)).ahead =
        (Cursor.ofTokens ts).ahead.drop n ∧
      (p.final ((Cursor.ofTokens us).setAssignment assignment)).ahead =
        (Cursor.ofTokens us).ahead.drop n

variable [Relatable α]

theorem related_final {R : Correspondence} {p q : Parser α} (h : Related R p q) {c d : Cursor}
    (cursors : Related R c d) (ready : c.fault = none) : Related R (p.final c) (q.final d) := by
  have runs := outcome h cursors ready
  unfold final
  generalize p c = reply at runs ⊢
  generalize q d = reply' at runs ⊢
  cases runs <;> assumption

theorem Indifferent.of_related {p : Parser α} {tree : α → Tree} [Framed p]
    (related : ∀ R : Correspondence, Related R p p)
    (trees : ∀ {R : Correspondence} {a b : α}, Related R a b → Related R (tree a) (tree b)) :
    Indifferent p tree where
  results {ts us} agree assignment := by
    have cursors := Cursor.related_setAssignment (Cursor.related_ofTokens agree)
      (rfl : assignment = assignment)
    have runs := outcome (related _) cursors rfl
    unfold result
    generalize p _ = reply at runs ⊢
    generalize p _ = reply' at runs ⊢
    cases runs with
    | ok value => exact .ok (trees value).rel
    | grammar x =>
      obtain ⟨t, u, place, left, right⟩ := x.rel
      exact .grammar place left.symm right.symm
    | shape => exact .shape _ _
    | unsupported => exact .unsupported _
  consumption {ts us} agree assignment := by
    have cursors := Cursor.related_setAssignment (Cursor.related_ofTokens agree)
      (rfl : assignment = assignment)
    have ends := related_final (related _) cursors rfl
    obtain ⟨raw, moved⟩ := p.final_moved ((Cursor.ofTokens ts).setAssignment assignment)
    obtain ⟨raw', moved'⟩ := p.final_moved ((Cursor.ofTokens us).setAssignment assignment)
    have whole := (Cursor.alike cursors).ahead.length_eq
    have rest := (Cursor.alike ends).ahead.length_eq
    rw [moved.ahead, moved'.ahead, List.length_append, List.length_append] at whole
    -- As many tokens are left, so as many have been passed over.
    have same : raw.length = raw'.length := by omega
    have ahead : (Cursor.ofTokens ts).ahead = _ := moved.ahead
    have ahead' : (Cursor.ofTokens us).ahead = _ := moved'.ahead
    refine ⟨raw.length, by simp [ahead], ?_, ?_⟩
    · rw [ahead, List.drop_left]
    · rw [ahead', same, List.drop_left]

instance (p : Parser α) [Framed p] : Framed p.toEnd := by unfold toEnd; infer_instance

instance {R : Correspondence} {p q : Parser α} [h : Related R p q] : Related R p.toEnd q.toEnd := by
  unfold toEnd
  exact related_bind h fun _ _ _ => inferInstance

omit [Relatable α] in
theorem parseAll_eq (p : Parser α) (text : String) :
    parseAll p text = (p.toEnd.result (.ofText text)).mapError (.withSource text) := by
  unfold result parseAll
  change (match p.toEnd (.ofText text) with | .ok a _ => _ | .error e _ => _) = _
  cases p.toEnd (.ofText text) <;> rfl

omit [Relatable α] in
theorem Indifferent.parseAll {p : Parser α} {tree : α → Tree} (h : Indifferent p.toEnd tree)
    {text text' : String} (agree : List.Forall₂ Token.Agrees (lex text) (lex text')) :
    Parallel (lex text) (lex text') tree (p.parseAll text) (p.parseAll text') := by
  -- The source that is added to a failure changes neither its sort nor its place.
  rw [parseAll_eq, parseAll_eq]
  have results : Parallel (lex text) (lex text') tree (p.toEnd.result (.ofText text))
      (p.toEnd.result (.ofText text')) := h.results agree false
  generalize p.toEnd.result _ = reply at results ⊢
  generalize p.toEnd.result _ = reply' at results ⊢
  cases results with
  | ok trees => exact .ok trees
  | grammar place left right => exact .grammar place left right
  | shape e e' => exact .shape e e'
  | unsupported what => exact .unsupported what
  | mismatch expected found => exact .mismatch expected found

end Parser

theorem Statement.tree_eq_node (s : Statement) : ∃ slots, s.tree = .node s.kind slots := by
  cases s with
  | block b =>
    cases b
    exact ⟨_, by simp only [tree, Block.tree, kind]; rfl⟩
  | _ => exact ⟨_, by simp only [tree, kind]; rfl⟩

theorem Statement.related_listTree {R : Correspondence} {ss ss' : List Statement}
    (h : Related R ss ss') : Related R (listTree ss) (listTree ss') := by
  unfold listTree
  infer_instance

theorem Statement.kind_of_alike {S : Token → Token → Prop} {s s' : Statement}
    (h : Tree.Alike S s.tree s'.tree) : s.kind = s'.kind := by
  obtain ⟨slots, left⟩ := s.tree_eq_node
  obtain ⟨slots', right⟩ := s'.tree_eq_node
  rw [left, right] at h
  exact (Tree.alike_node h).1

theorem parseStatementOf_parallel {text text' : String}
    (h : Parallel (lex text) (lex text') Statement.tree (parseStatement text)
      (parseStatement text'))
    (kind : NodeKind) : Parallel (lex text) (lex text') Statement.tree
      (parseStatementOf kind text) (parseStatementOf kind text') := by
  unfold parseStatementOf
  generalize parseStatement text = reply at h ⊢
  generalize parseStatement text' = reply' at h ⊢
  cases h with
  | @ok s s' trees =>
    dsimp only [bind, Except.bind]
    rw [Statement.kind_of_alike trees]
    split
    · exact .ok trees
    · exact .mismatch _ _
  | grammar place left right => exact .grammar place left right
  | shape e e' => exact .shape e e'
  | unsupported what => exact .unsupported what
  | mismatch expected found => exact .mismatch expected found

/-- Parsers of every depth read lists in the same way whose tokens agree in kind, keyword and flags;
so the case of keywords, the spelling of names and trivia do not change how a text is read. -/
theorem parsers_indifferent (depth : Nat) :
    (∀ min, (Parser.expr depth min).Indifferent Expr.tree) ∧
    (Parser.statement depth).Indifferent Statement.tree ∧
    (Parser.statements depth).Indifferent Statement.listTree ∧
    (Parser.topStatement depth).Indifferent Statement.tree ∧
    (∀ min, (Parser.withAssignment false (Parser.expr depth min)).toEnd.Indifferent Expr.tree) ∧
    (Parser.topStatement depth).toEnd.Indifferent Statement.tree ∧
    (Parser.statements depth).toEnd.Indifferent Statement.listTree ∧
    (∀ {text text' : String}, List.Forall₂ Token.Agrees (lex text) (lex text') →
      Parallel (lex text) (lex text') Expr.tree (parseExpression text) (parseExpression text') ∧
      Parallel (lex text) (lex text') Statement.tree (parseStatement text) (parseStatement text') ∧
      (∀ kind, Parallel (lex text) (lex text') Statement.tree (parseStatementOf kind text)
        (parseStatementOf kind text')) ∧
      Parallel (lex text) (lex text') Statement.listTree (parseScript text) (parseScript text')) := by
  refine ⟨fun min => .of_related inferInstance fun h => ⟨h.rel⟩,
    .of_related inferInstance fun h => ⟨h.rel⟩,
    .of_related inferInstance Statement.related_listTree,
    .of_related inferInstance fun h => ⟨h.rel⟩,
    fun min => .of_related inferInstance fun h => ⟨h.rel⟩,
    .of_related inferInstance fun h => ⟨h.rel⟩,
    .of_related inferInstance Statement.related_listTree, ?_⟩
  intro text text' agree
  have expression : ((Parser.expr defaultDepth .none).withAssignment false).toEnd.Indifferent
      Expr.tree := .of_related inferInstance fun h => ⟨h.rel⟩
  have statement : (Parser.topStatement defaultDepth).toEnd.Indifferent Statement.tree :=
    .of_related inferInstance fun h => ⟨h.rel⟩
  have script : (Parser.statements defaultDepth).toEnd.Indifferent Statement.listTree :=
    .of_related inferInstance Statement.related_listTree
  exact ⟨expression.parseAll agree, statement.parseAll agree,
    parseStatementOf_parallel (statement.parseAll agree), script.parseAll agree⟩

/-- All that the grammar sees of a token. -/
def Token.seen (t : Token) : String × Option Keyword × List TokenFlag :=
  (t.kind.name, t.keyword?, t.flags)

theorem forall₂_agrees_of_seen (same : ts.map Token.seen = us.map Token.seen) :
    List.Forall₂ Token.Agrees ts us := by
  have seen : List.Forall₂ (fun t u => Token.seen t = Token.seen u) ts us := by
    rw [← List.forall₂_map_right_iff, ← List.forall₂_map_left_iff, same, List.forall₂_eq_eq_eq]
  refine seen.imp fun t u same => ?_
  simp only [Token.seen, Prod.mk.injEq] at same
  exact ⟨same.1, same.2.1, same.2.2⟩

/-- One script in two spellings, and two texts that end too early. -/
theorem parsers_indifferent_spelling :
    List.Forall₂ Token.Agrees (lex "set @a = 1; if b = 2 break")
      (lex "SET @xyz/* */=22;\nIF c = 3 BREAK --") ∧
    (∃ ss ss', parseScript "set @a = 1; if b = 2 break" = .ok ss ∧
      parseScript "SET @xyz/* */=22;\nIF c = 3 BREAK --" = .ok ss' ∧
      Tree.Alike (SameSlot (lex "set @a = 1; if b = 2 break")
        (lex "SET @xyz/* */=22;\nIF c = 3 BREAK --")) (Statement.listTree ss)
        (Statement.listTree ss')) ∧
    (parseExpression "a +").isOk = false ∧
    Parallel (lex "a +") (lex "bc /* */ + ") Expr.tree (parseExpression "a +")
      (parseExpression "bc /* */ + ") := by
  have agree : List.Forall₂ Token.Agrees (lex "set @a = 1; if b = 2 break")
      (lex "SET @xyz/* */=22;\nIF c = 3 BREAK --") := forall₂_agrees_of_seen (by decide +kernel)
  have agree' : List.Forall₂ Token.Agrees (lex "a +") (lex "bc /* */ + ") :=
    forall₂_agrees_of_seen (by decide +kernel)
  obtain ⟨_, _, _, _, _, _, _, texts⟩ := parsers_indifferent 3
  refine ⟨agree, ?_, by decide +kernel, (texts agree').1⟩
  have scripts := (texts agree).2.2.2
  obtain ⟨ss, script⟩ :=
    exists_of_isOk (x := parseScript "set @a = 1; if b = 2 break") (by decide +kernel)
  rw [script] at scripts
  generalize parseScript "SET @xyz/* */=22;\nIF c = 3 BREAK --" = reply at scripts
  cases scripts with
  | ok trees => exact ⟨ss, _, script, rfl, trees⟩

end TransactSql
