import TransactSql.Proofs.Batches
import TransactSql.Proofs.Diagnostics
import TransactSql.Proofs.Grammar.Termination
import TransactSql.Report.Basic

/-!
# Reports tell places in the file

The tokens of a parsed text tile it, so the span of a statement cuts out its source without the
trivia around it, and what the grammar objects to is a token of the text. A batch is a part of the
file, so places in a batch become places in the file by its offset and its line.
-/

namespace TransactSql

open Text

/-! ### Spans of trees -/

namespace Tree

mutual

theorem first?_eq : ∀ t : Tree, t.first? = t.tokens.head?
  | .token t => by
    rw [first?, tokens]
    split <;> rfl
  | .node _ slots => by rw [first?, tokens, firstOf?_eq slots]

theorem firstOf?_eq : ∀ slots : List Tree, firstOf? slots = (tokensOf slots).head?
  | [] => by rw [firstOf?, tokensOf, List.head?_nil]
  | slot :: slots => by
    rw [firstOf?, tokensOf, first?_eq slot, firstOf?_eq slots, List.head?_append]
    cases slot.tokens.head? <;> rfl

end

mutual

theorem last?_eq : ∀ t : Tree, t.last? = t.tokens.getLast?
  | .token t => by
    rw [last?, tokens]
    split <;> rfl
  | .node _ slots => by rw [last?, tokens, lastOf?_eq slots]

theorem lastOf?_eq : ∀ slots : List Tree, lastOf? slots = (tokensOf slots).getLast?
  | [] => by rw [lastOf?, tokensOf, List.getLast?_nil]
  | slot :: slots => by
    rw [lastOf?, tokensOf, last?_eq slot, lastOf?_eq slots, List.getLast?_append]
    cases (tokensOf slots).getLast? <;> rfl

end

theorem span_eq {t : Tree} {first last : Token} (head : t.tokens.head? = some first)
    (final : t.tokens.getLast? = some last) : t.span = first.span.merge last.span := by
  rw [span, first?_eq, last?_eq, head, final]

end Tree

/-! ### Parts of a text -/

/-- The span has the part of the text between its ends, which are between characters. -/
def Span.Cuts (s : Span) (text part : List Char) : Prop :=
  ∃ front after, text = front ++ part ++ after ∧
    s = ⟨byteLength front, byteLength front + byteLength part⟩

theorem Token.ReadAs.covers {raw t : Token} (read : raw.ReadAs t) {before lexeme : List Char}
    (covers : raw.Covers before lexeme) : t.Covers before lexeme := by
  rcases read with rfl | rfl
  · exact covers
  · unfold asAssignment
    split
    · next eq =>
      refine ⟨covers.nonempty, covers.span, .inl ⟨rfl, covers.text_eq ?_⟩⟩
      rw [isError, eq]
      rfl
    · exact covers

theorem Token.ReadAs.trivia_eq {raw t : Token} (read : raw.ReadAs t) :
    t.leading = raw.leading ∧ t.trailing = raw.trailing := by
  rcases read with rfl | rfl
  · exact ⟨rfl, rfl⟩
  · unfold asAssignment
    split <;> exact ⟨rfl, rfl⟩

theorem Token.toList_source (t : Token) : t.source.toList =
    Trivia.chars t.leading ++ t.text.toList ++ Trivia.chars t.trailing := by
  simp [source, String.toList_join, Trivia.chars, List.flatMap_map]

theorem toList_sourceText_append (ts us : List Token) :
    (sourceText (ts ++ us)).toList = (sourceText ts).toList ++ (sourceText us).toList := by
  simp [toList_sourceText]

theorem toList_sourceText_cons (t : Token) (ts : List Token) :
    (sourceText (t :: ts)).toList = t.source.toList ++ (sourceText ts).toList := by
  simp [sourceText]

namespace Tiling

variable {before cs : List Char} {ts us xs ys : List Token}

/-- Tokens tile a text however they are read. -/
theorem readAs (tiling : Tiling before cs ts) (read : List.Forall₂ Token.ReadAs ts us) :
    Tiling before cs us := by
  induction tiling generalizing us with
  | eof run =>
    obtain ⟨u, _, same, none, rfl⟩ := List.forall₂_cons_left_iff.mp read
    rw [List.forall₂_nil_left_iff.mp none]
    rcases same with rfl | rfl <;> exact .eof run
  | token split covers followed more ih =>
    obtain ⟨u, _, same, rest, rfl⟩ := List.forall₂_cons_left_iff.mp read
    obtain ⟨leading, trailing⟩ := same.trivia_eq
    have covers := same.covers covers
    have more := ih rest
    rw [← leading] at covers
    rw [← leading, ← trailing] at split more
    exact .token split covers followed more

theorem cons {t : Token} (tiling : Tiling before cs (t :: ts)) (more : ts ≠ []) (clean : t.isError = false) :
    ∃ rest, cs = t.source.toList ++ rest ∧ t.text.toList ≠ [] ∧
      t.span = ⟨byteLength (before ++ Trivia.chars t.leading),
        byteLength (before ++ Trivia.chars t.leading ++ t.text.toList)⟩ ∧
      Tiling (before ++ t.source.toList) rest ts := by
  cases tiling with
  | eof => exact absurd rfl more
  | @token _ _ lexeme rest _ _ split covers followed tiling =>
    obtain rfl := covers.text_eq clean
    refine ⟨rest, by rw [t.toList_source, split], covers.nonempty, ?_, ?_⟩
    · rw [covers.span, byteLength_append _ t.text.toList]
    · rw [t.toList_source]
      simpa using tiling

/-- Behind the text of the first tokens the others tile what is left. -/
theorem behind (tiling : Tiling before cs (xs ++ ys)) (more : ys ≠ [])
    (clean : ∀ t ∈ xs, t.isError = false) :
    ∃ rest, cs = (sourceText xs).toList ++ rest ∧
      Tiling (before ++ (sourceText xs).toList) rest ys := by
  induction xs generalizing before cs with
  | nil => exact ⟨cs, rfl, by simpa [sourceText] using tiling⟩
  | cons t xs ih =>
    rw [List.forall_mem_cons] at clean
    obtain ⟨_, split, _, _, others⟩ := cons tiling (by simp [more]) clean.1
    obtain ⟨rest, rfl, left⟩ := ih others clean.2
    rw [toList_sourceText_cons]
    exact ⟨rest, by simp [split], by simpa using left⟩

/-- A token stands behind the text of those before it. -/
theorem span_eq {t : Token} (tiling : Tiling [] cs (xs ++ t :: us)) (more : us ≠ [])
    (clean : ∀ u ∈ xs ++ [t], u.isError = false) :
    t.text.toList ≠ [] ∧ (sourceText (xs ++ [t])).toList <+: cs ∧
      t.span = ⟨byteLength ((sourceText xs).toList ++ Trivia.chars t.leading),
        byteLength ((sourceText xs).toList ++ Trivia.chars t.leading ++ t.text.toList)⟩ := by
  rw [List.forall_mem_append] at clean
  obtain ⟨rest, rfl, here⟩ := behind tiling (by simp) clean.1
  obtain ⟨rest, rfl, nonempty, span, _⟩ := cons here more (clean.2 t List.mem_cons_self)
  refine ⟨nonempty, ⟨rest, ?_⟩, span⟩
  simp [toList_sourceText, Token.toList_source]

end Tiling

/-- The text of some tokens is their first and last trivia and what is between. -/
theorem exists_inner {ts : List Token} {first last : Token} (head : ts.head? = some first)
    (final : ts.getLast? = some last) (some : first.text.toList ≠ []) :
    ∃ part, part ≠ [] ∧ (sourceText ts).toList =
      Trivia.chars first.leading ++ part ++ Trivia.chars last.trailing := by
  obtain ⟨ts, rfl⟩ := List.head?_eq_some_iff.mp head
  rw [toList_sourceText_cons, first.toList_source]
  rcases List.eq_nil_or_concat ts with rfl | ⟨middle, t, rfl⟩
  · obtain rfl : first = last := by simpa using final
    exact ⟨first.text.toList, some, by simp [sourceText]⟩
  · obtain rfl : t = last := by simpa [List.getLast?_cons] using final
    refine ⟨first.text.toList ++ Trivia.chars first.trailing ++ (sourceText middle).toList ++
      Trivia.chars t.leading ++ t.text.toList, by simp [some], ?_⟩
    simp [toList_sourceText]

theorem merge_eq {ts : List Token} {first last : Token} (head : ts.head? = some first)
    (final : ts.getLast? = some last) (ordered : ts.Pairwise fun t u => t.span.stop ≤ u.span.start)
    (start : first.span.start ≤ first.span.stop) (stop : last.span.start ≤ last.span.stop) :
    first.span.merge last.span = ⟨first.span.start, last.span.stop⟩ := by
  obtain ⟨ts, rfl⟩ := List.head?_eq_some_iff.mp head
  rcases List.mem_cons.mp (List.mem_of_getLast? final) with rfl | later
  · simp [Span.merge]
  · have before := (List.pairwise_cons.mp ordered).1 last later
    simp only [Span.merge, Span.mk.injEq]
    omega

/-- From the first of some tokens to the last there is their text, without the trivia around it. -/
theorem Tiling.cuts {text : List Char} {xs ts us : List Token} (tiling : Tiling [] text (xs ++ ts ++ us))
    (more : us ≠ []) (clean : ∀ t ∈ xs ++ ts, t.isError = false) {first last : Token}
    (head : ts.head? = some first) (final : ts.getLast? = some last) :
    ∃ part, part ≠ [] ∧ (first.span.merge last.span).Cuts text part ∧
      first.span.merge last.span = ⟨first.span.start, last.span.stop⟩ ∧
      (sourceText ts).toList = Trivia.chars first.leading ++ part ++ Trivia.chars last.trailing := by
  have start : ts = first :: ts.tail := (List.cons_head?_tail head).symm
  have stop : ts = ts.dropLast ++ [last] := (List.dropLast_append_getLast? last final).symm
  have fromFirst : Tiling [] text (xs ++ first :: (ts.tail ++ us)) := by
    rwa [start, List.append_assoc, List.cons_append] at tiling
  have fromLast : Tiling [] text (xs ++ ts.dropLast ++ last :: us) := by
    rw [stop, ← List.append_assoc, List.append_assoc _ [last]] at tiling
    exact tiling
  obtain ⟨nonempty, _, span⟩ := fromFirst.span_eq (by simp [more]) fun u member => by
    rcases List.mem_append.mp member with before | here
    · exact clean u (List.mem_append_left _ before)
    · rw [List.mem_singleton.mp here]
      exact clean first (List.mem_append_right _ (List.mem_of_mem_head? head))
  obtain ⟨_, ⟨rest, whole⟩, span'⟩ := fromLast.span_eq more (by rwa [List.append_assoc, ← stop])
  obtain ⟨part, some, inner⟩ := exists_inner head final nonempty
  rw [List.append_assoc, ← stop, toList_sourceText_append] at whole
  -- The text of the tokens, measured from its first token and from its last one.
  have size : byteLength (sourceText ts).toList = byteLength (sourceText ts.dropLast).toList +
      byteLength (last.source).toList := by
    conv_lhs => rw [stop, toList_sourceText_append, byteLength_append]
    simp [sourceText]
  rw [inner] at size
  simp only [last.toList_source, byteLength_append] at size
  simp only [toList_sourceText_append, byteLength_append] at span span'
  have ordered := (List.pairwise_append.mp (List.pairwise_append.mp tiling.ordered).1).2.1
  have merged := merge_eq head final ordered (by simp [span]) (by simp [span'])
  refine ⟨part, some, ⟨(sourceText xs).toList ++ Trivia.chars first.leading,
    Trivia.chars last.trailing ++ rest, ?_, ?_⟩, merged, inner⟩
  · rw [← whole, inner]
    simp
  · rw [merged, span, span']
    simp only [byteLength_append, Span.mk.injEq, true_and]
    omega

/-! ### Statements of a text -/

/-- The span of the tree goes from its first token to its last, over the part of the text that is
its source without the trivia around it. -/
structure Tree.Spans (t : Tree) (text part : List Char) : Prop where
  nonempty : part ≠ []
  cuts : t.span.Cuts text part
  source : ∃ first last, t.tokens.head? = some first ∧ t.tokens.getLast? = some last ∧
    t.span = ⟨first.span.start, last.span.stop⟩ ∧
    t.source.toList = Trivia.chars first.leading ++ part ++ Trivia.chars last.trailing

theorem Tree.tokensOf_eq_flatMap (slots : List Tree) : tokensOf slots = slots.flatMap tokens := by
  induction slots with
  | nil => simp
  | cons slot slots ih => simp [ih]

theorem Token.ReadAs.isError_eq {raw t : Token} (read : raw.ReadAs t) : t.isError = raw.isError := by
  rcases read with rfl | rfl
  · rfl
  · unfold asAssignment isError
    split
    · next eq => rw [eq]; rfl
    · rfl

theorem isError_of_readAs {raw ts : List Token} (read : List.Forall₂ Token.ReadAs raw ts)
    (clean : ∀ t ∈ raw, t.isError = false) : ∀ t ∈ ts, t.isError = false := by
  induction read with
  | nil => simp
  | cons first _ ih =>
    simp only [List.forall_mem_cons] at clean ⊢
    exact ⟨first.isError_eq ▸ clean.1, ih clean.2⟩

/-- The tokens of a tree that holds a text tile it, up to the end of input. -/
theorem RoundTrips.tiling {text : String} {tree : Tree} (trips : RoundTrips text tree) :
    ∃ last, Tiling [] text.toList (tree.tokens ++ [last]) ∧
      ∀ t ∈ tree.tokens, t.isError = false := by
  obtain ⟨init, last, all, -⟩ := (lex_tiling text).ends
  have read := trips.tokens
  have tiling := lex_tiling text
  rw [all] at tiling
  rw [all, List.dropLast_concat] at read
  refine ⟨last, tiling.readAs (List.rel_append read (.cons (.inl rfl) .nil)), ?_⟩
  refine isError_of_readAs read fun t member => trips.clean t ?_
  rw [all]
  exact List.mem_append_left _ member

/-- A tree whose tokens are next to one another in the text spans its source. -/
theorem Tree.spans_of_tiling {text : List Char} {t : Tree} {xs us : List Token}
    (tiling : Tiling [] text (xs ++ t.tokens ++ us)) (more : us ≠ [])
    (clean : ∀ u ∈ xs ++ t.tokens, u.isError = false) (real : t.tokens ≠ []) :
    ∃ part, t.Spans text part := by
  have head := List.head?_eq_some_head real
  have final := List.getLast?_eq_some_getLast real
  obtain ⟨part, some, cuts, merged, source⟩ := tiling.cuts more clean head final
  have span := Tree.span_eq head final
  exact ⟨part, some, by rwa [span], _, _, head, final, by rw [span, merged], source⟩

/-- The tokens of the statements of a text tile it, up to the end of input. -/
theorem parseScript_tiling {text : String} {ss : List Statement} (h : parseScript text = .ok ss) :
    ∃ last, Tiling [] text.toList (ss.flatMap (·.tree.tokens) ++ [last]) ∧
      (∀ t ∈ ss.flatMap (·.tree.tokens), t.isError = false) ∧ ∀ s ∈ ss, s.tree.tokens ≠ [] := by
  have trips : RoundTrips text (Statement.listTree ss) :=
    Parser.parseAll_roundTrips h (by simp [Statement.listTree])
  have tokens : (Statement.listTree ss).tokens = ss.flatMap (·.tree.tokens) := by
    simp [Statement.listTree, Tree.tokensOf_eq_flatMap, List.flatMap_map]
  obtain ⟨last, tiling, clean⟩ := trips.tiling
  rw [tokens] at tiling clean
  refine ⟨last, tiling, clean, ?_⟩
  obtain ⟨c, d, run, _⟩ := Parser.parseAll_ok h
  exact (Parser.statements_counts (Cursor.ofText_eq text).2 run).1

theorem parseScript_spans {text : String} {ss : List Statement} (h : parseScript text = .ok ss) :
    (∀ s ∈ ss, ∃ part, s.tree.Spans text.toList part) ∧
      ss.Pairwise fun s s' => s.tree.span.stop ≤ s'.tree.span.start := by
  obtain ⟨final, tiling, clean, nonempty⟩ := parseScript_tiling h
  have spans : ∀ s ∈ ss, ∃ part, s.tree.Spans text.toList part := by
    intro s member
    obtain ⟨front, back, rfl⟩ := List.append_of_mem member
    simp only [List.flatMap_append, List.flatMap_cons] at tiling clean
    rw [← List.append_assoc, List.append_assoc _ _ [final]] at tiling
    exact Tree.spans_of_tiling tiling (by simp) (fun t member => clean t (by grind))
      (nonempty s member)
  refine ⟨spans, ?_⟩
  have ordered := (List.pairwise_append.mp tiling.ordered).1
  rw [List.pairwise_flatMap] at ordered
  refine ordered.2.imp_of_mem fun {s s'} member member' apart => ?_
  obtain ⟨_, _, _, _, last, _, final, span, _⟩ := spans s member
  obtain ⟨_, _, _, first, _, head, _, span', _⟩ := spans s' member'
  rw [span, span']
  exact apart _ (List.mem_of_getLast? final) _ (List.mem_of_mem_head? head)

/-! ### Places of failures -/

/-- The grammar objects to a part of the text or to its end. -/
theorem parseScript_fault {text : String} {d : Diagnostic}
    (h : parseScript text = .error (.grammar d)) : ∃ part, d.span.Cuts text.toList part := by
  obtain ⟨t, member, span⟩ := Parser.parseAll_fault (fun _ => inferInstance) h
  rw [← span]
  rcases (lex_tiling text).mem_covers member with ⟨_, _, _, place⟩ | ⟨front, part, after, whole, covers⟩
  · exact ⟨[], text.toList, [], by simp, by simp [place, Span.emptyAt]⟩
  · exact ⟨part, front, after, whole, covers.span⟩

/-! ### Places in the file -/

namespace Report

/-- The location has the part of the file between its ends, and the number of the line on which
that part starts. -/
structure Location.Marks (l : Location) (file part : List Char) : Prop where
  slice : Span.slice ⟨l.start, l.stop⟩ file = some part
  line : (takeBytes l.start file).map (·.count '\n' + 1) = some l.line

/-- A span in a batch has its place in the file. -/
theorem Location.ofSpan_marks {file part : List Char} {b : Batch} {s : Span}
    (stands : b.StandsIn file) (cuts : s.Cuts b.text.toList part) :
    (Location.ofSpan b s).Marks file part ∧
      s.start ≤ s.stop ∧ s.stop ≤ byteLength b.text.toList := by
  obtain ⟨before, after, rfl, offset, line⟩ := stands
  obtain ⟨front, back, text, rfl⟩ := cuts
  have whole : before ++ b.text.toList ++ after = before ++ front ++ part ++ (back ++ after) := by
    simp [text]
  refine ⟨⟨?_, ?_⟩, Nat.le_add_right _ _, by simp [text]⟩
  · have slice := Span.slice_append (before ++ front) part (back ++ after)
    rw [whole]
    simpa [ofSpan, offset, Nat.add_assoc] using slice
  · have taken := takeBytes_append (before ++ front) (part ++ (back ++ after))
    have inner := takeBytes_append front (part ++ back)
    rw [byteLength_append, ← List.append_assoc] at taken
    rw [← List.append_assoc, ← text] at inner
    simp only [ofSpan, offset, line, whole, taken, inner, Option.map_some, Option.getD_some,
      List.count_append]
    congr 1
    omega

/-- The report on a statement of the batch marks its source, from its first token to its last. -/
structure StatementSummary.Locates (file : List Char) (b : Batch) (s : Statement)
    (r : StatementSummary) : Prop where
  marks : ∃ part, part ≠ [] ∧ r.location.Marks file part ∧ ∃ first last,
    s.tree.tokens.head? = some first ∧ s.tree.tokens.getLast? = some last ∧
    r.location.start = b.offset + first.span.start ∧ r.location.stop = b.offset + last.span.stop ∧
    s.tree.source.toList = Trivia.chars first.leading ++ part ++ Trivia.chars last.trailing
  inside : b.offset ≤ r.location.start ∧ r.location.stop ≤ b.offset + byteLength b.text.toList

/-- The report on a batch tells where its statements are, or what the grammar objects to. -/
structure BatchReport.Locates (file : List Char) (b : Batch) (r : BatchReport) : Prop where
  statements : ∀ ss, parseScript b.text = .ok ss →
    List.Forall₂ (StatementSummary.Locates file b) ss r.statements
  failed : ∀ f, parseScript b.text = .error f → r.statements = [] ∧ r.error.isSome = true
  fault : ∀ d, parseScript b.text = .error (.grammar d) →
    ∃ e l part, r.error = some e ∧ e.location = some l ∧ l.Marks file part ∧
      b.offset ≤ l.start ∧ l.start ≤ l.stop ∧ l.stop ≤ b.offset + byteLength b.text.toList

/-- The report on a batch of a script. -/
def BatchReport.ofBatch (b : Batch) : BatchReport :=
  .ofResult b ((parseScript b.text).map (·.map (.ofStatement b)))

theorem StatementSummary.ofStatement_locates {file : List Char} {b : Batch} {ss : List Statement}
    (stands : b.StandsIn file) (h : parseScript b.text = .ok ss) {s : Statement} (member : s ∈ ss) :
    StatementSummary.Locates file b s (.ofStatement b s) := by
  obtain ⟨part, nonempty, cuts, first, last, head, final, span, source⟩ :=
    (parseScript_spans h).1 s member
  obtain ⟨marks, _, bound⟩ := Location.ofSpan_marks stands cuts
  refine ⟨⟨part, nonempty, marks, first, last, head, final, ?_, ?_, source⟩,
    Nat.le_add_right _ _, Nat.add_le_add_left bound _⟩
  · simp [ofStatement, Location.ofSpan, span]
  · simp [ofStatement, Location.ofSpan, span]

theorem BatchReport.ofBatch_locates {file : List Char} {b : Batch} (stands : b.StandsIn file) :
    BatchReport.Locates file b (ofBatch b) where
  statements ss h := by
    simp only [ofBatch, h, Except.map, ofResult, List.forall₂_map_right_iff]
    exact List.forall₂_same.mpr fun s member => StatementSummary.ofStatement_locates stands h member
  failed f h := by
    simp [ofBatch, h, Except.map, ofResult]
  fault d h := by
    obtain ⟨part, cuts⟩ := parseScript_fault h
    obtain ⟨marks, forward, bound⟩ := Location.ofSpan_marks stands cuts
    refine ⟨.ofFailure b (.grammar d), .ofSpan b d.span, part, ?_, rfl, marks, Nat.le_add_right _ _,
      Nat.add_le_add_left forward _, Nat.add_le_add_left bound _⟩
    simp [ofBatch, h, Except.map, ofResult]

theorem BatchReport.mem_ofBatch {b : Batch} {r : StatementSummary} (member : r ∈ (ofBatch b).statements) :
    ∃ ss, parseScript b.text = .ok ss ∧ ∃ s ∈ ss, .ofStatement b s = r := by
  rw [ofBatch] at member
  cases parsed : parseScript b.text with
  | ok ss =>
    rw [parsed] at member
    exact ⟨ss, rfl, List.mem_map.mp member⟩
  | error f =>
    rw [parsed] at member
    cases member

theorem BatchReport.ofBatch_ordered (b : Batch) :
    (ofBatch b).statements.Pairwise fun s s' => s.location.stop ≤ s'.location.start := by
  rw [ofBatch]
  cases parsed : parseScript b.text with
  | ok ss =>
    refine List.pairwise_map.mpr ((parseScript_spans parsed).2.imp fun apart => ?_)
    exact Nat.add_le_add_left apart b.offset
  | error f => exact .nil

/-- Every batch of a script is reported with true places in the file, of its statements or of what
the grammar objects to, and the statements of all batches follow one another without overlap. -/
theorem analyzeScript_locates (file text : String) :
    List.Forall₂ (BatchReport.Locates text.toList) (splitBatches text)
      (analyzeScript file text).batches ∧
    ((analyzeScript file text).batches.flatMap (·.statements)).Pairwise
      fun s s' => s.location.stop ≤ s'.location.start := by
  have batches : (analyzeScript file text).batches = (splitBatches text).map .ofBatch := rfl
  rw [batches, List.forall₂_map_right_iff, List.flatMap_map, List.pairwise_flatMap]
  have located {b : Batch} (member : b ∈ splitBatches text) {r : StatementSummary}
      (reported : r ∈ (BatchReport.ofBatch b).statements) :
      b.offset ≤ r.location.start ∧ r.location.stop ≤ b.offset + byteLength b.text.toList := by
    obtain ⟨ss, parsed, s, found, rfl⟩ := BatchReport.mem_ofBatch reported
    exact (StatementSummary.ofStatement_locates (standsIn_of_mem_splitBatches member) parsed found).inside
  refine ⟨List.forall₂_same.mpr fun b member => ?_, fun b _ => BatchReport.ofBatch_ordered b, ?_⟩
  · exact BatchReport.ofBatch_locates (standsIn_of_mem_splitBatches member)
  · refine (splitBatches_precedes text).imp_of_mem fun {b b'} member member' precedes r first r' second => ?_
    have before := (located member first).2
    have behind := (located member' second).1
    unfold Batch.Precedes at precedes
    omega

/-- Behind a blank batch, two statements on one line and a fault at the end of the file. -/
theorem analyzeScript_locates_batches :
    (analyzeScript "" "\ngo\n\n /* é */ SELECT 1; BREAK --\nGO\nIF (\n + ").batches.map
        (fun r => (r.statements.map (·.location), r.error.bind (·.location))) =
      [([⟨15, 24, 4⟩, ⟨25, 30, 4⟩], none), ([], some ⟨45, 45, 7⟩)] ∧
    List.Forall₂ (BatchReport.Locates "\ngo\n\n /* é */ SELECT 1; BREAK --\nGO\nIF (\n + ".toList)
      (splitBatches "\ngo\n\n /* é */ SELECT 1; BREAK --\nGO\nIF (\n + ")
      (analyzeScript "" "\ngo\n\n /* é */ SELECT 1; BREAK --\nGO\nIF (\n + ").batches :=
  ⟨by decide +kernel, (analyzeScript_locates "" _).1⟩

end Report

end TransactSql
