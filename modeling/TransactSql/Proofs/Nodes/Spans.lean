import TransactSql.Proofs.Nodes.Texts
import TransactSql.Proofs.Report.Coordinates

/-!
# Spans of nodes

The tokens of a node are next to one another in the text. So the span of a node has its source in the
text, without the trivia around it, and the spans of its slots follow one another inside it.
-/

namespace TransactSql

open Text TransactSql.Tree

/-! ### Tokens that are next to one another -/

namespace Tree

theorem tokens_infix_of_slot {slots : List Tree} {t : Tree} (slot : t ∈ slots) :
    t.tokens <:+: tokensOf slots := by
  obtain ⟨front, back, rfl⟩ := List.append_of_mem slot
  exact ⟨tokensOf front, tokensOf back, by simp⟩

theorem tokens_infix_of_places {t : Tree} {around : List NodeKind} {place : Place}
    (member : place ∈ t.places around) : (node place.kind place.slots).tokens <:+: t.tokens := by
  have inherited : Inherited fun _ s => s.tokens <:+: t.tokens := by
    intro _ kind slots held s slot
    rw [tokens_node] at held
    exact (tokens_infix_of_slot slot).trans held
  exact inherited.at (List.infix_refl _) member

/-- The tokens of the tree are next to one another in the text, and none of them is malformed. -/
def IsReadFrom (text : List Char) (t : Tree) : Prop :=
  ∃ xs us, Tiling [] text (xs ++ t.tokens ++ us) ∧ us ≠ [] ∧ ∀ u ∈ xs ++ t.tokens, u.isError = false

end Tree

theorem Accepts.isReadFrom {text : String} {tree : Tree} (accepts : Accepts text tree) :
    tree.IsReadFrom text.toList := by
  obtain ⟨last, tiling, clean⟩ := accepts.roundTrips.tiling
  exact ⟨[], [last], tiling, by simp, clean⟩

theorem Tiling.start_le_stop {before cs : List Char} {ts : List Token} (tiling : Tiling before cs ts)
    {t : Token} (member : t ∈ ts) : t.span.start ≤ t.span.stop := by
  rcases tiling.mem_covers member with ⟨_, _, _, place⟩ | ⟨_, _, _, _, covers⟩
  · rw [place]
    exact Nat.le_refl _
  · rw [covers.span]
    exact Nat.le_add_right _ _

/-- Every token is between the first and the last. -/
theorem Token.between_ends {ts : List Token} {first last t : Token}
    (ordered : ts.Pairwise fun t u => t.span.stop ≤ u.span.start)
    (proper : ∀ t ∈ ts, t.span.start ≤ t.span.stop) (head : ts.head? = some first)
    (final : ts.getLast? = some last) (member : t ∈ ts) :
    first.span.start ≤ t.span.start ∧ t.span.stop ≤ last.span.stop := by
  constructor
  · obtain ⟨rest, rfl⟩ := List.head?_eq_some_iff.mp head
    rcases List.mem_cons.mp member with rfl | later
    · exact Nat.le_refl _
    · exact Nat.le_trans (proper first List.mem_cons_self) ((List.pairwise_cons.mp ordered).1 t later)
  · obtain ⟨init, rfl⟩ := List.getLast?_eq_some_iff.mp final
    rcases List.mem_append.mp member with before | here
    · have apart := (List.pairwise_append.mp ordered).2.2 t before last List.mem_cons_self
      exact Nat.le_trans apart (proper last (List.mem_append_right _ List.mem_cons_self))
    · rw [List.mem_singleton.mp here]

namespace Tree.IsReadFrom

variable {text : List Char} {s t : Tree}

theorem of_infix (read : t.IsReadFrom text) (part : s.tokens <:+: t.tokens) : s.IsReadFrom text := by
  obtain ⟨xs, us, tiling, more, clean⟩ := read
  obtain ⟨front, back, whole⟩ := part
  rw [← whole] at tiling clean
  refine ⟨xs ++ front, back ++ us, by simpa using tiling, by simp [more], fun u member => clean u ?_⟩
  rw [← List.append_assoc, ← List.append_assoc]
  exact List.mem_append_left _ member

theorem spans (read : t.IsReadFrom text) (real : t.tokens ≠ []) : ∃ part, t.Spans text part := by
  obtain ⟨xs, us, tiling, more, clean⟩ := read
  exact Tree.spans_of_tiling tiling more clean real

theorem ordered (read : t.IsReadFrom text) :
    t.tokens.Pairwise fun t u => t.span.stop ≤ u.span.start := by
  obtain ⟨xs, us, tiling, -, -⟩ := read
  exact (List.pairwise_append.mp (List.pairwise_append.mp tiling.ordered).1).2.1

theorem start_le_stop (read : t.IsReadFrom text) {u : Token} (member : u ∈ t.tokens) :
    u.span.start ≤ u.span.stop := by
  obtain ⟨xs, us, tiling, -, -⟩ := read
  exact tiling.start_le_stop (List.mem_append_left us (List.mem_append_right xs member))

/-- The span of a part is inside the span of the whole. -/
theorem span_inside (read : t.IsReadFrom text) (part : s.tokens <:+: t.tokens) (real : s.tokens ≠ []) :
    t.span.start ≤ s.span.start ∧ s.span.stop ≤ t.span.stop := by
  have whole : t.tokens ≠ [] := fun none => real (List.infix_nil.mp (none ▸ part))
  obtain ⟨_, _, _, first, last, head, final, span, _⟩ := read.spans whole
  obtain ⟨_, _, _, first', last', head', final', span', _⟩ := (read.of_infix part).spans real
  have between {u : Token} (member : u ∈ s.tokens) :=
    Token.between_ends read.ordered (fun _ => read.start_le_stop) head final (part.mem member)
  rw [span, span']
  exact ⟨(between (List.mem_of_mem_head? head')).1, (between (List.mem_of_getLast? final')).2⟩

/-- The spans of the slots follow one another. -/
theorem slots_apart {kind : NodeKind} {slots : List Tree} (read : (node kind slots).IsReadFrom text) :
    (slots.filter (·.tokens ≠ [])).Pairwise fun s s' => s.span.stop ≤ s'.span.start := by
  have ordered := read.ordered
  rw [tokens_node, tokensOf_eq_flatMap, List.pairwise_flatMap] at ordered
  have spans {slot : Tree} (member : slot ∈ slots.filter (·.tokens ≠ [])) :
      ∃ part, slot.Spans text part := by
    obtain ⟨found, real⟩ := List.mem_filter.mp member
    have part : slot.tokens <:+: (node kind slots).tokens := by
      rw [tokens_node]
      exact tokens_infix_of_slot found
    exact (read.of_infix part).spans (of_decide_eq_true real)
  refine (ordered.2.filter _).imp_of_mem fun {s s'} member member' apart => ?_
  obtain ⟨_, _, _, _, last, _, final, span, _⟩ := spans member
  obtain ⟨_, _, _, first, _, head, _, span', _⟩ := spans member'
  rw [span, span']
  exact apart last (List.mem_of_getLast? final) first (List.mem_of_mem_head? head)

end Tree.IsReadFrom

/-! ### Nodes of accepted texts -/

/-- The span of the tree has its source in the text, without the trivia around it, and the spans of
its slots are inside it, one behind the other. -/
structure Tree.Marks (text : String) (t : Tree) : Prop where
  first : t.first? = t.tokens.head?
  last : t.last? = t.tokens.getLast?
  bounds : t.span.start ≤ t.span.stop ∧ t.span.stop ≤ text.utf8ByteSize
  source : ∃ first last part, t.first? = some first ∧ t.last? = some last ∧
    t.span = ⟨first.span.start, last.span.stop⟩ ∧ t.span.Cuts text.toList part ∧
    t.span.slice text.toList = some part ∧
    t.source.toList = Trivia.chars first.leading ++ part ++ Trivia.chars last.trailing
  inside : ∀ slot ∈ t.slots, slot.tokens ≠ [] →
    t.span.start ≤ slot.span.start ∧ slot.span.stop ≤ t.span.stop
  apart : (t.slots.filter (·.tokens ≠ [])).Pairwise fun s s' => s.span.stop ≤ s'.span.start

theorem Span.Cuts.bounds {s : Span} {text part : List Char} (cuts : s.Cuts text part) :
    s.start ≤ s.stop ∧ s.stop ≤ byteLength text := by
  obtain ⟨front, after, rfl, rfl⟩ := cuts
  exact ⟨Nat.le_add_right _ _, by simp⟩

theorem Span.Cuts.slice_eq {s : Span} {text part : List Char} (cuts : s.Cuts text part) :
    s.slice text = some part := by
  obtain ⟨front, after, rfl, rfl⟩ := cuts
  exact Span.slice_append front part after

/-- Every node of an accepted text that has a token marks its source. -/
theorem accepted_node_marks {text : String} {tree : Tree} (accepts : Accepts text tree) {place : Place}
    (member : place ∈ tree.places []) (real : (node place.kind place.slots).tokens ≠ []) :
    (node place.kind place.slots).Marks text := by
  have read := accepts.isReadFrom.of_infix (tokens_infix_of_places member)
  obtain ⟨part, _, cuts, first, last, head, final, span, source⟩ := read.spans real
  have bounds := cuts.bounds
  rw [byteLength_toList] at bounds
  exact {
    first := first?_eq _
    last := last?_eq _
    bounds
    source := ⟨first, last, part, by rw [first?_eq, head], by rw [last?_eq, final], span, cuts,
      cuts.slice_eq, source⟩
    inside := fun slot found real =>
      read.span_inside (by rw [tokens_node]; exact tokens_infix_of_slot found) real
    apart := read.slots_apart }

/-- A sum with a comment in it and blanks around it. -/
theorem accepted_node_marks_sum : ∃ e, parseExpression " a /* b */ + c\n" = .ok e ∧
    ∃ place ∈ e.tree.places [], place.kind = .binary ∧
      (node place.kind place.slots).span = ⟨1, 14⟩ ∧
      (node place.kind place.slots).Marks " a /* b */ + c\n" := by
  obtain ⟨e, parsed⟩ := exists_of_isOk (x := parseExpression " a /* b */ + c\n") (by decide +kernel)
  have found : (parseExpression " a /* b */ + c\n").toOption.any (fun e =>
      (e.tree.places []).any fun place => place.kind == .binary &&
        decide ((node place.kind place.slots).span = ⟨1, 14⟩) &&
        (node place.kind place.slots).first?.isSome) = true := by
    decide +kernel
  rw [parsed] at found
  obtain ⟨place, member, held⟩ := List.any_eq_true.mp found
  simp only [Bool.and_eq_true, beq_iff_eq, decide_eq_true_eq, first?_eq, List.isSome_head?] at held
  obtain ⟨⟨kind, span⟩, real⟩ := held
  refine ⟨e, parsed, place, member, kind, span, ?_⟩
  exact accepted_node_marks (.expression parsed) member (by simpa using real)

end TransactSql
