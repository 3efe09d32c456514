import Mathlib.Data.List.TakeWhile
import TransactSql.Proofs.Parser.Reading

/-!
# Parsers that keep what they read

The value of such a parser holds every token of a successful run in its slots, in order. A rule
is followed part by part: `Reads.bind` puts the slots of the part behind those read so far.
-/

namespace TransactSql

/-- Every successful run reads just the tokens in the slots of its value. -/
class Parser.Yields (p : Parser α) (slots : outParam (α → List Tree)) : Prop where
  reads : ∀ {c d : Cursor} {a : α}, c.Ready → p c = .ok a d → c.Reads (slots a) d

open TransactSql.Parser

namespace Cursor.Reads

variable {b c d : Cursor} {slots : List Tree}

theorem next {p : Parser α} {f : α → List Tree} {a : α} [yields : Yields p f]
    (r : b.Reads slots c) (h : p c = .ok a d) : b.Reads (slots ++ f a) d :=
  r.trans (yields.reads r.ready h)

theorem bind {p : Parser α} {k : α → Parser β} {f : α → List Tree} {a : β} [Yields p f]
    (r : b.Reads slots c) (h : (p >>= k) c = .ok a d) :
    ∃ x e, b.Reads (slots ++ f x) e ∧ k x e = .ok a d := by
  obtain ⟨x, e, read, h⟩ := bind_ok h
  exact ⟨x, e, r.next read, h⟩

/-- Taking the current token reads it if it stands for text. -/
theorem take {k : Token → Parser β} {a : β} (r : b.Reads slots c) (source : c.current.isSource = true)
    (h : (Parser.take >>= k) c = .ok a d) :
    b.Reads (slots ++ [.token c.current]) c.advance ∧ k c.current c.advance = .ok a d :=
  ⟨r.trans (reads_advance r.ready source), h⟩

/-- A slot left empty. -/
theorem hole (r : b.Reads slots c) : b.Reads (slots ++ [.token .placeholder]) c :=
  r.of_tokens (by simp)

end Cursor.Reads

namespace Cursor

variable {c d : Cursor}

theorem Ready.setAssignment (ready : c.Ready) (assignment : Bool) :
    (c.setAssignment assignment).Ready := ⟨ready.fault, ready.eof⟩

theorem Ready.beginRecording (ready : c.Ready) : c.beginRecording.Ready := ⟨ready.fault, ready.eof⟩

theorem Reads.of_setAssignment {assignment : Bool} {slots : List Tree}
    (r : (c.setAssignment assignment).Reads slots d) :
    c.Reads slots (d.setAssignment c.assignment) := by
  obtain ⟨⟨raw, moved, read⟩, source, ready⟩ := r
  exact ⟨⟨raw, moved_setAssignment moved, read⟩, source, ready.setAssignment _⟩

theorem Reads.of_beginRecording {slots : List Tree} (r : c.beginRecording.Reads slots d) :
    c.Reads slots d.endRecording := by
  obtain ⟨⟨raw, moved, read⟩, source, ready⟩ := r
  exact ⟨⟨raw, moved_endRecording moved, read⟩, source, ready.fault, ready.eof⟩

/-- The token behind the current one is current after it. -/
theorem isSource_current_advance (ready : c.Ready) (source : c.current.isSource = true)
    (next : c.lookahead.isSource = true) : c.advance.current.isSource = true := by
  obtain ⟨t, rest, ahead, _⟩ := exists_cons_of_isSource ready source
  have raw : c.advance.rawCurrent = c.lookahead := by
    simp [advance_eq ready ahead, rawCurrent, lookahead, ahead]
  rw [current_eq (reads_advance ready source).ready, isSource_normalize, raw]
  exact next

/-- The context changes how the current token is read, not whether it stands for text. -/
theorem isSource_current_setAssignment (ready : c.Ready) (assignment : Bool) :
    (c.setAssignment assignment).current.isSource = c.current.isSource := by
  rw [current_eq ready, current_eq (ready.setAssignment assignment), isSource_normalize,
    isSource_normalize]
  rfl

end Cursor

namespace Parser

/-! ### Control -/

theorem withAssignment_ok {p : Parser α} {assignment : Bool} {c d : Cursor} {a : α}
    (h : withAssignment assignment p c = .ok a d) :
    ∃ e, d = e.setAssignment c.assignment ∧ p (c.setAssignment assignment) = .ok a e := by
  unfold withAssignment at h
  split at h
  · next run =>
    cases h
    exact ⟨_, rfl, run⟩
  · cases h

theorem recording_ok {p : Parser α} {c d : Cursor} {a : α} (h : recording p c = .ok a d) :
    ∃ e, d = e.endRecording ∧ p c.beginRecording = .ok a e := by
  unfold recording at h
  split at h
  · next run =>
    cases h
    exact ⟨_, rfl, run⟩
  · cases h

theorem context_ok {p : Parser α} {f : Fault} {c d : Cursor} {a : α} (h : context f p c = .ok a d) :
    p c = .ok a d := by
  unfold context at h
  split at h
  · exact absurd h fail_ok
  · exact h

/-- An attempt goes on with the value of a run that succeeds, and with the failure otherwise. -/
theorem attempt_bind (p : Parser α) (k : Except Failure α → Parser β) (c : Cursor) :
    (attempt p >>= k) c = match p c with
      | .ok a d => k (.ok a) d
      | .error e d => k (.error e) d := by
  simp only [Bind.bind, EStateM.bind, attempt]
  cases p c <;> rfl

/-- What is read in a context is read by the whole. -/
theorem reads_withAssignment {p : Parser α} {assignment : Bool} {b c d : Cursor} {a : α}
    {slots : List Tree} (r : b.Reads slots c) (h : withAssignment assignment p c = .ok a d) :
    ∃ e, (c.setAssignment assignment).Reads [] (c.setAssignment assignment)
      ∧ p (c.setAssignment assignment) = .ok a e
      ∧ ∀ {more}, (c.setAssignment assignment).Reads more e → b.Reads (slots ++ more) d := by
  obtain ⟨e, rfl, run⟩ := withAssignment_ok h
  exact ⟨e, .start (r.ready.setAssignment assignment), run, fun inside => r.trans inside.of_setAssignment⟩

/-- What is read inside a recording is read by the whole. -/
theorem reads_recording {p : Parser α} {b c d : Cursor} {a : α} {slots : List Tree}
    (r : b.Reads slots c) (h : recording p c = .ok a d) :
    ∃ e, c.beginRecording.Reads [] c.beginRecording ∧ p c.beginRecording = .ok a e
      ∧ ∀ {more}, c.beginRecording.Reads more e → b.Reads (slots ++ more) d := by
  obtain ⟨e, rfl, run⟩ := recording_ok h
  exact ⟨e, .start r.ready.beginRecording, run, fun inside => r.trans inside.of_beginRecording⟩

instance {p : Parser α} {f : α → List Tree} [Yields p f] (assignment : Bool) :
    Yields (withAssignment assignment p) f where
  reads ready h := by
    obtain ⟨e, inside, run, leave⟩ := reads_withAssignment (.start ready) h
    exact leave (inside.next run)

instance {p : Parser α} {f : α → List Tree} [yields : Yields p f] (x : Fault) :
    Yields (context x p) f where
  reads ready h := yields.reads ready (context_ok h)

/-- What every round of a loop preserves, whether it goes on or stops, holds at its end. -/
theorem rounds_invariant {step : σ → Parser (Option σ)} (Inv : σ → Cursor → Prop)
    (keep : ∀ {s c next d}, Inv s c → step s c = .ok next d → Inv (next.getD s) d) {limit : Nat}
    {s s' : σ} {c d : Cursor} (inv : Inv s c) (h : rounds step limit s c = .ok s' d) : Inv s' d := by
  induction limit generalizing s c with
  | zero =>
    unfold rounds at h
    obtain ⟨rfl, rfl⟩ := pure_ok h
    exact inv
  | succ limit ih =>
    unfold rounds at h
    obtain ⟨next, e, round, h⟩ := bind_ok h
    have inv' := keep inv round
    cases next with
    | none =>
      obtain ⟨rfl, rfl⟩ := pure_ok h
      exact inv'
    | some t => exact ih inv' h

theorem loop_invariant {step : σ → Parser (Option σ)} (Inv : σ → Cursor → Prop)
    (keep : ∀ {s c next d}, Inv s c → step s c = .ok next d → Inv (next.getD s) d) {s s' : σ}
    {c d : Cursor} (inv : Inv s c) (h : loop step s c = .ok s' d) : Inv s' d :=
  rounds_invariant Inv keep inv h

/-! ### Tokens -/

theorem yields_eat {p : Token → Bool} (source : ∀ {t}, p t = true → t.isSource = true) :
    Yields (eat p) Tree.optionalToken := by
  refine ⟨fun {c d a} ready h => ?_⟩
  rcases eat_ok h with ⟨rfl, accepted, rfl⟩ | ⟨rfl, rfl, _⟩
  · exact Cursor.reads_advance ready (source accepted)
  · exact .start ready

instance (k : Keyword) : Yields (eatKeyword k) Tree.optionalToken :=
  yields_eat Token.isSource_of_isKeyword

instance (ks : List Keyword) : Yields (eatAnyKeyword ks) Tree.optionalToken :=
  yields_eat Token.isSource_of_isAnyKeyword

instance : Yields (eatKind .comma) Tree.optionalToken := yields_eat (Token.isSource_of_kind rfl)

instance : Yields (eatKind .semicolon) Tree.optionalToken := yields_eat (Token.isSource_of_kind rfl)

instance : Yields (eatKind .leftParen) Tree.optionalToken := yields_eat (Token.isSource_of_kind rfl)

instance : Yields (eatKind .rightParen) Tree.optionalToken := yields_eat (Token.isSource_of_kind rfl)

instance (op : Option Arithmetic) : Yields (eatKind (.assignment op)) Tree.optionalToken :=
  yields_eat (Token.isSource_of_kind rfl)

theorem yields_require {p : Token → Bool} {what : String}
    (source : ∀ {t}, p t = true → t.isSource = true) :
    Yields (require p what) fun t => [.token t] := by
  refine ⟨fun {c d t} ready h => ?_⟩
  obtain ⟨rfl, accepted, rfl⟩ := require_ok h
  exact Cursor.reads_advance ready (source accepted)

instance (k : Keyword) : Yields (keyword k) fun t => [.token t] :=
  yields_require Token.isSource_of_isKeyword

instance : Yields leftParen fun t => [.token t] := yields_require (Token.isSource_of_kind rfl)

instance : Yields rightParen fun t => [.token t] := yields_require (Token.isSource_of_kind rfl)

instance (what : String) : Yields (word what) fun t => [.token t] :=
  yields_require Token.isSource_of_isWord

instance (what : String) : Yields (identifier what) fun t => [.token t] :=
  yields_require fun accepted => Token.isSource_of_isWord (Bool.and_eq_true _ _ ▸ accepted).1

instance : Yields variableName fun t => [.token t] := yields_require Token.isSource_of_isVariable

/-- A slot that is filled by an optional token or else by a placeholder. -/
theorem yields_getD {p : Parser (Option Token)} [Yields p Tree.optionalToken] :
    Yields (do return (← p).getD .placeholder) fun t => [.token t] := by
  refine ⟨fun {c d t} ready h => ?_⟩
  obtain ⟨found, e, r, h⟩ := (Cursor.Reads.start ready).bind h
  obtain ⟨rfl, rfl⟩ := pure_ok h
  cases found with
  | none => exact r.hole
  | some t => exact r

instance : Yields terminator fun t => [.token t] := yields_getD

instance : Yields optionalAs fun t => [.token t] := yields_getD

/-! ### Tokens kept raw -/

/-- Tokens passed over are read as they are if they stand for text. -/
theorem reads_of_moved {c d : Cursor} {raw : List Token} (moved : c.Moved raw d) (ready : d.Ready)
    (source : ∀ t ∈ raw, t.isSource = true) : c.Reads (Tree.tokenSlots raw) d := by
  refine ⟨⟨raw, moved, ?_⟩, ?_, ready⟩
  · rw [Tree.tokensOf_tokenSlots source]
    exact List.forall₂_same.mpr fun t _ => Or.inl rfl
  · rw [Tree.tokensOf_tokenSlots source]
    exact source

theorem moved_skip_of_fault {c : Cursor} (fault : c.fault = none) (n : Nat) :
    c.Moved (c.ahead.take n) (c.skip n) ∧ (c.skip n).ahead = c.ahead.drop n
      ∧ (c.skip n).fault = none := by
  have skip : c.skip n = { c with
      ahead := c.ahead.drop n
      recordings := c.recordings.map (· ++ c.ahead.take n) } := by
    simp [Cursor.skip, fault]
  rw [skip]
  exact ⟨⟨(List.take_append_drop n c.ahead).symm, rfl, rfl, rfl⟩, rfl, fault⟩

theorem takeRun_ok {extent : List Token → Nat} {c d : Cursor} {ts : List Token} (ready : c.Ready)
    (h : takeRun extent c = .ok ts d) :
    ts = (c.ahead.take (extent c.ahead)).map c.normalize ∧ d = c.skip (extent c.ahead) := by
  rw [takeRun_of_ready ready.fault] at h
  cases h
  exact ⟨rfl, rfl⟩

/-- The tokens of a run are read if they stand for text. -/
theorem takeRun_reads {extent : List Token → Nat} {c d : Cursor} {ts : List Token} (ready : c.Ready)
    (h : takeRun extent c = .ok ts d) (source : ∀ t ∈ ts, t.isSource = true) :
    c.Reads (Tree.tokenSlots ts) d := by
  obtain ⟨rfl, rfl⟩ := takeRun_ok ready h
  obtain ⟨moved, _, fault⟩ := moved_skip_of_fault ready.fault (extent c.ahead)
  refine ⟨⟨_, moved, ?_⟩, ?_, fault, moved.eof ▸ ready.eof⟩
  · rw [Tree.tokensOf_tokenSlots source, List.forall₂_map_right_iff]
    exact List.forall₂_same.mpr fun t _ => c.readAs_normalize t
  · rw [Tree.tokensOf_tokenSlots source]
    exact source

/-- A run of tokens that satisfy `p` is read if `p` tells tokens that stand for text. -/
theorem takeWhile_reads {p : Token → Bool} {c d : Cursor} {ts : List Token} (ready : c.Ready)
    (accepted : ∀ {t}, p t = true → t.isSource = true)
    (h : takeRun (fun ts => (ts.takeWhile p).length) c = .ok ts d) :
    c.Reads (Tree.tokenSlots ts) d := by
  refine takeRun_reads ready h ?_
  obtain ⟨rfl, _⟩ := takeRun_ok ready h
  intro t member
  obtain ⟨u, taken, rfl⟩ := List.mem_map.mp member
  have run : c.ahead.take (c.ahead.takeWhile p).length = c.ahead.takeWhile p :=
    (List.prefix_iff_eq_take.mp (List.takeWhile_prefix p)).symm
  rw [run] at taken
  rw [Cursor.isSource_normalize]
  exact accepted (List.mem_takeWhile_imp taken)

theorem closingDistance?_spec {depth n : Nat} {ts : List Token} (h : closingDistance? depth ts = some n) :
    ∃ t rest, ts.drop n = t :: rest ∧ t.kind = .rightParen := by
  fun_induction closingDistance? depth ts generalizing n with
  | case1 => cases h
  | case2 t ts closes =>
    cases h
    exact ⟨t, ts, rfl, closes⟩
  | case3 _ _ _ _ ih | case4 _ _ _ _ ih | case5 _ _ _ _ _ _ ih =>
    obtain ⟨m, found, rfl⟩ := Option.map_eq_some_iff.mp h
    exact ih found

/-- The tokens of a recording that has just begun at `b`. -/
theorem recorded_of_moved {b c : Cursor} {raw : List Token} (moved : b.beginRecording.Moved raw c) :
    c.recorded = raw := by
  rw [Cursor.recorded, moved.recordings]
  rfl

/-- The recorded tokens are all that was read since the recording began, by whatever parser. -/
theorem readToCloseParen_reads {b c d : Cursor} {raw tokens : List Token} {rparen : Token}
    (moved : b.beginRecording.Moved raw c) (eof : b.eof.isEof = true)
    (h : readToCloseParen c = .ok (tokens, rparen) d) (source : ∀ t ∈ tokens, t.isSource = true) :
    b.beginRecording.Reads (Tree.tokenSlots tokens ++ [.token rparen]) d := by
  have cleared := moved.trans c.moved_clear
  unfold readToCloseParen at h
  simp only [modify_bind, get_bind] at h
  cases distance : closingDistance? (openParens c.clear.recorded) c.clear.ahead with
  | none =>
    rw [distance] at h
    obtain ⟨_, _, _, h⟩ := bind_ok h
    exact absurd h fail_ok
  | some n =>
    rw [distance] at h
    simp only [modify_bind, get_bind, take_bind] at h
    obtain ⟨t, rest, closing, kind⟩ := closingDistance?_spec distance
    obtain ⟨skipped, ahead, fault⟩ := moved_skip_of_fault (c := c.clear) rfl n
    have toEnd := cleared.trans skipped
    have ready : (c.clear.skip n).Ready := ⟨fault, toEnd.eof ▸ eof⟩
    have close : (c.clear.skip n).current.isSource = true := by
      rw [Cursor.current_eq ready, Cursor.isSource_normalize]
      simp [Cursor.rawCurrent, ahead, closing, Token.isSource, kind, TokenKind.isSource]
    rw [recorded_of_moved toEnd] at h
    cases h
    exact (reads_of_moved toEnd ready source).trans (Cursor.reads_advance ready close)

theorem readToEnd_reads {b c d : Cursor} {raw tokens : List Token} {last : Option Token}
    (moved : b.beginRecording.Moved raw c) (eof : b.eof.isEof = true)
    (h : readToEnd c = .ok (tokens, last) d) (source : ∀ t ∈ tokens, t.isSource = true) :
    b.beginRecording.Reads (Tree.tokenSlots tokens ++ Tree.optionalToken last) d := by
  obtain ⟨skipped, _, fault⟩ := moved_skip_of_fault (c := c.clear) rfl c.ahead.length
  have toEnd := (moved.trans c.moved_clear).trans skipped
  have ready : (c.clear.skip c.ahead.length).Ready := ⟨fault, toEnd.eof ▸ eof⟩
  unfold readToEnd at h
  simp only [modify_bind, get_bind] at h
  rw [recorded_of_moved toEnd] at h
  generalize raw ++ [] ++ c.clear.ahead.take c.ahead.length = all at toEnd h
  cases found : all.getLast? with
  | none =>
    rw [found] at h
    cases h
    exact (reads_of_moved toEnd ready source).of_tokens (by simp [Tree.optionalToken])
  | some t =>
    rw [found] at h
    dsimp only at h
    split at h
    · next semicolon =>
      cases h
      have parts := List.dropLast_append_getLast? t found
      have sources : ∀ u ∈ all, u.isSource = true := by
        intro u member
        rw [← parts] at member
        rcases List.mem_append.mp member with before | final
        · exact source u before
        · rw [List.mem_singleton.mp final]
          exact Token.isSource_of_kind rfl (beq_iff_eq.mpr semicolon)
      refine (reads_of_moved toEnd ready sources).of_tokens ?_
      conv => rhs; rw [← parts]
      simp [Tree.tokenSlots, Tree.optionalToken]
    · cases h
      exact (reads_of_moved toEnd ready source).of_tokens (by simp [Tree.optionalToken])

/-! ### Comma lists -/

theorem interleave_concat {items : List Tree} {separators : List Token} (item : Tree) (s : Token)
    (lengths : separators.length + 1 = items.length) :
    Tree.interleave (items ++ [item]) (separators ++ [s])
      = Tree.interleave items separators ++ [.token s, item] := by
  fun_induction Tree.interleave items separators with
  | case1 first next items t ts ih =>
    have rest : ts.length + 1 = (next :: items).length := by
      simp only [List.length_cons] at lengths ⊢
      omega
    simp only [List.cons_append, Tree.interleave] at ih ⊢
    rw [ih rest]
  | case2 items ts none =>
    obtain ⟨first, rfl⟩ | ⟨first, next, items, rfl⟩ :
        (∃ first, items = [first]) ∨ ∃ first next rest, items = first :: next :: rest := by
      match items with
      | [] => simp at lengths
      | [first] => exact .inl ⟨first, rfl⟩
      | first :: next :: rest => exact .inr ⟨first, next, rest, rfl⟩
    · have empty : ts = [] := by simpa using lengths
      subst empty
      rfl
    · cases ts with
      | nil => simp at lengths
      | cons t ts => exact absurd rfl (none first next items t ts rfl)

/-- Items and commas that have been read. -/
def ReadItems (b : Cursor) (f : α → Tree) (read : List α × List Token) (c : Cursor) : Prop :=
  read.2.length + 1 = read.1.length ∧ b.Reads (Tree.interleave (read.1.map f) read.2) c

theorem commaItem_reads {item : Parser α} {f : α → Tree} [Yields item fun a => [f a]] {b c d : Cursor}
    {read : List α × List Token} {next : Option (List α × List Token)} (items : ReadItems b f read c)
    (h : commaItem item read c = .ok next d) : ReadItems b f (next.getD read) d := by
  obtain ⟨lengths, r⟩ := items
  unfold commaItem at h
  obtain ⟨comma, e, r, h⟩ := r.bind h
  cases comma with
  | none =>
    obtain ⟨rfl, rfl⟩ := pure_ok h
    exact ⟨lengths, r.of_tokens (by simp [Tree.optionalToken])⟩
  | some comma =>
    obtain ⟨a, e, r, h⟩ := r.bind h
    obtain ⟨rfl, rfl⟩ := pure_ok h
    refine ⟨by simpa using lengths, ?_⟩
    rw [Option.getD_some, List.map_append, List.map_singleton,
      interleave_concat _ _ (by simpa using lengths)]
    exact r.of_tokens (by simp [Tree.optionalToken])

theorem commaTail_reads {item : Parser α} {f : α → Tree} [Yields item fun a => [f a]] {b c d : Cursor}
    {first : α} {read : List α × List Token} (r : b.Reads [f first] c)
    (h : commaTail first item c = .ok read d) :
    b.Reads (Tree.interleave (read.1.map f) read.2) d := by
  have start : ReadItems b f ([first], []) c := ⟨rfl, r⟩
  exact (loop_invariant (ReadItems b f) commaItem_reads start h).2

instance {item : Parser α} {f : α → Tree} [Yields item fun a => [f a]] :
    Yields (commaSeparated item) fun read => Tree.interleave (read.1.map f) read.2 where
  reads ready h := by
    unfold commaSeparated at h
    obtain ⟨first, e, r, h⟩ := (Cursor.Reads.start ready).bind h
    exact commaTail_reads r h

end Parser

theorem Cursor.Reads.takeRun {extent : List Token → Nat} {b c d : Cursor} {slots : List Tree}
    {ts : List Token} (r : b.Reads slots c) (h : Parser.takeRun extent c = .ok ts d)
    (source : ∀ t ∈ ts, t.isSource = true) : b.Reads (slots ++ Tree.tokenSlots ts) d :=
  r.trans (takeRun_reads r.ready h source)

end TransactSql
