import TransactSql.Proofs.Expr.Checked
import TransactSql.Proofs.Parser.Yield

/-!
# How runs end

A run over given tokens ends without a fault, or with the fault that its failure tells. No other
failure comes up, except where the tokens themselves give rise to it: a token that does not stand
for text is refused by tokens kept raw, and the words of external code are refused outright.
`Settles` says so of an outcome, together with what holds of the value. A rule is followed forwards,
part by part.
-/

namespace TransactSql

/-! ### Checks as Boolean tests -/

namespace Check

variable {node : NodeKind} {slot expected : String} {t lparen rparen : Token} {k : Keyword}

@[simp]
theorem isOk_token {accepted : Bool} : (token node slot t expected accepted).isOk = accepted := by
  cases accepted <;> rfl

@[simp]
theorem isOk_keyword : (keyword node slot t k).isOk = t.isKeyword k := isOk_token

@[simp]
theorem isOk_keyword? {found : Option Token} :
    (keyword? node slot found k).isOk = found.all (·.isKeyword k) := by
  cases found <;> simp [keyword?]

@[simp]
theorem isOk_kind {k : TokenKind} : (kind node slot t k expected).isOk = (t.kind == k) := isOk_token

@[simp]
theorem isOk_parens : (parens node lparen rparen).isOk =
    (lparen.kind == .leftParen && rparen.kind == .rightParen) := by
  simp [parens]

@[simp]
theorem isOk_terminator :
    (terminator node t).isOk = (t.isPlaceholder || t.kind == .semicolon) := isOk_token

@[simp]
theorem isOk_identifier : (identifier node slot t).isOk = t.isWord := isOk_token

@[simp]
theorem isOk_variableName : (variableName node slot t).isOk = t.isVariable := isOk_token

@[simp]
theorem isOk_optionalAs :
    (optionalAs node t).isOk = (t.isPlaceholder || t.isKeyword .AS) := isOk_token

/-- Both parentheses are there, or neither is. -/
def isParenPair (lparen rparen : Token) : Bool :=
  lparen.kind == .leftParen && rparen.kind == .rightParen ||
    lparen.isPlaceholder && rparen.isPlaceholder

theorem isOk_parenPair (paired : isParenPair lparen rparen = true) :
    (parenPair node lparen rparen).isOk = true := by
  simp only [isParenPair, Token.isPlaceholder, Bool.or_eq_true, Bool.and_eq_true, beq_iff_eq]
    at paired
  rcases paired with ⟨left, right⟩ | ⟨left, right⟩ <;>
    simp [parenPair, optionalKind, Token.isPlaceholder, left, right]

end Check

namespace Checked

@[simp]
theorem isOk_forM (check : α → Shaped Unit) (as : List α) :
    (forM as check).isOk = as.all fun a => (check a).isOk := by
  induction as with
  | nil => rfl
  | cons a as ih => simp [ih]

@[simp]
theorem isOk_tail {node : NodeKind} {slot : String} {k : Keyword} {t : Tail} :
    (tail node slot k t).isOk = t.keyword?.all (·.isKeyword k) := by
  cases t <;> simp [tail]

theorem isOk_leading {node : NodeKind} {slot : String} {k : Keyword} {clause : Option Clause}
    (led : clause.all (·.startsWith k) = true) : (leading node slot clause k).isOk = true := by
  cases clause with
  | none => rfl
  | some clause =>
    obtain ⟨keywords, body⟩ := clause
    cases keywords with
    | nil => rfl
    | cons first rest => simpa [leading, Clause.startsWith] using led

end Checked

/-! ### Outcomes -/

/-- The failure that an outcome tells. -/
def failure? : Except Failure α → Option Failure
  | .ok _ => none
  | .error f => some f

theorem eq_error_of_failure? {made : Except Failure α} {f : Failure}
    (h : failure? made = some f) : made = .error f := by
  cases made with
  | ok a => cases h
  | error g => rw [Option.some.inj h]

/-- A cursor without a fault whose tokens, read or not, are among `ts`. -/
structure Cursor.Stands (ts : List Token) (c : Cursor) : Prop extends c.Ready where
  ahead : c.ahead <:+ ts
  recorded : ∀ read ∈ c.recordings, ∀ t ∈ read, t ∈ ts

/-- Why a run over the tokens `ts` may fail, given the fault that it leaves. -/
def Failure.Excused (ts : List Token) (fault : Option Diagnostic) : Failure → Prop
  | .grammar x => fault = some x
  | .shape e => ∃ t ∈ ts, t.isSource = false ∧
      e = .unexpectedToken .rawTokens "tokens" "source token" t.kind.name
  | .unsupported _ =>
    ∃ a b, [a, b] <:+: ts ∧ a.isKeyword .EXTERNAL = true ∧ b.isKeyword .NAME = true
  | .mismatch _ _ => False

/-- The run leaves no fault and its value satisfies `Q`, or it fails for a good reason. -/
def Settles (ts : List Token) (Q : α → Prop) : EStateM.Result Failure Cursor α → Prop
  | .ok a d => d.Stands ts ∧ Q a
  | .error e d => d.clear.Stands ts ∧ e.Excused ts d.fault

namespace Cursor

variable {ts : List Token} {c : Cursor}

/-- A cursor without a fault stands in the tokens that are recorded and those ahead. -/
theorem Ready.stands (ready : c.Ready) : c.Stands (c.recordings.flatten ++ c.ahead) where
  fault := ready.fault
  eof := ready.eof
  ahead := List.suffix_append _ _
  recorded read member _ kept :=
    List.mem_append_left _ (List.mem_flatten.mpr ⟨read, member, kept⟩)

namespace Stands

theorem clear (stands : c.Stands ts) : c.clear.Stands ts := { stands with fault := rfl }

theorem skip (stands : c.Stands ts) (n : Nat) : (c.skip n).Stands ts := by
  have moved : c.skip n =
      { c with ahead := c.ahead.drop n, recordings := c.recordings.map (· ++ c.ahead.take n) } := by
    simp [Cursor.skip, stands.fault]
  rw [moved]
  refine ⟨⟨stands.fault, stands.eof⟩, (List.drop_suffix n c.ahead).trans stands.ahead, ?_⟩
  intro read member t kept
  obtain ⟨before, old, rfl⟩ := List.mem_map.mp member
  rcases List.mem_append.mp kept with earlier | passed
  · exact stands.recorded before old t earlier
  · exact stands.ahead.subset (List.mem_of_mem_take passed)

theorem advance (stands : c.Stands ts) : c.advance.Stands ts := by
  unfold Cursor.advance advance?
  split
  · exact stands
  · exact stands.skip 1

theorem setAssignment (stands : c.Stands ts) (assignment : Bool) :
    (c.setAssignment assignment).Stands ts := { stands with }

theorem beginRecording (stands : c.Stands ts) : c.beginRecording.Stands ts := by
  refine { stands with recorded := ?_ }
  intro read member
  cases member with
  | head => exact nofun
  | tail _ old => exact stands.recorded read old

theorem endRecording (stands : c.Stands ts) : c.endRecording.Stands ts :=
  { stands with recorded := fun read member => stands.recorded read (List.mem_of_mem_tail member) }

theorem recorded_mem (stands : c.Stands ts) : ∀ t ∈ c.recorded, t ∈ ts := by
  intro t member
  unfold Cursor.recorded at member
  cases open' : c.recordings with
  | nil =>
    rw [open'] at member
    cases member
  | cons read rest =>
    rw [open'] at member
    exact stands.recorded read (by simp [open']) t member

end Stands

theorem normalize_eq (c : Cursor) {t : Token} (plain : t.kind ≠ .comparison .eq) :
    c.normalize t = t := by
  simp [normalize, Token.asAssignment, plain]

theorem keyword?_normalize (c : Cursor) (t : Token) : (c.normalize t).keyword? = t.keyword? := by
  by_cases plain : t.kind = .comparison .eq
  · unfold normalize Token.asAssignment Token.keyword?
    split <;> simp [plain, TokenKind.keyword?]
  · rw [c.normalize_eq plain]

@[simp]
theorem isKeyword_normalize (c : Cursor) (t : Token) (k : Keyword) :
    (c.normalize t).isKeyword k = t.isKeyword k := by
  rw [Token.isKeyword, keyword?_normalize, Token.isKeyword]

@[simp]
theorem isAnyKeyword_normalize (c : Cursor) (t : Token) (ks : List Keyword) :
    (c.normalize t).isAnyKeyword ks = t.isAnyKeyword ks := by
  rw [Token.isAnyKeyword, keyword?_normalize, Token.isAnyKeyword]

/-- A token the grammar sees stands for text, or is one of `ts` as it is. -/
theorem normalize_known (c : Cursor) {t : Token} (member : t ∈ ts) :
    (c.normalize t).isSource = true ∨ c.normalize t ∈ ts := by
  cases source : t.isSource with
  | true => exact .inl ((isSource_normalize c t).trans source)
  | false =>
    have plain : t.kind ≠ .comparison .eq := by
      intro eq
      simp [Token.isSource, eq, TokenKind.isSource] at source
    rw [c.normalize_eq plain]
    exact .inr member

/-- The token behind the current one is current after it. -/
theorem current_advance (ready : c.Ready) (source : c.current.isSource = true) :
    c.advance.current = c.normalize c.lookahead := by
  obtain ⟨t, rest, ahead, _⟩ := exists_cons_of_isSource ready source
  simp [advance_eq ready ahead, current, ready.fault, rawCurrent, lookahead, ahead, normalize]

theorem isKeyword_setAssignment (ready : c.Ready) (assignment : Bool) (k : Keyword) :
    (c.setAssignment assignment).current.isKeyword k = c.current.isKeyword k := by
  rw [current_eq ready, current_eq (ready.setAssignment assignment), isKeyword_normalize,
    isKeyword_normalize]
  rfl

theorem kind_advance {k : TokenKind} (ready : c.Ready) (source : c.current.isSource = true)
    (next : c.lookahead.kind = k) (plain : k ≠ .comparison .eq) : c.advance.current.kind = k := by
  rw [current_advance ready source, c.normalize_eq (by rwa [next]), next]

theorem isKeyword_advance (ready : c.Ready) (source : c.current.isSource = true) (k : Keyword) :
    c.advance.current.isKeyword k = c.lookahead.isKeyword k := by
  rw [current_advance ready source, isKeyword_normalize]

theorem isAnyKeyword_advance (ready : c.Ready) (source : c.current.isSource = true)
    (ks : List Keyword) : c.advance.current.isAnyKeyword ks = c.lookahead.isAnyKeyword ks := by
  rw [current_advance ready source, isAnyKeyword_normalize]

end Cursor

namespace Settles

variable {ts : List Token} {c : Cursor}

theorem mono {P Q : α → Prop} {reply : EStateM.Result Failure Cursor α}
    (settles : Settles ts P reply) (weaker : ∀ a, P a → Q a) : Settles ts Q reply := by
  cases reply with
  | ok a d => exact ⟨settles.1, weaker a settles.2⟩
  | error e d => exact settles

theorem bind {p : Parser α} {k : α → Parser β} {P : α → Prop} {Q : β → Prop}
    (first : Settles ts P (p c)) (rest : ∀ a d, d.Stands ts → P a → Settles ts Q (k a d)) :
    Settles ts Q ((p >>= k) c) := by
  cases run : p c with
  | ok a d =>
    rw [run] at first
    rw [Parser.bind_of_ok k run]
    exact rest a d first.1 first.2
  | error e d =>
    rw [run] at first
    rw [Parser.bind_of_error k run]
    exact first

theorem pure {a : α} {Q : α → Prop} (stands : c.Stands ts) (given : Q a) :
    Settles ts Q ((Pure.pure a : Parser α) c) := ⟨stands, given⟩

end Settles

/-- Every run from a cursor that stands in `ts` settles. -/
class Parser.Settled (ts : List Token) (p : Parser α) (Q : outParam (α → Prop)) : Prop where
  settles : ∀ {c : Cursor}, c.Stands ts → Settles ts Q (p c)

namespace Settles

variable {ts : List Token} {c : Cursor}

theorem next {p : Parser α} {k : α → Parser β} {P : α → Prop} {Q : β → Prop}
    [settled : Parser.Settled ts p P] (stands : c.Stands ts)
    (rest : ∀ a d, d.Stands ts → P a → Settles ts Q (k a d)) : Settles ts Q ((p >>= k) c) :=
  (settled.settles stands).bind rest

theorem fail {f : Fault} {Q : α → Prop} (stands : c.Stands ts) :
    Settles ts Q ((Parser.fail f : Parser α) c) := ⟨stands.clear, rfl⟩

theorem fail_bind {f : Fault} {k : α → Parser β} {Q : β → Prop} (stands : c.Stands ts) :
    Settles ts Q (((Parser.fail f : Parser α) >>= k) c) := ⟨stands.clear, rfl⟩

theorem failExpected {what : String} {Q : α → Prop} (stands : c.Stands ts) :
    Settles ts Q ((Parser.failExpected what : Parser α) c) := ⟨stands.clear, rfl⟩

theorem failAtError {Q : α → Prop} (stands : c.Stands ts) :
    Settles ts Q ((Parser.failAtError : Parser α) c) := by
  unfold Parser.failAtError
  rw [Parser.get_bind, stands.fault]
  exact ⟨stands.clear, rfl⟩

theorem last {p : Parser α} {P Q : α → Prop} [settled : Parser.Settled ts p P]
    (stands : c.Stands ts) (weaker : ∀ a, P a → Q a) : Settles ts Q (p c) :=
  (settled.settles stands).mono weaker

end Settles

namespace Parser

variable {ts : List Token} {c : Cursor}

/-! ### Taking tokens -/

instance (p : Token → Bool) : Settled ts (eat p) fun found => found.all p = true where
  settles {c} stands := by
    show Settles ts _ (.ok (c.expect p "" false).1 (c.expect p "" false).2)
    unfold Cursor.expect
    split
    · next held =>
      rw [Bool.and_eq_true] at held
      exact ⟨stands.advance, held.2⟩
    · exact ⟨stands, rfl⟩

instance (k : Keyword) :
    Settled ts (eatKeyword k) fun found => found.all (·.isKeyword k) = true := by
  unfold eatKeyword; infer_instance

instance (ks : List Keyword) :
    Settled ts (eatAnyKeyword ks) fun found => found.all (·.isAnyKeyword ks) = true := by
  unfold eatAnyKeyword; infer_instance

instance (k : TokenKind) : Settled ts (eatKind k) fun found => found.all (·.kind == k) = true := by
  unfold eatKind; infer_instance

instance (p : Token → Bool) (what : String) : Settled ts (require p what) fun t => p t = true where
  settles {c} stands := by
    cases held : p c.current with
    | true =>
      have found : require p what c = .ok c.current c.advance := by
        simp [require, Cursor.expect, stands.fault, held]
      rw [found]
      exact ⟨stands.advance, held⟩
    | false =>
      unfold require Cursor.expect
      simp only [stands.fault, held]
      exact ⟨stands.clear, rfl⟩

instance (k : Keyword) : Settled ts (keyword k) fun t => t.isKeyword k = true := by
  unfold keyword; infer_instance

instance (k : TokenKind) (what : String) :
    Settled ts (kind k what) fun t => (t.kind == k) = true := by
  unfold kind; infer_instance

instance (what : String) : Settled ts (word what) fun t => t.isWord = true := by
  unfold word; infer_instance

instance (what : String) :
    Settled ts (identifier what) fun t => (t.isWord && !t.isReserved) = true := by
  unfold identifier; infer_instance

instance : Settled ts variableName fun t => t.isVariable = true := by
  unfold variableName; infer_instance

instance : Settled ts leftParen fun t => (t.kind == .leftParen) = true := by
  unfold leftParen; infer_instance

instance : Settled ts rightParen fun t => (t.kind == .rightParen) = true := by
  unfold rightParen; infer_instance

instance : Settled ts terminator fun t => (t.isPlaceholder || t.kind == .semicolon) = true where
  settles stands := by
    unfold terminator
    refine .next stands fun found d stands held => .pure stands ?_
    cases found with
    | none => rfl
    | some t => simp_all

instance : Settled ts optionalAs fun t => (t.isPlaceholder || t.isKeyword .AS) = true where
  settles stands := by
    unfold optionalAs
    refine .next stands fun found d stands held => .pure stands ?_
    cases found with
    | none => rfl
    | some t => simp_all

/-- The tokens of a run are those ahead as the context reads them, so each stands for text or is
one of `ts` as it is. -/
theorem takeRun_settles (extent : List Token → Nat) (stands : c.Stands ts) :
    Settles ts (fun read => read = (c.ahead.take (extent c.ahead)).map c.normalize ∧
      ∀ t ∈ read, t.isSource = true ∨ t ∈ ts) (takeRun extent c) := by
  rw [takeRun_of_ready stands.fault]
  refine ⟨stands.skip _, rfl, fun t member => ?_⟩
  obtain ⟨raw, passed, rfl⟩ := List.mem_map.mp member
  exact c.normalize_known (stands.ahead.subset (List.mem_of_mem_take passed))

instance (extent : List Token → Nat) :
    Settled ts (takeRun extent) fun read => ∀ t ∈ read, t.isSource = true ∨ t ∈ ts where
  settles stands := (takeRun_settles extent stands).mono fun _ => And.right

/-- Takes the tokens at the front that satisfy `p`, however the context reads them. -/
theorem takeWhile_settles {p : Token → Bool} (stands : c.Stands ts)
    (same : ∀ t, p (c.normalize t) = p t) (source : ∀ {t}, p t = true → t.isSource = true) :
    Settles ts (fun read => (∀ t ∈ read, p t = true) ∧ (p c.current = true → read ≠ []))
      (takeRun (fun ts => (ts.takeWhile p).length) c) := by
  have run : c.ahead.take (c.ahead.takeWhile p).length = c.ahead.takeWhile p :=
    (List.prefix_iff_eq_take.mp (List.takeWhile_prefix p)).symm
  rw [takeRun_of_ready stands.fault, run]
  refine ⟨stands.skip _, fun t member => ?_, fun held => ?_⟩
  · obtain ⟨raw, taken, rfl⟩ := List.mem_map.mp member
    rw [same]
    exact List.mem_takeWhile_imp taken
  · obtain ⟨t, rest, ahead, current⟩ := Cursor.exists_cons_of_isSource stands.toReady (source held)
    rw [current, same] at held
    simp [ahead, held]

/-! ### Making nodes -/

theorem settles_build {made : Shaped α} {a : α} [Shaped.Makes made a] {Q : α → Prop}
    (stands : c.Stands ts) (accepted : made.isOk = true) (given : Q a) :
    Settles ts Q (build made c) := by
  obtain ⟨b, built⟩ := exists_of_isOk accepted
  obtain rfl := Shaped.Makes.eq built
  rw [built]
  exact ⟨stands, given⟩

theorem settles_build_bind {made : Shaped α} {a : α} [Shaped.Makes made a] {k : α → Parser β}
    {Q : β → Prop} (accepted : made.isOk = true)
    (rest : Settles ts Q (k a c)) : Settles ts Q ((build made >>= k) c) := by
  obtain ⟨b, built⟩ := exists_of_isOk accepted
  obtain rfl := Shaped.Makes.eq built
  rw [built]
  exact rest

/-- Tokens are refused only for one of `ts` that does not stand for text. -/
theorem settles_rawTokens_bind {tokens : List Token} {k : RawTokens → Parser β} {Q : β → Prop}
    (stands : c.Stands ts) (known : ∀ t ∈ tokens, t.isSource = true ∨ t ∈ ts)
    (rest : Settles ts Q (k ⟨tokens⟩ c)) :
    Settles ts Q ((build (Checked.rawTokens tokens) >>= k) c) := by
  cases found : tokens.find? fun t => t.isPlaceholder || t.isEof || t.isError with
  | none =>
    have accepted : Checked.rawTokens tokens = .ok ⟨tokens⟩ := by rw [Checked.rawTokens, found]
    rw [accepted]
    exact rest
  | some bad =>
    have refused : Checked.rawTokens tokens =
        .error (.unexpectedToken .rawTokens "tokens" "source token" bad.kind.name) := by
      rw [Checked.rawTokens, found]
    have absent : bad.isSource = false := by
      have held := List.find?_some found
      rw [Bool.eq_false_iff]
      intro source
      simp [Token.isPlaceholder_of_isSource source, Token.not_isEof_of_isSource source,
        Token.isError_of_isSource source] at held
    have member := (known bad (List.mem_of_find?_eq_some found)).resolve_left (by simp [absent])
    rw [refused]
    exact ⟨stands.clear, bad, member, absent, rfl⟩

/-! ### Control -/

theorem settles_withAssignment {p : Parser α} {Q : α → Prop} {assignment : Bool}
    (inside : Settles ts Q (p (c.setAssignment assignment))) :
    Settles ts Q (withAssignment assignment p c) := by
  unfold withAssignment
  cases run : p (c.setAssignment assignment) with
  | ok a d =>
    rw [run] at inside
    exact ⟨inside.1.setAssignment _, inside.2⟩
  | error e d =>
    rw [run] at inside
    exact ⟨inside.1.setAssignment _, inside.2⟩

instance {p : Parser α} {Q : α → Prop} (assignment : Bool) [inside : Settled ts p Q] :
    Settled ts (withAssignment assignment p) Q where
  settles stands := settles_withAssignment (inside.settles (stands.setAssignment _))

theorem settles_recording {p : Parser α} {Q : α → Prop}
    (inside : Settles ts Q (p c.beginRecording)) : Settles ts Q (recording p c) := by
  unfold recording
  cases run : p c.beginRecording with
  | ok a d =>
    rw [run] at inside
    exact ⟨inside.1.endRecording, inside.2⟩
  | error e d =>
    rw [run] at inside
    exact ⟨inside.1.endRecording, inside.2⟩

instance {p : Parser α} {Q : α → Prop} [inside : Settled ts p Q] : Settled ts (recording p) Q where
  settles stands := settles_recording (inside.settles stands.beginRecording)

instance {p : Parser α} {Q : α → Prop} (f : Fault) [inside : Settled ts p Q] :
    Settled ts (context f p) Q where
  settles {c} stands := by
    have settles := inside.settles stands
    unfold context
    cases run : p c with
    | ok a d =>
      rw [run] at settles
      exact settles
    | error e d =>
      rw [run] at settles
      cases e with
      | grammar x => exact ⟨settles.1, rfl⟩
      | _ => exact settles

theorem settles_rounds (Inv : σ → Prop) {step : σ → Parser (Option σ)} {limit : Nat}
    (round : ∀ {s c}, c.Stands ts → Inv s →
      Settles ts (fun next => ∀ s', next = some s' → Inv s') (step s c))
    {s : σ} (stands : c.Stands ts) (start : Inv s) : Settles ts Inv (rounds step limit s c) := by
  induction limit generalizing s c with
  | zero => exact .pure stands start
  | succ limit ih =>
    refine (round stands start).bind fun next d stands kept => ?_
    cases next with
    | none => exact .pure stands start
    | some s' => exact ih stands (kept s' rfl)

/-- What every round keeps holds in the end. -/
theorem settles_loop (Inv : σ → Prop) {step : σ → Parser (Option σ)}
    (round : ∀ {s c}, c.Stands ts → Inv s →
      Settles ts (fun next => ∀ s', next = some s' → Inv s') (step s c))
    {s : σ} (stands : c.Stands ts) (start : Inv s) : Settles ts Inv (loop step s c) :=
  settles_rounds Inv round stands start

/-! ### Lists with commas -/

/-- Items that satisfy `P`, with a comma between each two. -/
structure CommaList (P : α → Prop) (read : List α × List Token) : Prop where
  length : read.2.length + 1 = read.1.length
  commas : ∀ s ∈ read.2, s.kind = .comma
  items : ∀ a ∈ read.1, P a

theorem commaTail_settles {item : Parser α} {P : α → Prop} [Settled ts item P] {first : α}
    (stands : c.Stands ts) (held : P first) :
    Settles ts (CommaList P) (commaTail first item c) := by
  have start : CommaList P ([first], []) := ⟨rfl, by simp, by simpa using held⟩
  refine settles_loop (CommaList P) (fun {read c} stands inv => ?_) stands start
  unfold commaItem
  refine .next stands fun comma d stands isComma => ?_
  cases comma with
  | none => exact .pure stands nofun
  | some comma =>
    refine .next stands fun a e stands held => .pure stands fun next same => ?_
    obtain rfl := Option.some.inj same
    simp only [Option.all_some, beq_iff_eq] at isComma
    refine ⟨by simp [← inv.length], ?_, ?_⟩
    · simpa [or_imp, forall_and, isComma] using inv.commas
    · simpa [or_imp, forall_and, held] using inv.items

instance {item : Parser α} {P : α → Prop} [Settled ts item P] :
    Settled ts (commaSeparated item) (CommaList P) where
  settles stands := by
    unfold commaSeparated
    exact .next stands fun first d stands held => commaTail_settles stands held

theorem CommaList.isOk {P : α → Prop} {items : List α} {separators : List Token}
    (list : CommaList P (items, separators)) (node : NodeKind) :
    (Checked.separated node items separators).isOk = true := by
  obtain ⟨length, commas, -⟩ := list
  have some : items.isEmpty = false := by
    cases items with
    | nil => cases length
    | cons => rfl
  have all : separators.all (·.kind == .comma) = true := by simpa using commas
  simp [Checked.separated, some, length, all]

/-- A list is made of items with commas between them, whatever kind of list it is. -/
theorem CommaList.isOk_bind {P : α → Prop} {items : List α} {separators : List Token}
    (list : CommaList P (items, separators)) {node : NodeKind}
    {make : List α × List Token → Shaped β} (made : ∀ read, (make read).isOk = true) :
    (Checked.separated node items separators >>= make).isOk = true := by
  obtain ⟨read, run⟩ := exists_of_isOk (list.isOk node)
  rw [run]
  exact made read

/-! ### Tokens kept raw -/

theorem readToCloseParen_settles (stands : c.clear.Stands ts) :
    Settles ts (fun read => (∀ t ∈ read.1, t ∈ ts) ∧ (read.2.kind == .rightParen) = true)
      (readToCloseParen c) := by
  unfold readToCloseParen
  rw [modify_bind, get_bind]
  cases distance : closingDistance? (openParens c.clear.recorded) c.clear.ahead with
  | none => exact .fail (stands.skip _)
  | some n =>
    obtain ⟨t, rest, closing, kind⟩ := closingDistance?_spec distance
    obtain ⟨_, ahead, fault⟩ := moved_skip_of_fault (c := c.clear) rfl n
    have current : (c.clear.skip n).current = t := by
      rw [Cursor.current_eq (stands.skip n).toReady, Cursor.normalize_eq]
      · simp [Cursor.rawCurrent, ahead, closing]
      · simp [Cursor.rawCurrent, ahead, closing, kind]
    simp only [modify_bind, get_bind, take_bind, current]
    exact .pure (stands.skip n).advance ⟨(stands.skip n).recorded_mem, by simp [kind]⟩

instance : Settled ts readToCloseParen
    fun read => (∀ t ∈ read.1, t ∈ ts) ∧ (read.2.kind == .rightParen) = true where
  settles stands := readToCloseParen_settles stands.clear

theorem readToEnd_settles (stands : c.clear.Stands ts) :
    Settles ts (fun read => (∀ t ∈ read.1, t ∈ ts) ∧ read.2.all (·.kind == .semicolon) = true)
      (readToEnd c) := by
  have toEnd := stands.skip c.ahead.length
  unfold readToEnd
  rw [modify_bind, get_bind]
  generalize c.clear.skip c.ahead.length = d at toEnd
  cases found : d.recorded.getLast? with
  | none => exact .pure toEnd ⟨toEnd.recorded_mem, rfl⟩
  | some t =>
    dsimp only
    split
    · next semicolon =>
      refine .pure toEnd ⟨fun u member => ?_, by simp [semicolon]⟩
      exact toEnd.recorded_mem u ((List.dropLast_subset _ member))
    · exact .pure toEnd ⟨toEnd.recorded_mem, rfl⟩

end Parser

end TransactSql
