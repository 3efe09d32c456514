import TransactSql.Proofs.Grammar.External
import TransactSql.Proofs.Grammar.StatementSettling
import TransactSql.Proofs.Likeness.Indifference
import TransactSql.Proofs.Parser.Passing

/-!
# Every body of a procedure is read

A body that does not follow the grammar is kept as its tokens, so behind the `AS` of a procedure any
tokens may stand. The header is read in the same way whatever they are, for it is local. What can
still be refused is external code.
-/

namespace TransactSql

open TransactSql.Parser

/-! ### The end of input -/

theorem Parser.expectEnd_of_isEof {c : Cursor} (ended : c.current.isEof = true) :
    expectEnd c = .ok () c := by
  unfold expectEnd
  rw [atEnd_bind, ended]
  rfl

theorem Cursor.isEof_of_nil {c : Cursor} (ready : c.Ready) (ahead : c.ahead = []) :
    c.current.isEof = true := by
  rw [current_eq ready, isEof_normalize, rawCurrent, ahead]
  exact ready.eof

theorem Cursor.ahead_of_isEof {c : Cursor} (ready : c.Ready)
    (others : ∀ t ∈ c.ahead, t.isEof = false) (ended : c.current.isEof = true) : c.ahead = [] :=
  expectEnd_ok ready others (expectEnd_of_isEof ended)

theorem Cursor.isEof_of_cons {c : Cursor} {t : Token} {rest : List Token} (ready : c.Ready)
    (ahead : c.ahead = t :: rest) : c.current.isEof = t.isEof := by
  rw [current_eq ready, isEof_normalize, rawCurrent, ahead]
  rfl

theorem Cursor.Reads.length_eq {c d : Cursor} {slots : List Tree} (r : c.Reads slots d) :
    c.ahead.length = (Tree.tokensOf slots).length + d.ahead.length := by
  obtain ⟨raw, moved, read⟩ := r.moved
  rw [moved.ahead, List.length_append, read.length_eq]

namespace Grammar

/-! ### Sequences of statements -/

section

variable {statement : Parser Statement} {c d : Cursor}

/-- The statements that have been read stay. -/
theorem statements_grow {limit : Nat} {ss read : List Statement}
    (h : rounds (moreStatements statement) limit ss c = .ok read d) : ss <+: read := by
  refine rounds_invariant (fun now _ => ss <+: now) (fun {now c next d} grown round => ?_)
    (List.prefix_refl ss) h
  unfold moreStatements at round
  rw [atEnd_bind] at round
  split at round
  · cases round
    exact grown
  · obtain ⟨s, e, _, round⟩ := bind_ok round
    cases round
    exact grown.trans (List.prefix_append now [s])

theorem statement_of_statements {s : Statement} (h : statements statement c = .ok [s] d) :
    statement c = .ok s d := by
  unfold statements loop at h
  rw [get_bind] at h
  unfold rounds at h
  obtain ⟨next, e, round, h⟩ := bind_ok h
  unfold moreStatements at round
  rw [atEnd_bind] at round
  split at round
  · cases round
    cases h
  · obtain ⟨first, f, run, round⟩ := bind_ok round
    cases round
    generalize c.ahead.length = limit at h
    cases limit with
    | zero =>
      cases h
      exact run
    | succ limit =>
      unfold rounds at h
      obtain ⟨next, g, round, h⟩ := bind_ok h
      unfold moreStatements at round
      rw [atEnd_bind] at round
      split at round
      · cases round
        cases h
        exact run
      · obtain ⟨second, g', _, round⟩ := bind_ok round
        cases round
        have grown := (statements_grow h).length_le
        simp at grown

theorem statements_of_statement {s : Statement} (started : c.current.isEof = false)
    (run : statement c = .ok s d) (ended : d.current.isEof = true) :
    statements statement c = .ok [s] d := by
  have first : moreStatements statement [] c = .ok (some [s]) d := by
    unfold moreStatements
    rw [atEnd_bind, started, if_neg (by decide), bind_of_ok _ run]
    rfl
  have second : moreStatements statement [s] d = .ok none d := by
    unfold moreStatements
    rw [atEnd_bind, ended]
    rfl
  unfold statements loop
  rw [get_bind]
  unfold rounds
  rw [bind_of_ok _ first]
  dsimp only
  cases c.ahead.length with
  | zero => rfl
  | succ limit =>
    unfold rounds
    rw [bind_of_ok _ second]
    rfl

theorem statements_of_error {f : Failure} (started : c.current.isEof = false)
    (run : statement c = .error f d) : statements statement c = .error f d := by
  have first : moreStatements statement [] c = .error f d := by
    unfold moreStatements
    rw [atEnd_bind, started, if_neg (by decide), bind_of_error _ run]
  unfold statements loop
  rw [get_bind]
  unfold rounds
  rw [bind_of_error _ first]

end

/-! ### Recovery -/

/-- The parser does not fail for a fault of the text. -/
class Faultless (p : Parser α) : Prop where
  never : ∀ {c d : Cursor} {x : Diagnostic}, p c ≠ .error (.grammar x) d

instance (a : α) : Faultless (pure a : Parser α) := ⟨nofun⟩

instance (made : Shaped α) : Faultless (build made) where
  never := by cases made <;> exact nofun

instance {p : Parser α} {f : α → Parser β} [first : Faultless p] [rest : ∀ a, Faultless (f a)] :
    Faultless (p >>= f) where
  never {c d x} h := by
    cases run : p c with
    | ok a e =>
      rw [bind_of_ok f run] at h
      exact (rest a).never h
    | error failure e =>
      rw [bind_of_error f run] at h
      cases h
      exact first.never run

instance {b : Prop} [Decidable b] {p q : Parser α} [Faultless p] [Faultless q] :
    Faultless (if b then p else q) := by
  split <;> infer_instance

instance (tokens : List Token) (terminator : Token) :
    Faultless (rawStatement tokens terminator) := by
  unfold rawStatement; infer_instance

instance (tokens : List Token) : Faultless (recoveredStatements tokens) := by
  unfold recoveredStatements; infer_instance

/-- A `BEGIN` and an `END` are two tokens, so a body that has them is a block. -/
theorem recoveredBody_faultless {tokens : List Token} (some : tokens ≠ []) (last : Option Token) :
    Faultless (recoveredBody tokens last) := by
  unfold recoveredBody
  split
  · next words =>
    rw [Bool.and_eq_true] at words
    have block : Faultless (recoveredBlock tokens last) := by
      match tokens with
      | [] => exact absurd rfl some
      | [only] =>
        have isBegin := Token.isKeyword_iff.mp words.1
        simp [Token.isKeyword, Token.keyword?_eq_some_iff.mpr isBegin] at words
      | first :: second :: rest =>
        have isBegin : first.isKeyword .BEGIN = true := words.1
        obtain ⟨final, found⟩ : ∃ final, (second :: rest).getLast? = .some final :=
          Option.isSome_iff_exists.mp (by simp)
        have isEnd : final.isKeyword .END = true := by
          simpa [List.getLast?_cons_cons, found] using words.2
        unfold recoveredBlock
        simp only [List.head?_cons, List.tail_cons, found, isBegin, isEnd, Bool.not_true,
          Bool.or_self, Bool.false_eq_true, if_false]
        infer_instance
    infer_instance
  · rw [if_neg (by simpa using some)]
    infer_instance

section

variable {statement : Parser Statement} [Framed statement] {depth : Nat} {c d : Cursor}

omit [Framed statement] in
theorem procedureBody_eq (started : c.current.isEof = false) :
    procedureBody statement c = recovering (statements statement) recoveredBody c := by
  unfold procedureBody
  rw [atEnd_bind, started]
  rfl

/-- A lone `;` is a statement. -/
theorem statements_of_semicolon (depth : Nat) {t : Token} (ready : c.Ready) (ahead : c.ahead = [t])
    (semicolon : t.kind = .semicolon) :
    ∃ ss d, statements (Parser.statement (depth + 1)) c = .ok ss d := by
  have source : t.isSource = true := Token.isSource_of_kind_eq rfl semicolon
  have current : c.current = t := by
    rw [Cursor.current_eq ready, Cursor.rawCurrent, ahead]
    exact c.normalize_eq (by simp [semicolon])
  have made : Checked.empty t = .ok (.empty t) := by
    simp [Checked.empty, Check.kind, Check.token, semicolon]
  have run : Parser.statement (depth + 1) c = .ok (.empty t) c.advance := by
    unfold Parser.statement anyStatement
    rw [current_bind, current, semicolon]
    dsimp only
    rw [take_bind, current, made]
    rfl
  have read := Cursor.reads_advance ready (current ▸ source)
  have rest : c.advance.ahead = [] := by
    rw [Cursor.advance_eq ready ahead]
  have ended := Cursor.isEof_of_nil read.ready rest
  have started : c.current.isEof = false := current ▸ Token.not_isEof_of_isSource source
  exact ⟨_, _, statements_of_statement started run ended⟩

theorem procedureBody_accepts (ready : c.Ready) (some : c.ahead ≠ [])
    (started : c.current.isEof = false) {x : Diagnostic} :
    procedureBody (Parser.statement (depth + 1)) c ≠ .error (.grammar x) d := by
  intro h
  rw [procedureBody_eq started] at h
  have ending := recovering_ends (statements (Parser.statement (depth + 1))) recoveredBody c
  rw [h] at ending
  cases ending with
  | refused run other => exact other x rfl
  | @lost _ _ _ _ _ tokens last run all ends made =>
    cases tokens with
    | cons t rest => exact (recoveredBody_faultless (List.cons_ne_nil t rest) last).never made
    | nil =>
      -- The grammar accepts a body that is just a `;`.
      cases last with
      | none => exact some all
      | some t =>
        obtain ⟨ss, e, accepted⟩ :=
          statements_of_semicolon depth ready.beginRecording all (by simpa using ends)
        rw [run] at accepted
        cases accepted

omit [Framed statement] in
/-- Statements are read up to the end of input. -/
theorem statements_ahead [Yields statement fun s => [s.tree]] [Consumes statement] (ready : c.Ready)
    (others : ∀ t ∈ c.ahead, t.isEof = false) {ss : List Statement}
    (h : statements statement c = .ok ss d) : d.ahead = [] := by
  refine loop_exit (fun ss e => c.Reads (ss.map Statement.tree) e) (fun _ e => e.ahead = [])
    (fun r round => ?_) (fun {ss e f} r round => ?_) (.start ready) h
  · exact ⟨moreStatements_reads statement r round, Advances.shortens r.ready.eof round⟩
  · unfold moreStatements at round
    rw [atEnd_bind] at round
    split at round
    · next ended =>
      cases round
      obtain ⟨raw, moved, _⟩ := r.moved
      refine Cursor.ahead_of_isEof r.ready (fun t member => others t ?_) ended
      rw [moved.ahead]
      exact List.mem_append_right raw member
    · obtain ⟨s, g, _, round⟩ := bind_ok round
      cases round

/-- Nothing follows the body of a procedure. -/
theorem procedureBody_ahead [Yields statement fun s => [s.tree]] [Consumes statement]
    (ready : c.Ready) (others : ∀ t ∈ c.ahead, t.isEof = false) (started : c.current.isEof = false)
    {body : List Statement} (h : procedureBody statement c = .ok body d) : d.ahead = [] := by
  rw [procedureBody_eq started] at h
  have ending := recovering_ends (statements statement) recoveredBody c
  rw [h] at ending
  cases ending with
  | @read _ e run =>
    have rest : e.ahead = [] := statements_ahead ready.beginRecording others run
    exact rest
  | kept run all ends rest made =>
    obtain ⟨rfl, _⟩ := recoveredBody_rebuilds made
    exact rest

/-- Whatever tokens follow, they are the body, unless a routine among them is refused. -/
theorem procedureBody_total (depth : Nat) (stands : c.Stands c.ahead)
    (source : ∀ t ∈ c.ahead, t.isSource = true) (some : c.ahead ≠ []) :
    (∃ body d, procedureBody (Parser.statement (depth + 1)) c = .ok body d ∧ d.Ready ∧
      d.ahead = [] ∧ List.Forall₂ Token.ReadAs c.ahead (Statement.listTree body).tokens) ∨
    (∃ d, procedureBody (Parser.statement (depth + 1)) c = .error (.unsupported "CLR routine") d ∧
      HasExternalRoutine c.ahead) := by
  have ready := stands.toReady
  have others : ∀ t ∈ c.ahead, t.isEof = false := fun t member =>
    Token.not_isEof_of_isSource (source t member)
  have started : c.current.isEof = false := by
    obtain ⟨t, rest, ahead⟩ := List.exists_cons_of_ne_nil some
    rw [Cursor.isEof_of_cons ready ahead]
    exact others t (by simp [ahead])
  have settles : Settles c.ahead _ (procedureBody (Parser.statement (depth + 1)) c) :=
    Settled.settles stands
  cases run : procedureBody (Parser.statement (depth + 1)) c with
  | ok body d =>
    have rest := procedureBody_ahead ready others started run
    obtain ⟨⟨raw, moved, read⟩, _, ready'⟩ := Yields.reads ready run
    have all := moved.ahead
    rw [rest, List.append_nil] at all
    refine .inl ⟨body, d, rfl, ready', rest, ?_⟩
    rw [all]
    simpa [Statement.listTree] using read
  | error f d =>
    rw [run] at settles
    cases f with
    | grammar x => exact absurd run (procedureBody_accepts ready some started)
    | shape e =>
      obtain ⟨t, member, absent, _⟩ := settles.2
      rw [source t member] at absent
      cases absent
    | mismatch => exact settles.2.elim
    | unsupported what =>
      obtain ⟨rfl, external⟩ := Rejects.external (P := HasExternalRoutine) ready.eof run
      exact .inr ⟨d, rfl, external⟩

end

/-! ### From the `AS` on -/

/-- The tokens start with the words of external code. -/
def startsExternal : List Token → Bool
  | a :: b :: _ => a.isKeyword .EXTERNAL && b.isKeyword .NAME
  | _ => false

theorem rejectExternal_of_ahead {c : Cursor} (ready : c.Ready)
    (inside : startsExternal c.ahead = false) : rejectExternal c = .ok () c := by
  unfold rejectExternal
  rw [atKeywords_bind]
  split
  · next both =>
    rw [Bool.and_eq_true] at both
    obtain ⟨a, b, rest, ahead, isExternal, isName⟩ :=
      exists_ahead_of_keywords ready.stands both.1 both.2
    rw [ahead, startsExternal, isExternal, isName] at inside
    cases inside
  · rfl

/-- Whether the parts of a procedure fit does not depend on its body. -/
theorem isOk_createProcedure (header : ProcedureHeader) (body body' : List Statement) :
    (Checked.createProcedure header body).isOk = (Checked.createProcedure header body').isOk := by
  simp [Checked.createProcedure]

section

variable {statement : Parser Statement} {front : Token → ProcedureHeader} {c d : Cursor}

theorem procedureRest_ok {s : Statement} (h : procedureRest statement front c = .ok s d) :
    c.current.isKeyword .AS = true ∧ ∃ body, procedureBody statement c.advance = .ok body d ∧
      s = .createProcedure (front c.current) body ∧
      (Checked.createProcedure (front c.current) body).isOk = true := by
  unfold procedureRest at h
  obtain ⟨asToken, e, word, h⟩ := bind_ok h
  obtain ⟨rfl, isAs, rfl⟩ := require_ok word
  obtain ⟨body, f, read, made⟩ := bind_ok (rejectExternal_bind_ok h)
  have shaped : (Checked.createProcedure (front c.current) body).isOk = true := by
    cases ok : Checked.createProcedure (front c.current) body with
    | ok s => rfl
    | error e =>
      rw [ok] at made
      cases made
  obtain ⟨rfl, rfl⟩ := build_ok made
  exact ⟨isAs, body, read, rfl, shaped⟩

theorem procedureRest_eq (ready : c.Ready) (isAs : c.current.isKeyword .AS = true)
    (inside : startsExternal c.advance.ahead = false) :
    procedureRest statement front c = (procedureBody statement >>= fun body =>
      build (Checked.createProcedure (front c.current) body)) c.advance := by
  have word : keyword .AS c = .ok c.current c.advance := by
    simp [keyword, require, Cursor.expect, ready.fault, isAs]
  have ready' := (Cursor.reads_advance ready (Token.isSource_of_isKeyword isAs)).ready
  unfold procedureRest
  rw [bind_of_ok _ word, bind_of_ok _ (rejectExternal_of_ahead ready' inside)]

end

/-- A procedure is read in its two parts. -/
theorem statement_procedure {depth : Nat} {c d : Cursor} {header : ProcedureHeader}
    {body : List Statement}
    (h : Parser.statement (depth + 1) c = .ok (.createProcedure header body) d) :
    c.current.isAnyKeyword [.CREATE, .ALTER] = true ∧
      ∃ front e, procedureStart (Parser.expr depth) c = .ok (some front) e ∧
        procedureRest (Parser.statement depth) front e = .ok (.createProcedure header body) d := by
  obtain ⟨isCreate, created⟩ := anyStatement_procedure h rfl
  exact ⟨isCreate, create_procedure created rfl⟩

theorem statement_of_start {depth : Nat} {c d : Cursor} {front : Token → ProcedureHeader}
    (isCreate : c.current.isAnyKeyword [.CREATE, .ALTER] = true)
    (h : procedureStart (Parser.expr depth) c = .ok (some front) d) :
    Parser.statement (depth + 1) c = procedureRest (Parser.statement depth) front d :=
  (anyStatement_of_create isCreate).trans (create_of_start h)

theorem length_createProcedure (header : ProcedureHeader) (body : List Statement) :
    (Tree.tokensOf [(Statement.createProcedure header body).tree]).length =
      (Tree.tokensOf header.slots).length + (Tree.tokensOf (body.map Statement.tree)).length := by
  rw [Statement.tree]
  generalize header.slots = slots
  simp [Statement.slotsOf_eq]

/-- Up to its `AS` a procedure is read whatever stands behind, and with the same header. -/
theorem statement_redirect {depth : Nat} {before rest other : List Token} {eof : Token}
    {header : ProcedureHeader} {body : List Statement} {d : Cursor}
    (h : Parser.statement (depth + 1) { ahead := before ++ rest, eof } =
      .ok (.createProcedure header body) d) (isEof : eof.isEof = true)
    (ends : (Tree.tokensOf header.slots).length = before.length)
    (inside : startsExternal other = false) :
    ∃ e : Cursor, e.Ready ∧ e.ahead = other ∧ e.recordings = [] ∧
      (∀ body', (Checked.createProcedure header body').isOk = true) ∧
      Parser.statement (depth + 1) { ahead := before ++ other, eof } =
        (procedureBody (Parser.statement depth) >>= fun body' =>
          build (Checked.createProcedure header body')) e := by
  obtain ⟨isCreate, front, e, start, made⟩ := statement_procedure h
  obtain ⟨isAs, body', read, same, shaped⟩ := procedureRest_ok made
  cases same
  have starts : Local (procedureStart (Parser.expr depth)) := inferInstance
  obtain ⟨raw, moved⟩ := starts.framed.ok start
  have source := Token.isSource_of_isKeyword isAs
  have ready := Cursor.ready_of_isSource (moved.eof ▸ isEof) source
  obtain ⟨t, more, ahead, current⟩ := Cursor.exists_cons_of_isSource ready source
  have ahead' : e.advance.ahead = more := by rw [Cursor.advance_eq ready ahead]
  -- The tokens of the header are those up to the `AS`.
  have parts : raw ++ [t] = before ∧ more = rest := by
    have whole := (Yields.reads ⟨rfl, isEof⟩ h).length_eq
    have inner := (Yields.reads (Cursor.reads_advance ready source).ready read).length_eq
    rw [ahead'] at inner
    rw [length_createProcedure, List.length_append] at whole
    have same : before ++ rest = raw ++ e.ahead := moved.ahead
    rw [ahead] at same
    exact List.append_inj' (by simpa using same.symm) (by omega)
  obtain ⟨rfl, rfl⟩ := parts
  have word : t.isKeyword .AS = true := by rwa [current, Cursor.isKeyword_normalize] at isAs
  let k : Fork := ⟨t, by simp [Token.isFence, word], more, other⟩
  have here : ({ ahead := raw ++ [t] ++ more, eof } : Cursor) = k.here { ahead := raw, eof } := by
    simp [Fork.here, k]
  have there : ({ ahead := raw ++ [t] ++ other, eof } : Cursor) =
      k.there { ahead := raw, eof } := by
    simp [Fork.there, k]
  have steps := starts.inStep k (c := { ahead := raw, eof }) isEof
  rw [here] at start isCreate
  rw [start] at steps
  obtain ⟨x, rfl, start'⟩ := steps.exists_of_before (by simp [ahead, k])
  rw [k.current_eq] at isCreate
  rw [there, statement_of_start isCreate start']
  have nothing : x.ahead = [] := by simpa [Fork.here, k] using ahead
  have none : x.recordings = [] := moved.recordings
  have ready' : (k.there x).Ready := ⟨ready.fault, ready.eof⟩
  have ahead'' : (k.there x).ahead = t :: other := by simp [Fork.there, k, nothing]
  rw [k.current_eq] at isAs shaped source ⊢
  have rest : (k.there x).advance.ahead = other := by rw [Cursor.advance_eq ready' ahead'']
  have recordings : (k.there x).advance.recordings = [] := by
    rw [Cursor.advance_eq ready' ahead'']
    exact List.map_eq_nil_iff.mpr none
  refine ⟨_, (Cursor.reads_advance ready' source).ready, rest, recordings, fun body' => ?_, ?_⟩
  · rw [isOk_createProcedure _ body' body]
    exact shaped
  · exact procedureRest_eq ready' isAs (rest ▸ inside)

end Grammar

/-! ### Scripts -/

namespace Parser

variable {p : Parser α} {c d : Cursor} {a : α} {f : Failure}

theorem result_toEnd_ok (h : p.toEnd.result c = .ok a) :
    ∃ d e, p c = .ok a d ∧ expectEnd d = .ok () e := by
  unfold result at h
  split at h
  · next whole =>
    cases h
    obtain ⟨a, d, run, whole⟩ := bind_ok whole
    obtain ⟨_, e, ended, whole⟩ := bind_ok whole
    cases whole
    exact ⟨d, _, run, ended⟩
  · cases h

theorem result_toEnd_of_ok (run : p c = .ok a d) (ended : expectEnd d = .ok () d) :
    p.toEnd.result c = .ok a := by
  unfold result toEnd
  rw [bind_of_ok _ run, bind_of_ok _ ended]
  rfl

theorem result_toEnd_of_error (run : p c = .error f d) : p.toEnd.result c = .error f := by
  unfold result toEnd
  rw [bind_of_error _ run]

end Parser

theorem Cursor.ofTokens_eq {ts : List Token} (others : ∀ t ∈ ts, t.isEof = false) :
    Cursor.ofTokens ts = { ahead := ts, eof := .eof .zero } := by
  have all : ts.takeWhile (!·.isEof) = ts :=
    List.takeWhile_eq_self_iff.mpr fun t member => by simp [others t member]
  have none : ts.find? Token.isEof = none :=
    List.find?_eq_none.mpr fun t member => by simp [others t member]
  simp [ofTokens, all, none]

/-- Behind the `AS` of a procedure any tokens may stand: they are its body, as they are, and the
header is what it is before a `RETURN`. All that is refused is a routine among them whose own body
is external. The number of tokens in the header says that its `AS` is the last token of `before`. -/
theorem procedure_keeps_any_body {before : List Token} (behind : List Token) {ret : Token}
    {header : ProcedureHeader} {body : List Statement} (others : ∀ t ∈ before, t.isEof = false)
    (isReturn : ret.isKeyword .RETURN = true)
    (read : (Parser.statements defaultDepth).toEnd.result (.ofTokens (before ++ [ret])) =
      .ok [.createProcedure header body])
    (ends : (Tree.tokensOf header.slots).length = before.length) (some : behind ≠ [])
    (source : ∀ t ∈ behind, t.isSource = true) (inside : Grammar.startsExternal behind = false) :
    (∃ body', (Parser.statements defaultDepth).toEnd.result (.ofTokens (before ++ behind)) =
        .ok [.createProcedure header body'] ∧
      List.Forall₂ Token.ReadAs behind (Statement.listTree body').tokens) ∨
    ((Parser.statements defaultDepth).toEnd.result (.ofTokens (before ++ behind)) =
        .error (.unsupported "CLR routine") ∧ HasExternalRoutine behind) := by
  have others' : ∀ t ∈ before ++ [ret], t.isEof = false := by
    refine List.forall_mem_append.mpr ⟨others, List.forall_mem_singleton.mpr ?_⟩
    exact Token.not_isEof_of_isSource (Token.isSource_of_isKeyword isReturn)
  have others'' : ∀ t ∈ before ++ behind, t.isEof = false := by
    refine List.forall_mem_append.mpr ⟨others, fun t member => ?_⟩
    exact Token.not_isEof_of_isSource (source t member)
  rw [Cursor.ofTokens_eq others'] at read
  rw [Cursor.ofTokens_eq others'']
  obtain ⟨d, _, run, _⟩ := result_toEnd_ok read
  obtain ⟨e, ready, rfl, recordings, shaped, redirected⟩ :=
    Grammar.statement_redirect (Grammar.statement_of_statements run) rfl ends inside
  have stands : e.Stands e.ahead := ⟨ready, List.suffix_refl _, by simp [recordings]⟩
  have started :
      ({ ahead := before ++ e.ahead, eof := .eof .zero } : Cursor).current.isEof = false := by
    have more : before ++ e.ahead ≠ [] := List.append_ne_nil_of_right_ne_nil before some
    obtain ⟨t, rest, first⟩ := List.exists_cons_of_ne_nil more
    rw [Cursor.isEof_of_cons ⟨rfl, rfl⟩ first]
    exact others'' t (by simp [first])
  rcases Grammar.procedureBody_total 62 stands source some with
    ⟨body', f, whole, ready', rest, tokens⟩ | ⟨f, refused, external⟩
  · obtain ⟨s, made⟩ := exists_of_isOk (shaped body')
    obtain rfl := Shaped.Makes.eq made
    rw [bind_of_ok _ whole, build_of_ok made] at redirected
    have ended := Cursor.isEof_of_nil ready' rest
    have script := Grammar.statements_of_statement started redirected ended
    exact .inl ⟨body', result_toEnd_of_ok script (expectEnd_of_isEof ended), tokens⟩
  · rw [bind_of_error _ refused] at redirected
    have script := Grammar.statements_of_error started redirected
    exact .inr ⟨result_toEnd_of_error script, external⟩

/-- A body with a parenthesis that is not closed and an `END` of nothing is kept. -/
theorem procedure_keeps_any_body_unclosed :
    ∃ header body, (Parser.statements defaultDepth).toEnd.result
        (.ofTokens ((lex "CREATE PROC p @a int AS").dropLast ++ (lex "IF (@a END").dropLast)) =
          .ok [.createProcedure header body] ∧
      List.Forall₂ Token.ReadAs (lex "IF (@a END").dropLast (Statement.listTree body).tokens := by
  have layout : ((Parser.statements defaultDepth).toEnd.result
      (.ofTokens ((lex "CREATE PROC p @a int AS").dropLast ++ [.word "RETURN" .zero]))).toOption.map
        (·.map fun s => (s.kind, (Tree.tokensOf s.tree.slots.dropLast).length)) =
      some [(.createProcedure, (lex "CREATE PROC p @a int AS").dropLast.length)] := by
    decide +kernel
  obtain ⟨ss, read⟩ := exists_of_isOk (x := (Parser.statements defaultDepth).toEnd.result
    (.ofTokens ((lex "CREATE PROC p @a int AS").dropLast ++ [.word "RETURN" .zero])))
    (by decide +kernel)
  rw [read] at layout
  simp only [Except.toOption, Option.map_some, Option.some.injEq, List.map_eq_cons_iff,
    List.map_eq_nil_iff, Prod.mk.injEq] at layout
  obtain ⟨s, _, rfl, ⟨kind, size⟩, rfl⟩ := layout
  cases s with
  | createProcedure header body =>
    have front : (Tree.tokensOf header.slots).length =
        (lex "CREATE PROC p @a int AS").dropLast.length := by
      rw [← size, Statement.tree, Tree.slots, List.dropLast_concat]
    rcases procedure_keeps_any_body (lex "IF (@a END").dropLast (by decide +kernel)
      (by decide +kernel) read front (by decide +kernel) (by decide +kernel)
      (by decide +kernel) with ⟨body', kept⟩ | ⟨refused, _⟩
    · exact ⟨header, body', kept⟩
    · have accepted : failure? ((Parser.statements defaultDepth).toEnd.result (.ofTokens
          ((lex "CREATE PROC p @a int AS").dropLast ++ (lex "IF (@a END").dropLast))) = none := by
        decide +kernel
      rw [refused] at accepted
      cases accepted
  | _ => cases kind

end TransactSql
