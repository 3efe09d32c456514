import TransactSql.Proofs.Grammar.Seams
import TransactSql.Proofs.Grammar.Sequences

/-!
# Scripts behind one another

Where the last token of a script is the `;` of its last statement, any script may follow: together
they are read as the statements of the one and then those of the other.
-/

namespace TransactSql

open TransactSql.Parser

namespace Grammar

variable {statement : Parser Statement} {c d : Cursor} {ss : List Statement}

/-- The last statement ends the sequence. -/
theorem Sequence.closes (joins : JoinsStatement statement) (sequence : Sequence statement c ss d)
    (eof : c.eof.isEof = true) (free : ∀ s ∈ ss, s.RoutineFree) {last : Statement}
    (isLast : last ∈ ss.getLast?) (ends : last.Terminated) : c.Closes d := by
  induction sequence with
  | nil => cases isLast
  | @cons c e d s ss _ run more ih =>
    obtain ⟨raw, moved⟩ := joins.framed.ok run
    cases more with
    | nil =>
      cases isLast
      exact joins.closes eof run (free _ (List.mem_singleton_self _)) ends
    | cons =>
      rw [List.getLast?_cons_cons] at isLast
      have rest := ih (moved.eof ▸ eof) (fun t member => free t (List.mem_cons_of_mem s member)) isLast
      exact rest.after moved

/-- The statements up to the `;` are read once more, and then the tokens behind it are next. -/
theorem Sequence.joined (k : Seam) [consumes : Consumes statement] (joins : JoinsStatement statement)
    (sequence : Sequence statement (k.fork.here c) ss d) (eof : c.eof.isEof = true)
    (nothing : d.ahead = []) (free : ∀ s ∈ ss, s.RoutineFree)
    (ends : ∀ s ∈ ss.getLast?, s.Terminated) : Sequence statement (k.fork.there c) ss (k.beyond d) := by
  generalize start : k.fork.here c = b at sequence
  induction sequence generalizing c with
  | nil =>
    subst start
    exact absurd nothing k.here_ahead_ne_nil
  | @cons b e d s ss started run more ih =>
    subst start
    rw [k.fork.current_eq] at started
    have both := joins.joined k eof
    rw [run] at both
    generalize again : statement (k.fork.there c) = reply at both
    cases both with
    | other bad => exact absurd (free s (by simp)) bad
    | @before _ f eof' =>
      have last : ∀ t ∈ ss.getLast?, t.Terminated := by
        intro t member
        refine ends t ?_
        rw [List.getLast?_cons]
        simp [Option.mem_def.mp member]
      have free' : ∀ t ∈ ss, t.RoutineFree := fun t member => free t (List.mem_cons_of_mem s member)
      exact .cons started again (ih eof' nothing free' last rfl)
    | behind _ spent again' =>
      -- Nothing is left for another statement.
      cases more with
      | nil =>
        rw [again' (ends s rfl)] at again
        exact .cons started again (.nil _)
      | cons _ run' =>
        obtain ⟨raw, moved⟩ := joins.framed.ok run
        have taken : _ < e.ahead.length := consumes.shortens (moved.eof ▸ eof) run'
        simp [spent] at taken

/-- No statement starts with an `ELSE`. -/
theorem not_else_of_statement {depth : Nat} {s : Statement} (h : Parser.statement depth c = .ok s d) :
    c.current.isKeyword .ELSE = false := by
  cases isElse : c.current.isKeyword .ELSE with
  | false => rfl
  | true =>
    cases depth with
    | zero => exact absurd h fail_ok
    | succ depth =>
      have word := Token.isKeyword_iff.mp isElse
      unfold Parser.statement anyStatement at h
      rw [current_bind, word] at h
      unfold wordStatement at h
      dsimp only at h
      rw [lookahead_bind, Token.keyword?_eq_some_iff.mpr word] at h
      exact absurd h fail_ok

end Grammar

/-- No script starts with an `ELSE`. -/
theorem not_else_of_script {depth : Nat} {ts : List Token} {ss : List Statement}
    (others : ∀ t ∈ ts, t.isEof = false)
    (sequence : Grammar.Sequence (Parser.statement depth) (.ofTokens ts) ss (.ofTokens [])) :
    ts.head?.any (·.isKeyword .ELSE) = false := by
  cases ts with
  | nil => rfl
  | cons t rest =>
    rw [Cursor.ofTokens_eq others] at sequence
    cases sequence with
    | cons _ run _ => exact Grammar.not_else_of_statement run

/-- Two scripts of which the first is empty or ends with the `;` of a statement make one script. Its
statements are those of the first and then those of the second, just as they are. -/
theorem scripts_concatenate {depth : Nat} {first second : List Token} {ss more : List Statement}
    (others : ∀ t ∈ first ++ second, t.isEof = false)
    (read : (Parser.statements depth).result (.ofTokens first) = .ok ss)
    (read' : (Parser.statements depth).result (.ofTokens second) = .ok more)
    (free : ∀ s ∈ ss, s.RoutineFree)
    (ends : first = [] ∨ ∃ s ∈ ss.getLast?, s.Terminated) :
    (Parser.statements depth).result (.ofTokens (first ++ second)) = .ok (ss ++ more) := by
  obtain ⟨others₁, others₂⟩ := List.forall_mem_append.mp others
  rw [script_iff others₁] at read
  rw [script_iff others₂] at read'
  rw [script_iff others]
  refine Grammar.Sequence.append ?_ read'
  rcases ends with rfl | ⟨last, isLast, ends⟩
  · cases read with
    | nil => exact .nil _
    | cons started => cases started
  · have joins := Parser.statement_joins depth
    obtain ⟨before, t, semicolon, ahead⟩ :=
      read.closes joins (Cursor.isEof_ofTokens first) free isLast ends
    rw [Cursor.ofTokens_eq others₁] at ahead read
    obtain rfl : first = before ++ [t] := ahead
    let k : Seam := ⟨t, semicolon, second, not_else_of_script others₂ read'⟩
    have here : ({ ahead := before ++ [t], eof := .eof .zero } : Cursor) =
        k.fork.here { ahead := before, eof := .eof .zero } := rfl
    have there : ({ ahead := before ++ [t] ++ second, eof := .eof .zero } : Cursor) =
        k.fork.there { ahead := before, eof := .eof .zero } := by
      simp [Fork.there, Seam.fork, k]
    rw [here] at read
    rw [Cursor.ofTokens_eq others, Cursor.ofTokens_eq others₂, there]
    refine read.joined k joins rfl rfl free fun s member => ?_
    rwa [Option.mem_unique member isLast]

/-- An `IF` around a block of one `;`, whose `ELSE` has a `WHILE` around a statement with a `;`. -/
def isBlockAndLoop : List Statement → Bool
  | [.ifElse _ _ (.block ⟨_, [.empty _], _, _⟩) (.present _ (.whileLoop _ _ (.unmodeled _ t)))] =>
    !t.isPlaceholder
  | _ => false

/-- The `;` ends a statement inside a `WHILE` behind the `ELSE` of an `IF`, and another `IF` follows. -/
theorem scripts_concatenate_else :
    ∃ ss more, (Parser.statements defaultDepth).result
        (.ofTokens (lex "IF 1 = 1 BEGIN ; END ELSE WHILE 2 = 2 PRINT (3;);").dropLast) = .ok ss ∧
      (∀ s ∈ ss, s.RoutineFree) ∧ (∃ s ∈ ss.getLast?, s.Terminated) ∧
      (Parser.statements defaultDepth).result
        (.ofTokens (lex "IF 4 = 4 SELECT 5").dropLast) = .ok more ∧
      (Parser.statements defaultDepth).result
        (.ofTokens ((lex "IF 1 = 1 BEGIN ; END ELSE WHILE 2 = 2 PRINT (3;);").dropLast ++
          (lex "IF 4 = 4 SELECT 5").dropLast)) = .ok (ss ++ more) := by
  have shape : ((Parser.statements defaultDepth).result
      (.ofTokens (lex "IF 1 = 1 BEGIN ; END ELSE WHILE 2 = 2 PRINT (3;);").dropLast)).toOption.any
        isBlockAndLoop = true := by
    decide +kernel
  obtain ⟨ss, read⟩ := exists_of_isOk (x := (Parser.statements defaultDepth).result
    (.ofTokens (lex "IF 1 = 1 BEGIN ; END ELSE WHILE 2 = 2 PRINT (3;);").dropLast))
    (by decide +kernel)
  obtain ⟨more, read'⟩ := exists_of_isOk (x := (Parser.statements defaultDepth).result
    (.ofTokens (lex "IF 4 = 4 SELECT 5").dropLast)) (by decide +kernel)
  have both : (∀ s ∈ ss, s.RoutineFree) ∧ ∃ s ∈ ss.getLast?, s.Terminated := by
    rw [read] at shape
    simp only [Except.toOption, Option.any_some, isBlockAndLoop] at shape
    split at shape
    · constructor
      · refine List.forall_mem_singleton.mpr (.of_children ?_)
        refine List.forall_mem_cons.mpr ⟨.of_children ?_, ?_⟩
        · exact List.forall_mem_singleton.mpr (.of_children (by simp [Statement.children]))
        · refine List.forall_mem_singleton.mpr (.of_children ?_)
          exact List.forall_mem_singleton.mpr (.of_children (by simp [Statement.children]))
      · refine ⟨_, rfl, .elseBranch (.body (.own rfl ?_))⟩
        rintro rfl
        cases shape
    · cases shape
  obtain ⟨free, ends⟩ := both
  exact ⟨ss, more, read, free, ends, read',
    scripts_concatenate (by decide +kernel) read read' free (.inr ends)⟩

end TransactSql
