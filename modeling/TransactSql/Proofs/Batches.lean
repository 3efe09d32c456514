import Mathlib.Data.List.Basic
import TransactSql.Batch
import TransactSql.Proofs.Token.Tiling

/-!
# Batches are the runs of lines between separators

`runs` says what the batches of a script are without offsets and line numbers. The offset and the
line that a batch carries are those of its text in the script, however many blank batches and
separators come before it, and every line that counts is in just one batch.
-/

namespace TransactSql

open Text

namespace Batch

/-! ### Lines -/

/-- The parts of a text that end with its line breaks. What follows the last break is a line of
its own, if it is not empty. -/
structure AreLines (text : List Char) (ls : List (List Char)) : Prop where
  whole : ls.flatten = text
  nonempty : ∀ l ∈ ls, l ≠ []
  unbroken : ∀ l ∈ ls, '\n' ∉ l.dropLast
  ended : ∀ l ∈ ls.dropLast, l.getLast? = some '\n'

theorem lines_cons {c : Char} (cs : List Char) (inside : c ≠ '\n') :
    lines (c :: cs) = match lines cs with
      | [] => [[c]]
      | l :: ls => (c :: l) :: ls :=
  lines.eq_3 c cs inside

theorem areLines_lines (text : List Char) : AreLines text (lines text) := by
  induction text with
  | nil => exact ⟨rfl, nofun, nofun, nofun⟩
  | cons c cs ih =>
    obtain ⟨whole, nonempty, unbroken, ended⟩ := ih
    by_cases isBreak : c = '\n'
    · subst isBreak
      have first : lines ('\n' :: cs) = ['\n'] :: lines cs := by rw [lines]
      rw [first]
      refine ⟨by simp [whole], by simpa using nonempty, by simpa using unbroken, ?_⟩
      cases rest : lines cs with
      | nil => simp
      | cons l ls =>
        rw [rest] at ended
        simpa using ended
    · rw [lines_cons cs isBreak]
      cases rest : lines cs with
      | nil =>
        rw [rest] at whole
        exact ⟨by simp [← whole], by simp, by simp, by simp⟩
      | cons l ls =>
        rw [rest] at whole nonempty unbroken ended
        have some : l ≠ [] := nonempty l List.mem_cons_self
        simp only [List.forall_mem_cons] at nonempty unbroken
        refine ⟨by simp [← whole], by simpa using nonempty.2, ?_, ?_⟩
        · simp only [List.forall_mem_cons]
          refine ⟨?_, unbroken.2⟩
          rw [List.dropLast_cons_of_ne_nil some]
          simpa [Ne.symm isBreak] using unbroken.1
        · cases ls with
          | nil => simp
          | cons m ls =>
            simp only [List.dropLast_cons_cons, List.forall_mem_cons] at ended ⊢
            refine ⟨?_, ended.2⟩
            rw [List.getLast?_cons, ended.1]
            rfl

/-- A line that another one follows has its break. -/
theorem AreLines.count_eq {text : List Char} {ls : List (List Char)} (lines : AreLines text ls) :
    ∀ l ∈ ls.dropLast, l.count '\n' = 1 := by
  intro l member
  have parts := List.dropLast_append_getLast? '\n' (lines.ended l member)
  have inner := lines.unbroken l (List.dropLast_subset _ member)
  rw [← parts, List.count_append, List.count_eq_zero_of_not_mem inner]
  rfl

/-! ### Texts -/

/-- The lines between separators, run by run, without the runs that are blank. -/
def runs (script : List Char) : List (List Char) :=
  (((lines script).splitOnP isSeparator).map List.flatten).filter fun run => !run.all Text.isBlank

@[simp]
theorem toList_extend (b : Batch) (line : List Char) :
    (b.extend line).text.toList = b.text.toList ++ line := by
  simp [extend]

/-- The text read so far goes on with the first run of the lines that follow. -/
theorem cut_texts (b : Batch) (ls : List (List Char)) :
    (b.cut ls).map (·.text.toList) =
      (((ls.splitOnP isSeparator).map List.flatten).modifyHead (b.text.toList ++ ·)).filter
        fun run => !run.all Text.isBlank := by
  induction ls generalizing b with
  | nil => cases blank : b.text.toList.all Text.isBlank <;> simp [cut, isBlank, blank]
  | cons line rest ih =>
    obtain ⟨run, more, runs⟩ := List.exists_cons_of_ne_nil (List.splitOnP_ne_nil isSeparator rest)
    cases separates : isSeparator line with
    | true =>
      have fresh : (b.next line).text.toList = [] := rfl
      rw [cut, if_pos separates, List.map_append, ih, fresh]
      cases blank : b.text.toList.all Text.isBlank <;>
        simp [List.splitOnP_cons_eq_if_modifyHead, separates, isBlank, blank, runs]
    | false =>
      rw [cut, if_neg (by simp [separates]), ih, toList_extend]
      simp [List.splitOnP_cons_eq_if_modifyHead, separates, runs]

/-! ### Places -/

/-- The text of the batch is a part of the script, and the batch says where it starts. -/
def StandsIn (script : List Char) (b : Batch) : Prop :=
  ∃ before after, script = before ++ b.text.toList ++ after ∧ b.offset = byteLength before ∧
    b.line = 1 + before.count '\n'

theorem StandsIn.slice_eq {script : List Char} {b : Batch} (stands : b.StandsIn script) :
    Span.slice ⟨b.offset, b.offset + byteLength b.text.toList⟩ script = some b.text.toList := by
  obtain ⟨before, after, rfl, offset, _⟩ := stands
  rw [offset, Span.slice_append]

theorem StandsIn.line_eq {script : List Char} {b : Batch} (stands : b.StandsIn script) :
    (takeBytes b.offset script).map (·.count '\n' + 1) = some b.line := by
  obtain ⟨before, after, rfl, offset, line⟩ := stands
  rw [offset, List.append_assoc, takeBytes_append, line, Nat.add_comm]
  rfl

/-- How the batch `b'` comes out of the lines behind `b`: it is `b` once it ends, or it is cut from
the lines behind the first one. -/
inductive CutFrom (b' : Batch) : Batch → List (List Char) → Prop
  | here {ls : List (List Char)} (some : b'.isBlank = false) : CutFrom b' b' ls
  | next {b : Batch} {line : List Char} {rest : List (List Char)} (more : CutFrom b' (b.next line) rest) :
    CutFrom b' b (line :: rest)
  | extend {b : Batch} {line : List Char} {rest : List (List Char)}
    (more : CutFrom b' (b.extend line) rest) : CutFrom b' b (line :: rest)

theorem cutFrom_of_mem {b b' : Batch} {ls : List (List Char)} (member : b' ∈ b.cut ls) :
    CutFrom b' b ls := by
  have ended {b : Batch} {ls : List (List Char)} (this : b' ∈ if b.isBlank then [] else [b]) :
      CutFrom b' b ls := by
    split at this
    · cases this
    · next some =>
      obtain rfl := List.mem_singleton.mp this
      exact .here (by simpa using some)
  induction ls generalizing b with
  | nil => exact ended member
  | cons line rest ih =>
    rw [cut] at member
    split at member
    · rcases List.mem_append.mp member with this | later
      · exact ended this
      · exact .next (ih later)
    · exact .extend (ih member)

namespace CutFrom

variable {b b' : Batch} {ls : List (List Char)}

theorem isBlank_eq (cut : CutFrom b' b ls) : b'.isBlank = false := by
  induction cut with
  | here some => exact some
  | next _ ih | extend _ ih => exact ih

theorem text_ne_nil (cut : CutFrom b' b ls) : b'.text.toList ≠ [] := by
  intro none
  have some := cut.isBlank_eq
  simp [isBlank, none] at some

theorem offset_le (cut : CutFrom b' b ls) : b.offset ≤ b'.offset := by
  induction cut with
  | here => exact Nat.le_refl _
  | extend _ ih => exact ih
  | next _ ih =>
    simp only [Batch.next] at ih
    omega

/-- The counters of a batch are right where its text starts. A separator that ends the script
without a break counts as a line, but no batch starts behind it. -/
theorem standsIn (cut : CutFrom b' b ls) {before : List Char}
    (breaks : ∀ l ∈ ls.dropLast, l.count '\n' = 1) (offset : b.offset = byteLength before)
    (line : b.line = 1 + before.count '\n' ∨ b.text = "" ∧ ls = []) :
    b'.StandsIn (before ++ b.text.toList ++ ls.flatten) := by
  have behind {l : List Char} {rest : List (List Char)}
      (breaks : ∀ m ∈ (l :: rest).dropLast, m.count '\n' = 1) :
      (∀ m ∈ rest.dropLast, m.count '\n' = 1) ∧ (rest = [] ∨ l.count '\n' = 1) := by
    cases rest with
    | nil => exact ⟨nofun, .inl rfl⟩
    | cons m rest =>
      rw [List.dropLast_cons_cons, List.forall_mem_cons] at breaks
      exact ⟨breaks.2, .inr breaks.1⟩
  induction cut generalizing before with
  | @here ls some =>
    have text := (here some : CutFrom b' b' ls).text_ne_nil
    refine ⟨before, ls.flatten, rfl, offset, line.resolve_right fun ended => ?_⟩
    exact text (by simp [ended.1])
  | @next b l rest more ih =>
    obtain ⟨breaks, broken⟩ := behind breaks
    have counted := line.resolve_right (by simp)
    have start : (b.next l).offset = byteLength (before ++ b.text.toList ++ l) := by
      simp [Batch.next, offset]
      omega
    have number : (b.next l).line = 1 + (before ++ b.text.toList ++ l).count '\n' ∨
        (b.next l).text = "" ∧ rest = [] := by
      refine broken.elim (fun none => .inr ⟨rfl, none⟩) fun one => .inl ?_
      simp only [Batch.next, counted, List.count_append, one]
      omega
    have stands := ih breaks start number
    simpa [Batch.next] using stands
  | @extend b l rest more ih =>
    have counted := line.resolve_right (by simp)
    have stands := ih (behind breaks).1 offset (.inl counted)
    rw [toList_extend] at stands
    simpa using stands

end CutFrom

/-- The first batch ends where the second starts, or before. -/
def Precedes (b b' : Batch) : Prop := b.offset + byteLength b.text.toList ≤ b'.offset

theorem cut_precedes (b : Batch) (ls : List (List Char)) : (b.cut ls).Pairwise Precedes := by
  induction ls generalizing b with
  | nil =>
    rw [cut]
    split <;> simp
  | cons line rest ih =>
    rw [cut]
    split
    · refine List.pairwise_append.mpr ⟨by split <;> simp, ih _, ?_⟩
      intro ended this b' later
      have bound := (cutFrom_of_mem later).offset_le
      split at this
      · cases this
      · rw [List.mem_singleton.mp this]
        simp only [next] at bound
        unfold Precedes
        omega
    · exact ih _

/-! ### Lines in batches -/

/-- The bytes from `start` on, `size` of them, are in the text of the batch. -/
def Holds (b : Batch) (start size : Nat) : Prop :=
  b.offset ≤ start ∧ start + size ≤ b.offset + byteLength b.text.toList

/-- A batch that is not blank ends up among the batches, with what it has and more. -/
theorem exists_mem_cut {b : Batch} (some : b.isBlank = false) (ls : List (List Char)) :
    ∃ b' ∈ b.cut ls, b'.offset = b.offset ∧ b.text.toList <+: b'.text.toList := by
  induction ls generalizing b with
  | nil => exact ⟨b, by simp [cut, some], rfl, List.prefix_rfl⟩
  | cons line rest ih =>
    rw [cut]
    split
    · exact ⟨b, by simp [some], rfl, List.prefix_rfl⟩
    · have more : (b.extend line).isBlank = false := by
        simp only [isBlank, toList_extend, List.all_append] at some ⊢
        simp [some]
      obtain ⟨b', member, offset, goesOn⟩ := ih more
      refine ⟨b', member, offset, List.IsPrefix.trans ?_ goesOn⟩
      rw [toList_extend]
      exact List.prefix_append _ _

theorem byteLength_le_of_prefix {cs ds : List Char} (h : cs <+: ds) : byteLength cs ≤ byteLength ds := by
  obtain ⟨rest, rfl⟩ := h
  simp

/-- A line that is neither a separator nor blank is held by a batch. -/
theorem exists_holds {l : List Char} (counts : isSeparator l = false)
    (some : l.all Text.isBlank = false) (back : List (List Char)) (b : Batch)
    (front : List (List Char)) :
    ∃ b' ∈ b.cut (front ++ l :: back),
      b'.Holds (b.offset + byteLength b.text.toList + byteLength front.flatten) (byteLength l) := by
  induction front generalizing b with
  | nil =>
    have more : (b.extend l).isBlank = false := by
      simp [isBlank, toList_extend, List.all_append, some]
    obtain ⟨b', member, offset, goesOn⟩ := exists_mem_cut more back
    have size := byteLength_le_of_prefix goesOn
    rw [toList_extend, byteLength_append] at size
    refine ⟨b', by simpa [cut, counts] using member, ?_⟩
    simp only [extend] at offset
    simp only [Holds, offset, List.flatten_nil, byteLength_nil]
    omega
  | cons line front ih =>
    rw [List.cons_append, cut]
    split
    · obtain ⟨b', member, holds⟩ := ih (b.next line)
      refine ⟨b', List.mem_append_right _ member, ?_⟩
      simp only [Holds, next, String.toList_empty, byteLength_nil] at holds
      simp only [Holds, List.flatten_cons, byteLength_append]
      omega
    · obtain ⟨b', member, holds⟩ := ih (b.extend line)
      refine ⟨b', member, ?_⟩
      rw [toList_extend, byteLength_append] at holds
      simp only [Holds, extend] at holds
      simp only [Holds, List.flatten_cons, byteLength_append]
      omega

/-- Batches that lie apart do not hold the same bytes. -/
theorem Precedes.not_holds {b b' : Batch} {start size : Nat} (precedes : b.Precedes b')
    (some : 0 < size) (holds : b.Holds start size) : ¬ b'.Holds start size := by
  unfold Precedes at precedes
  unfold Holds at *
  omega

theorem holds_unique {bs : List Batch} (apart : bs.Pairwise Precedes) {b b' : Batch}
    (member : b ∈ bs) (member' : b' ∈ bs) {start size : Nat} (some : 0 < size)
    (holds : b.Holds start size) (holds' : b'.Holds start size) : b = b' := by
  induction apart with
  | nil => cases member
  | @cons first rest before _ ih =>
    rcases List.mem_cons.mp member with rfl | later <;>
      rcases List.mem_cons.mp member' with rfl | later'
    · rfl
    · exact absurd holds' ((before _ later').not_holds some holds)
    · exact absurd holds ((before _ later).not_holds some holds')
    · exact ih later later'

end Batch

open Batch

theorem cutFrom_of_mem_splitBatches {script : String} {b : Batch} (member : b ∈ splitBatches script) :
    CutFrom b ⟨"", 0, 1⟩ (lines script.toList) := cutFrom_of_mem member

theorem standsIn_of_mem_splitBatches {script : String} {b : Batch} (member : b ∈ splitBatches script) :
    b.StandsIn script.toList := by
  have lined := areLines_lines script.toList
  have stands : b.StandsIn ([] ++ "".toList ++ (lines script.toList).flatten) :=
    (cutFrom_of_mem_splitBatches member).standsIn lined.count_eq rfl (.inl rfl)
  rwa [lined.whole] at stands

theorem splitBatches_precedes (script : String) : (splitBatches script).Pairwise Precedes :=
  cut_precedes _ _

/-- The batches of a script are the runs of its lines between separators that are not blank. Each
tells the place of its text and the number of its first line, and they follow one another without
overlap. So a line that is neither blank nor a separator is in just one batch. -/
theorem splitBatches_runs (script : String) :
    AreLines script.toList (lines script.toList) ∧
    (splitBatches script).map (·.text.toList) = runs script.toList ∧
    (∀ b ∈ splitBatches script,
      Span.slice ⟨b.offset, b.offset + byteLength b.text.toList⟩ script.toList = some b.text.toList ∧
      (takeBytes b.offset script.toList).map (·.count '\n' + 1) = some b.line) ∧
    (splitBatches script).Pairwise (fun b b' => b.offset < b'.offset ∧ b.Precedes b') ∧
    ∀ front l back, lines script.toList = front ++ l :: back → isSeparator l = false →
      l.all Text.isBlank = false →
      ∃! b, b ∈ splitBatches script ∧ b.Holds (byteLength front.flatten) (byteLength l) := by
  have apart := splitBatches_precedes script
  refine ⟨areLines_lines _, ?_, fun b member => ?_, ?_, fun front l back split counts some => ?_⟩
  · obtain ⟨run, more, runs⟩ :=
      List.exists_cons_of_ne_nil (List.splitOnP_ne_nil isSeparator (lines script.toList))
    rw [splitBatches, cut_texts, Batch.runs, runs]
    simp
  · have stands := standsIn_of_mem_splitBatches member
    exact ⟨stands.slice_eq, stands.line_eq⟩
  · refine apart.imp_of_mem fun {b b'} member _ precedes => ⟨?_, precedes⟩
    have size := byteLength_pos (cutFrom_of_mem_splitBatches member).text_ne_nil
    unfold Precedes at precedes
    omega
  · have held := exists_holds counts some back ⟨"", 0, 1⟩ front
    rw [← split] at held
    obtain ⟨b, member, holds⟩ := held
    have size : 0 < byteLength l := byteLength_pos (by rintro rfl; cases some)
    simp only [String.toList_empty, byteLength_nil, Nat.zero_add] at holds
    refine ⟨b, ⟨member, holds⟩, fun b' other => ?_⟩
    exact holds_unique apart other.1 member size other.2 holds

/-- Two separators, one of them at the start and one that ends a line with `\r\n`, blank lines
between them, and a line of several bytes a character. -/
theorem splitBatches_runs_between_separators :
    lines "GO\n\n gO\r\n\nSELECT 'é'\nGO".toList =
      ["GO\n".toList, "\n".toList, " gO\r\n".toList, "\n".toList] ++
        "SELECT 'é'\n".toList :: ["GO".toList] ∧
    splitBatches "GO\n\n gO\r\n\nSELECT 'é'\nGO" = [⟨"\nSELECT 'é'\n", 9, 4⟩] ∧
    ∃! b, b ∈ splitBatches "GO\n\n gO\r\n\nSELECT 'é'\nGO" ∧ b.Holds 10 12 :=
  ⟨by decide +kernel, by decide +kernel,
    (splitBatches_runs "GO\n\n gO\r\n\nSELECT 'é'\nGO").2.2.2.2
      ["GO\n".toList, "\n".toList, " gO\r\n".toList, "\n".toList] "SELECT 'é'\n".toList ["GO".toList]
      (by decide +kernel) (by decide +kernel) (by decide +kernel)⟩

end TransactSql
