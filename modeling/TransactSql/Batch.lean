import TransactSql.Text.Blank
import TransactSql.Text.Bytes

/-!
# Batches

A script is cut at separator lines, which hold `GO` alone. The separator belongs to no batch, and
it separates wherever its line stands, also inside a comment or a string.
-/

namespace TransactSql

structure Batch where
  text : String
  /-- Byte offset of the text in the script. -/
  offset : Nat
  /-- One-based number of the first line. -/
  line : Nat
deriving Repr, DecidableEq

namespace Batch

/-- The lines of a text, each with its `\n`. -/
def lines : List Char → List (List Char)
  | [] => []
  | '\n' :: cs => ['\n'] :: lines cs
  | c :: cs => match lines cs with
    | [] => [[c]]
    | l :: ls => (c :: l) :: ls

/-- `GO` in any case, between blanks. -/
def isSeparator (line : List Char) : Bool :=
  (Text.trim line).map Char.toUpper == ['G', 'O']

def isBlank (b : Batch) : Bool := b.text.toList.all Text.isBlank

/-- The batch with one more line. -/
def extend (b : Batch) (line : List Char) : Batch := { b with text := b.text ++ .ofList line }

/-- The empty batch behind the separator that ends `b`. -/
def next (b : Batch) (separator : List Char) : Batch where
  text := ""
  offset := b.offset + Text.byteLength b.text.toList + Text.byteLength separator
  line := b.line + b.text.toList.count '\n' + 1

/-- The batches of the lines that follow `b`, itself included. Blank batches are dropped. -/
def cut (b : Batch) : List (List Char) → List Batch
  | [] => if b.isBlank then [] else [b]
  | line :: rest =>
    if isSeparator line then
      (if b.isBlank then [] else [b]) ++ cut (b.next line) rest
    else cut (b.extend line) rest

end Batch

/-- The batches of a script that are not blank. -/
def splitBatches (script : String) : List Batch :=
  Batch.cut ⟨"", 0, 1⟩ (Batch.lines script.toList)

end TransactSql
