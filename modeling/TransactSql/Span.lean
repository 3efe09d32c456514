import TransactSql.Text.Bytes

/-!
# Spans

Half-open ranges of byte offsets into the source text.
-/

namespace TransactSql

structure Span where
  start : Nat
  stop : Nat
deriving Repr, DecidableEq, Inhabited

namespace Span

/-- The span of nothing, at the start of the text. -/
def zero : Span := ⟨0, 0⟩

/-- The empty span at an offset. -/
def emptyAt (offset : Nat) : Span := ⟨offset, offset⟩

def length (s : Span) : Nat := s.stop - s.start

def isEmpty (s : Span) : Bool := s.start == s.stop

/-- The smallest span that covers both. -/
def merge (a b : Span) : Span := ⟨min a.start b.start, max a.stop b.stop⟩

/-- The part of the text the span covers, if its ends are in bounds, in order and between
characters. -/
def slice (s : Span) (text : List Char) : Option (List Char) :=
  if s.start ≤ s.stop then
    (Text.dropBytes s.start text).bind (Text.takeBytes s.length)
  else none

end Span

end TransactSql
