/-!
# Spans

Byte ranges of a source text.  Offsets have 32 bits, and arithmetic that would leave them stops at
the largest one.
-/

namespace Stencil

/-- The sum of two offsets, or the largest offset. -/
def addSaturating (a b : UInt32) : UInt32 :=
  if a.toNat + b.toNat < UInt32.size then a + b else UInt32.ofNat (UInt32.size - 1)

/-- The difference of two offsets, or zero. -/
def subSaturating (a b : UInt32) : UInt32 :=
  if b ≤ a then a - b else 0

/-- A number as an offset, or the largest offset. -/
def offsetOfNat (n : Nat) : UInt32 :=
  if n < UInt32.size then UInt32.ofNat n else UInt32.ofNat (UInt32.size - 1)

/-- A range of bytes. -/
structure Span where
  start : UInt32
  length : UInt32
  deriving DecidableEq

namespace Span

/-- The offset behind the last byte. -/
def stop (s : Span) : UInt32 :=
  addSaturating s.start s.length

/-- The span between two offsets; it is empty if they are in the wrong order. -/
def ofBounds (start stop : UInt32) : Span :=
  ⟨start, subSaturating stop start⟩

/-- The span between two positions of any size. -/
def ofPositions (start stop : Nat) : Span :=
  ofBounds (offsetOfNat start) (offsetOfNat stop)

/-- The span moved to the right. -/
def shift (s : Span) (offset : UInt32) : Span :=
  ⟨addSaturating s.start offset, s.length⟩

end Span

end Stencil
