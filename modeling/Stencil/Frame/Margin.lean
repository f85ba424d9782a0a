import Stencil.Frame.Source

/-!
# Margins

Long lines are cut so that a frame fits into a terminal.  First blanks at the left are given up,
then code far away from the span, and in the end everything but the span.
-/

namespace Stencil.Frame

/-- The columns of a terminal. -/
def terminalWidth : Nat := 140

/-- What decides where lines are cut. -/
structure MarginInput where
  /-- The blanks at the left that can be given up. -/
  blanks : Nat
  spanLeft : Nat
  spanRight : Nat
  labelRight : Nat
  /-- The columns that there are for code. -/
  available : Nat
  /-- The columns of the longest line. -/
  longest : Nat

/-- The part of the lines that is shown. -/
structure Margin where
  left : Nat
  right : Nat
  /-- The columns that there are for code. -/
  available : Nat

/-- Room left free around the marked part. -/
def padding : Nat := 6

/-- Blanks at the left that are more than this are cut. -/
def longBlanks : Nat := 20

/-- Finds the part of the lines to show. -/
def Margin.compute (m : MarginInput) : Margin :=
  let blanks := m.blanks - padding
  let spanLeft := m.spanLeft - padding
  let spanRight := m.spanRight + padding
  let labelRight := m.labelRight + padding
  let make (left right : Nat) : Margin := ⟨left, right, m.available⟩
  let left := if longBlanks < blanks then blanks - (longBlanks - 4) else 0
  let right := max m.longest left
  if right - left ≤ m.available then make left right
  else if labelRight - blanks ≤ m.available then make blanks (blanks + m.available)
  else if labelRight - spanLeft ≤ m.available then
    let left := spanLeft - (m.available - (labelRight - spanLeft)) / 2
    make left (left + m.available)
  else if spanRight - spanLeft ≤ m.available then
    let left := spanLeft - (m.available - (spanRight - spanLeft)) / 5 * 2
    make left (left + m.available)
  else make spanLeft spanRight

/-- Where a line of some columns is cut at the right. -/
def Margin.rightOf (m : Margin) (columns : Nat) : Nat :=
  if columns - m.left ≤ m.available then columns else min columns m.right

/-! ## Cutting a line -/

/-- Drops characters until at least some columns are gone; how many are, and what remains. -/
def dropColumns (columns : Nat) (gone : Nat) : List Char → Nat × List Char
  | [] => (gone, [])
  | c :: cs =>
    if gone < columns then dropColumns columns (gone + charWidth c) cs else (gone, c :: cs)

/-- The characters that fit into some columns. -/
def takeColumns (columns : Nat) : List Char → List Char
  | [] => []
  | c :: cs =>
    if charWidth c ≤ columns then c :: takeColumns (columns - charWidth c) cs else []

/-- The mark of code that is cut off. -/
def ellipsis : List Char := ['.', '.', '.']

/-- A line as it is shown. -/
structure CutLine where
  /-- The column of the line at the left edge. -/
  left : Nat
  /-- A mark stands at the left edge. -/
  cutLeft : Bool
  /-- The columns from the left edge to the code. -/
  indent : Nat
  code : List Char
  /-- Where a mark stands at the right, counted from the left edge. -/
  cutRight : Option Nat

/-- The number of the last characters that a mark covers. -/
def coveredAtEnd (code : List Char) : Nat :=
  code.length - (dropColumns ellipsis.length 0 code.reverse).2.length

/-- Cuts a line to a margin.  A character that would be cut in two is left out, and the marks take
the place of whole characters. -/
def Margin.cut (m : Margin) (text : List Char) : CutLine :=
  let columns := width text
  let left := min m.left columns
  let right := m.rightOf columns
  let (gone, kept) := dropColumns left 0 text
  let code := takeColumns (right - left) kept
  let cutLeft := decide (0 < m.left)
  let (indent, rest) := if cutLeft then dropColumns ellipsis.length 0 code else (0, code)
  let cutRight :=
    if right < columns then some (indent + rest.length - coveredAtEnd code) else none
  ⟨max left gone, cutLeft, indent, rest, cutRight⟩

end Stencil.Frame
