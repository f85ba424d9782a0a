import Stencil.Frame.Width
import Stencil.Span

/-!
# Places in a source text

The lines of a source, and where in them a span starts and ends.
-/

namespace Stencil.Frame

/-- A line of a source.  Its bytes are those from `start` up to `stop`, the line end included. -/
structure Line where
  text : List Char
  start : Nat
  stop : Nat

/-- The number of bytes of a text. -/
def byteCount (text : List Char) : Nat :=
  text.foldr (fun c n => c.utf8Size + n) 0

/-- A text cut behind every line feed, without the line ends.  Each line also has the number of
bytes of its end. -/
def cutLines : List Char → List (List Char × Nat)
  | [] => []
  | '\n' :: rest => ([], 1) :: cutLines rest
  | '\r' :: '\n' :: rest => ([], 2) :: cutLines rest
  | c :: rest =>
    match cutLines rest with
    | [] => [([c], 0)]
    | (line, ending) :: lines => (c :: line, ending) :: lines

/-- Gives lines their places, from an offset on. -/
def placeLines (start : Nat) : List (List Char × Nat) → List Line
  | [] => []
  | (text, ending) :: lines =>
    let stop := start + byteCount text + ending
    ⟨text, start, stop⟩ :: placeLines stop lines

/-- The lines of a source; there is always one. -/
def lines (source : List Char) : List Line :=
  match cutLines source with
  | [] => [⟨[], 0, 0⟩]
  | cut => placeLines 0 cut

/-- The characters that fit into some bytes. -/
def takeBytes : Nat → List Char → List Char
  | _, [] => []
  | n, c :: cs => if c.utf8Size ≤ n then c :: takeBytes (n - c.utf8Size) cs else []

/-- Whether an offset stands between two characters of a text or at one of its ends. -/
def isBoundary (offset : Nat) (text : List Char) : Bool :=
  byteCount (takeBytes offset text) == offset

/-- The bytes of a source that a span covers; a span that goes beyond the source ends with it. -/
def bounds (source : List Char) (span : Span) : Nat × Nat :=
  let stop := min span.stop.toNat (byteCount source)
  (min span.start.toNat stop, stop)

/-- Whether a span cuts no character of a source in two. -/
def fits (source : String) (span : Span) : Bool :=
  let (start, stop) := bounds source.toList span
  isBoundary start source.toList && isBoundary stop source.toList

/-- A place in a source, counted from zero. -/
structure Location where
  line : Nat
  /-- The number of characters before it on its line. -/
  char : Nat
  /-- The number of columns before it on its line. -/
  column : Nat

/-- The line that holds an offset and its number; offsets behind the last line are on it. -/
def lineAt (lines : List Line) (offset : Nat) : Nat × Line :=
  let index := (lines.findIdx? fun l => l.start ≤ offset && offset < l.stop).getD (lines.length - 1)
  (index, lines[index]?.getD ⟨[], 0, 0⟩)

/-- The text of a line before an offset. -/
def textBefore (line : Line) (offset : Nat) : List Char :=
  takeBytes (offset - line.start) line.text

/-- Where the bytes from `start` to `stop` start and end. -/
def locate (lines : List Line) (start stop : Nat) : Location × Location :=
  let (startLine, first) := lineAt lines start
  let before := textBefore first start
  let beyond := if byteCount first.text < start - first.start then 1 else 0
  let startPlace : Location := ⟨startLine, before.length + beyond, width before⟩
  if start = stop then (startPlace, startPlace)
  else
    let (stopLine, last) := lineAt lines stop
    let before := textBefore last stop
    let beyond :=
      if startLine ≠ stopLine && byteCount last.text < stop - last.start then 1 else 0
    (startPlace, ⟨stopLine, before.length + beyond, width before + beyond⟩)

end Stencil.Frame
