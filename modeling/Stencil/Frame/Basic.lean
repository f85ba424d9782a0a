import Stencil.Frame.Canvas
import Stencil.Frame.Margin
import Stencil.Text.Blank

/-!
# Code frames

A frame shows a message together with the lines of a source that it is about.  A span on one line is
underlined with carets.  A span over several lines is marked by a bar at the left that leads from
its start to its end.
-/

namespace Stencil

/-- How serious a message is. -/
inductive Level where
  | error
  | warning
  | info
  | hint
  deriving DecidableEq

namespace Level

/-- The word in front of a message. -/
def label : Level → String
  | error => "error"
  | warning => "warning"
  | info => "info"
  | hint => "help"

/-- The colour of a level on a terminal. -/
def colour : Level → String
  | error => "91"
  | warning => "33"
  | info => "94"
  | hint => "96"

end Level

/-- A message about a span of a source. -/
structure Frame where
  source : String
  path : String
  code : String
  message : String
  level : Level
  span : Span
  label : String := ""

namespace Frame

/-! ## The lines to show -/

/-- A line that says nothing: blank, a comment, or a single bracket. -/
def isIdle (text : List Char) : Bool :=
  let text := Text.trimChars text
  let starts (s : String) := s.toList.isPrefixOf text
  (starts "//" && !(starts "///" || starts "//!")) ||
    ["", "\x7b", "\x7d", "(", ")", "[", "]"].any fun s => s.toList == text

/-- The lines of a span over several lines that carry a mark: its first and last ones, without idle
lines at the edge of the part left out. -/
def markedLines (lines : List Line) (start stop : Nat) : List Nat :=
  let idle (n : Nat) := (lines[n]?).all fun l => isIdle l.text
  let middle := min (start + 4) stop
  let firstLines := List.range' start (middle - start)
  let lastBusy := (firstLines.reverse.find? fun n => !idle n).getD (start - 1)
  let beforeLast := if middle < stop - 1 && !idle (stop - 1) then [stop - 1] else []
  start :: (List.range' (start + 1) (lastBusy - start)) ++ beforeLast ++ [stop]

/-- What is shown behind a line. -/
inductive Gap where
  | none
  /-- One more line. -/
  | line (index : Nat)
  /-- A mark for several lines. -/
  | lines

/-- The gap between two lines that carry a mark. -/
def gap (line next : Nat) : Gap :=
  if line + 2 < next then .lines
  else if line + 2 = next then .line (line + 1)
  else .none

/-! ## Layout -/

/-- What all rows of a frame share. -/
structure Layout where
  /-- The columns of the largest line number. -/
  gutter : Nat
  /-- The column at which code starts. -/
  codeColumn : Nat
  margin : Margin

/-- The column of the bar that marks a span over several lines. -/
def Layout.barColumn (l : Layout) : Nat :=
  l.gutter + 3

/-- A row with the bar of the gutter. -/
def Layout.bar (l : Layout) : Row :=
  Row.put [] (l.gutter + 1) ['|'] .gutter

/-- A column of a line as a column of the frame. -/
def Layout.column (l : Layout) (text : List Char) (column : Nat) : Nat :=
  l.codeColumn + column - (l.margin.cut (shown text)).left

/-- A row with a line of the source. -/
def Layout.codeRow (l : Layout) (index : Nat) (text : List Char) : Row :=
  let cut := l.margin.cut (shown text)
  let row := if cut.cutLeft then Row.put [] l.codeColumn ellipsis .gutter else []
  let row := row.put (l.codeColumn + cut.indent) cut.code .none
  let row := match cut.cutRight with
    | some column => row.put (l.codeColumn + column) ellipsis .gutter
    | none => row
  let number := Nat.toDigits 10 (index + 1)
  (row.put (l.gutter - number.length) number .gutter).put (l.gutter + 1) ['|'] .gutter

/-- The characters of a repeated mark. -/
def marks (c : Char) (count : Nat) : List Char :=
  List.replicate count c

/-- A row with a label, if there is one. -/
def withLabel (row : Row) (column : Nat) (label : String) : Row :=
  if label.isEmpty then row else row.put column label.toList .level

/-! ## Rows -/

/-- The rows of a span on one line. -/
def singleRows (f : Frame) (l : Layout) (text : List Char) (start stop : Location) : List Row :=
  let last := if start.column = stop.column then start.column + 1 else stop.column
  let carets := l.bar.put (l.column text start.column) (marks '^' (last - start.column)) .level
  [l.codeRow start.line text, withLabel carets (l.column text last + 1) f.label]

/-- The rows of the first line of a span over several lines. -/
def startRows (l : Layout) (text : List Char) (start : Location) : List Row :=
  let row := l.codeRow start.line text
  if ((shown text).take start.column).all Text.isBlank then
    [row.put l.barColumn ['/'] .level]
  else
    let caret := l.column text start.column
    [row, (l.bar.put l.barColumn (' ' :: marks '_' (caret - (l.barColumn + 1))) .level).put caret
      ['^'] .level]

/-- The rows of the last line of a span over several lines. -/
def stopRows (f : Frame) (l : Layout) (text : List Char) (stop : Location) : List Row :=
  let caret := l.column text (stop.column - 1)
  let row := (l.codeRow stop.line text).put l.barColumn ['|'] .level
  let marked := (l.bar.put l.barColumn ('|' :: marks '_' (caret - (l.barColumn + 1))) .level).put
    caret ['^'] .level
  [row, withLabel marked (caret + 2) f.label]

/-- The rows of a gap in a span over several lines. -/
def gapRows (l : Layout) (lines : List Line) : Gap → List Row
  | .none => []
  | .line index =>
    let text := (lines[index]?.map (·.text)).getD []
    [(l.codeRow index text).put l.barColumn ['|'] .level]
  | .lines => [(Row.put [] 0 ellipsis .gutter).put l.barColumn ['|'] .level]

/-- The rows of a span over several lines. -/
def multiRows (f : Frame) (l : Layout) (lines : List Line) (start stop : Location) : List Row :=
  let text (index : Nat) := (lines[index]?.map (·.text)).getD []
  let marked := markedLines lines start.line stop.line
  let rows (index : Nat) : List Row :=
    if index = start.line then startRows l (text index) start
    else if index = stop.line then f.stopRows l (text index) stop
    else [(l.codeRow index (text index)).put l.barColumn ['|'] .level]
  let gaps := (marked.zip (marked.drop 1)).map fun (line, next) => gapRows l lines (gap line next)
  ((marked.map rows).zip (gaps ++ [[]])).flatMap fun (row, gap) => row ++ gap

/-- The rows of the message; a further line starts below the first one. -/
def messageRows (f : Frame) : List Row :=
  let head := f.level.label.toList ++ ['['] ++ f.code.toList ++ [']']
  match Text.splitAtChar '\n' (shown f.message.toList) with
  | [] => []
  | first :: others =>
    Row.put (Row.put [] 0 head .level) head.length (':' :: ' ' :: first) .strong ::
      others.map fun line =>
        Row.put (Row.put [] 0 (marks ' ' (head.length + 2)) .none) (head.length + 2) line .strong

/-- The columns that the marks of a span start and end at. -/
def markColumns (several : Bool) (start stop : Location) : List Nat :=
  if several then [start.column, start.column + 1, stop.column - 1, stop.column]
  else if start.column = stop.column then [start.column, start.column + 1]
  else [start.column, stop.column]

/-- The columns of a blank at the left: four for a tab, one for any other. -/
def blankWidth (c : Char) : Nat :=
  if c = '\t' then 4 else 1

/-- The columns of the blanks at the left that lines have in common. -/
def commonBlanks (texts : List (List Char)) : Nat :=
  let written := texts.filter fun text => text.any fun c => !Text.isBlank c
  let leading (text : List Char) :=
    (text.takeWhile Text.isBlank).foldr (fun c n => blankWidth c + n) 0
  (written.map leading).min?.getD 0

/-- The layout of a frame. -/
def layout (f : Frame) (lines : List Line) (start stop : Location) : Layout :=
  let several := decide (start.line ≠ stop.line)
  let marked := if several then markedLines lines start.line stop.line else [start.line]
  let texts := marked.filterMap fun n => (lines[n]?).map (·.text)
  let gutter := (Nat.toDigits 10 (stop.line + 1)).length
  let codeColumn := if several then gutter + 5 else gutter + 3
  let columns := markColumns several start stop
  let spanLeft := columns.min?.getD 0
  let spanRight := columns.max?.getD 0
  let last := if several || start.column ≠ stop.column then stop.column else stop.column + 1
  let label := if f.label.isEmpty then 0 else width f.label.toList + 1
  let startRight := if several then start.column + 1 else 0
  let margin := Margin.compute {
    blanks := min (commonBlanks texts) spanLeft
    spanLeft
    spanRight
    labelRight := max startRight (last + label)
    available := terminalWidth - codeColumn
    longest := ((texts.map width).max?).getD 0 }
  ⟨gutter, codeColumn, margin⟩

/-- All rows of a frame. -/
def rows (f : Frame) : List Row :=
  let source := f.source.toList
  let lines := Frame.lines source
  let (start, stop) := bounds source f.span
  let (start, stop) := locate lines start stop
  let l := f.layout lines start stop
  let place := ":" ++ toString (start.line + 1) ++ ":" ++ toString (start.char + 1)
  let arrow := (Row.put [] l.gutter "--> ".toList .gutter).put (l.gutter + 4)
    (f.path.toList ++ place.toList) .none
  let body :=
    if start.line = stop.line then
      f.singleRows l ((lines[start.line]?.map (·.text)).getD []) start stop
    else f.multiRows l lines start stop
  f.messageRows ++ arrow :: l.bar :: body

/-- The frame without colours. -/
def plain (f : Frame) : String :=
  "\n".intercalate (f.rows.map fun row => String.ofList row.plain)

/-- The frame with the colours of a terminal. -/
def styled (f : Frame) : String :=
  "\n".intercalate (f.rows.map (Row.styled f.level.colour))

end Frame

end Stencil
