/-!
# A canvas of inked characters

A row is a list of characters, each with the ink it is written in.  Rows are printed plain, or with
the escape codes that colour a terminal.
-/

namespace Stencil.Frame

/-- What a character is written in. -/
inductive Ink where
  | none
  /-- The colour of the level. -/
  | level
  /-- The colour of line numbers and bars. -/
  | gutter
  /-- No colour of its own, but strong. -/
  | strong
  deriving DecidableEq

/-- A row of a frame. -/
abbrev Row := List (Char × Ink)

namespace Row

/-- A row with a text at a column.  Blanks fill up a row that is too short; no text changes
nothing. -/
def put (row : Row) (column : Nat) (text : List Char) (ink : Ink) : Row :=
  if text.isEmpty then row
  else
    (row ++ List.replicate (column - row.length) (' ', Ink.none)).take column ++
      text.map (fun c => (c, ink)) ++ row.drop (column + text.length)

/-- The characters of a row. -/
def plain (row : Row) : List Char :=
  row.map Prod.fst

/-- The row cut into runs of one ink. -/
def runs : Row → List (Ink × List Char)
  | [] => []
  | (c, ink) :: rest =>
    match runs rest with
    | [] => [(ink, [c])]
    | (next, text) :: others =>
      if ink = next then (ink, c :: text) :: others else (ink, [c]) :: (next, text) :: others

/-- The escape code of a number. -/
def code (number : String) : String := "\x1b[" ++ number ++ "m"

/-- A run with its escape codes; `level` is the colour of the level. -/
def styledRun (level : String) (run : Ink × List Char) : String :=
  let text := String.ofList run.2
  match run.1 with
  | .none => text
  | .level => code "1" ++ code level ++ text ++ code "0"
  | .gutter => code "1" ++ code "94" ++ text ++ code "0"
  | .strong => code "1" ++ text ++ code "0"

/-- A row with its escape codes. -/
def styled (level : String) (row : Row) : String :=
  String.join (row.runs.map (styledRun level))

end Row

end Stencil.Frame
