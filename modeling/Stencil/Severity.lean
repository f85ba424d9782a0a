import Stencil.Dict
import Stencil.Frame.Basic
import Stencil.Text.Blank

/-!
# Severities

A severity table gives codes, or beginnings of codes, a severity.  The longest beginning of a code
decides, and a code without one is an error.
-/

namespace Stencil

open Text

/-- How a diagnostic is treated. -/
inductive Severity where
  | off
  | error
  | warning
  | info
  | hint
  deriving DecidableEq

namespace Severity

/-- The level at which a diagnostic is shown, if it is. -/
def level? : Severity → Option Level
  | off => none
  | error => some .error
  | warning => some .warning
  | info => some .info
  | hint => some .hint

/-- The word for a severity. -/
def word : Severity → String
  | off => "off"
  | error => "error"
  | warning => "warning"
  | info => "info"
  | hint => "hint"

/-- The severity with a word. -/
def ofWord? (word : String) : Option Severity :=
  [off, error, warning, info, hint].find? fun s => s.word == word

end Severity

/-- Severities of codes and beginnings of codes. -/
abbrev SeverityTable := Dict Severity

namespace SeverityTable

/-- The entry of two whose beginning is longer; the first one if they are equally long. -/
def longer (best : Option (String × Severity)) (entry : String × Severity) :
    Option (String × Severity) :=
  match best with
  | none => some entry
  | some best => if best.1.length < entry.1.length then some entry else some best

/-- The entry with the longest beginning of a code. -/
def longestMatch? (table : SeverityTable) (code : String) : Option (String × Severity) :=
  (table.entries.filter fun entry => hasStart code entry.1).foldl longer none

/-- The severity of a code. -/
def severity (table : SeverityTable) (code : String) : Severity :=
  match table.longestMatch? code with
  | some (_, severity) => severity
  | none => .error

/-- Whether a code is shown. -/
def enabled (table : SeverityTable) (code : String) : Bool :=
  table.severity code != .off

/-- The severity that a selected code gets: its own, unless that would hide it. -/
def selectedSeverity (table : SeverityTable) (code : String) : Severity :=
  match table.severity code with
  | .off => .error
  | severity => severity

/-- The table that shows only selected codes. -/
def selected (table : SeverityTable) (select : List String) : SeverityTable :=
  (Dict.ofList (select.map fun code => (code, table.selectedSeverity code))).insert "" .off

/-- The table after a choice: with some codes selected all others are off, and ignored codes are
off. -/
def withSelection (table : SeverityTable) (select ignore : List String) : SeverityTable :=
  let table := if select.isEmpty then table else table.selected select
  table.insertAll (ignore.map fun code => (code, .off))

end SeverityTable

end Stencil
