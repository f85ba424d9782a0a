import Stencil.Interpolation
import Stencil.Severity
import Stencil.Text.Printable
import Stencil.Toml.Document

/-!
# Settings

Settings come from up to three files: one of the user and two of the project.  Later files are laid
over earlier ones, and what no file says has a default.
-/

namespace Stencil

open Text

/-- The settings of a project. -/
structure Settings where
  debug : Bool := false
  delimiters : Option Delimiters := none
  outputSourceRange : Bool := false
  optimize : Bool := true
  preserveWhitespace : Bool := true
  comments : Bool := false
  allowRuntimeCompilation : Bool := true
  severity : SeverityTable := {}
  deriving DecidableEq

/-- Why settings cannot be loaded. -/
inductive SettingsError where
  /-- A file cannot be read, or a value is of the wrong kind. -/
  | config
  /-- A delimiter is empty. -/
  | delimiters (pair : Delimiters)
  deriving DecidableEq

/-- What an error says to a reader. -/
def SettingsError.message : SettingsError → String
  | config => "Configuration build/deserialize error"
  | delimiters pair =>
    "Invalid delimiters [" ++ debugString pair.openText ++ ", " ++ debugString pair.closeText ++
      "]: both the opening and closing delimiter must be non-empty"

/-! ## Values of settings -/

namespace Toml

/-- A text in lower case. -/
def lower (text : String) : String :=
  String.ofList (text.toList.map Char.toLower)

/-- A flag: a boolean, one of some words, or a number that is zero or not. -/
def flag? : Toml → Option Bool
  | .boolean b => some b
  | .integer n => some (n != 0)
  | .float text => some (text != "0" && text != "-0")
  | .string text | .datetime text =>
    if ["1", "true", "on", "yes"].contains (lower text) then some true
    else if ["0", "false", "off", "no"].contains (lower text) then some false
    else none
  | .array _ | .table _ => none

/-- A text; numbers and booleans are written out. -/
def text? : Toml → Option String
  | .string text | .datetime text | .float text => some text
  | .integer n => some (toString n)
  | .boolean b => some (if b then "true" else "false")
  | .array _ | .table _ => none

/-- A pair of delimiters: the first two items of an array. -/
def delimiters? : Toml → Option Delimiters
  | .array (opening :: closing :: _) => do
    return ⟨← opening.text?, ← closing.text?⟩
  | _ => none

/-- A severity: its word, alone or as the only entry of a table. -/
def severity? : Toml → Option Severity
  | .string word | .datetime word => Severity.ofWord? word
  | .table [(word, _)] => Severity.ofWord? word
  | _ => none

/-- A table of severities. -/
def severities? : Toml → Option SeverityTable
  | .table entries => do
    let pairs ← entries.mapM fun (code, value) => value.severity?.map fun s => (code, s)
    return Dict.ofList pairs
  | _ => none

/-- The severities of the section on diagnostics. -/
def diagnostics? : Toml → Option SeverityTable
  | .table entries =>
    match entries.lookup "severity" with
    | some value => value.severities?
    | none => some {}
  | .array [] => some {}
  | .array (value :: _) => value.severities?
  | _ => none

end Toml

/-! ## Loading -/

namespace Settings

/-- The value of an entry, or a default if there is none. -/
def entry {α : Type} (entries : List (String × Toml)) (name : String) (default : α)
    (read? : Toml → Option α) : Except SettingsError α :=
  match entries.lookup name with
  | none => .ok default
  | some value =>
    match read? value with
    | some a => .ok a
    | none => .error .config

/-- The settings that a merged configuration gives. -/
def ofEntries (entries : List (String × Toml)) : Except SettingsError Settings := do
  let settings : Settings := {
    debug := ← entry entries "debug" false Toml.flag?
    delimiters := ← entry entries "delimiters" none fun v => v.delimiters?.map some
    outputSourceRange := ← entry entries "output_source_range" false Toml.flag?
    optimize := ← entry entries "optimize" true Toml.flag?
    preserveWhitespace := ← entry entries "preserve_whitespace" true Toml.flag?
    comments := ← entry entries "comments" false Toml.flag?
    allowRuntimeCompilation := ← entry entries "allow_runtime_compilation" true Toml.flag?
    severity := ← entry entries "diagnostics" {} Toml.diagnostics? }
  match settings.delimiters with
  | some pair =>
    if pair.openText.isEmpty || pair.closeText.isEmpty then throw (.delimiters pair)
    else return settings
  | none => return settings

/-- An outermost entry as a table: a name with dots is a path.  Paths may also pick an item of an
array by its index in brackets; that is left out, and a name with brackets is taken as it is. -/
def rootEntry (entry : String × Toml) : List (String × Toml) :=
  let parts := splitAtChar '.' entry.1.toList
  if 1 < parts.length && parts.all Toml.isPathPart then
    match Toml.nested entry.2 (parts.map String.ofList) with
    | .table entries => entries
    | _ => [entry]
  else [entry]

/-- Layers of entries laid over one another, the last one on top. -/
def merge (layers : List (List (String × Toml))) : List (String × Toml) :=
  (layers.map fun entries => entries.flatMap rootEntry).foldl Toml.layerEntries []

/-- The settings of some layers. -/
def ofLayers (layers : List (List (String × Toml))) : Except SettingsError Settings :=
  ofEntries (merge layers)

/-- The settings of some files, in the order of their weight; a file may be missing. -/
def load (files : List (Option String)) : Except SettingsError Settings := do
  let layers ← (files.filterMap id).mapM fun text =>
    match Toml.parse? text with
    | some entries => pure entries
    | none => throw SettingsError.config
  ofLayers layers

end Settings

end Stencil
