import Stencil.CommandLine.Arguments
import Stencil.Compiler.Session
import Stencil.Json.Codec
import Stencil.Json.Pretty
import Stencil.Settings

/-!
# The command line

What the program prints and how it ends, as a function of its arguments and the files it can read.
-/

namespace Stencil.CommandLine

/-- What a run gives. -/
structure Output where
  exit : Nat
  stdout : String := ""
  /-- The lines for the developer. -/
  stderr : List String := []
  deriving DecidableEq

/-- Where a run finds things. -/
structure Surroundings where
  /-- The text of a file, if it can be read. -/
  read : String → Option String
  /-- The configuration of the user. -/
  user : Option String := none
  /-- Whether the output is coloured. -/
  styled : Bool := false

/-- A run that fails with a message.  The lines that name the cause of the failure are left out. -/
def failure (message : String) : Output :=
  { exit := 1, stderr := ["Error: " ++ message] }

/-- A run that breaks off before it has printed anything. -/
def brokenOff : Output :=
  { exit := 101 }

/-! ## Filters and texts -/

/-- The parts of an expression with filters. -/
def pipelineJson (p : Filter.Pipeline) : Json :=
  .object [("base", .string p.base),
    ("filters", .list (fun (c : Filter.Call) =>
      .object [("name", .string c.name), ("args", .option .string c.args)]) p.filters)]

/-- The parts of an interpolated text. -/
def interpolationJson (i : Interpolation) : Json :=
  .object [("expression", .string i.expression),
    ("tokens", .list Interpolation.Token.toJson i.tokens)]

/-- Compiles an expression with filters, or shows its parts. -/
def runFilters (expression : String) (json : Bool) : Output :=
  let p := Filter.Pipeline.parse expression
  { exit := 0, stdout := (if json then (pipelineJson p).pretty else p.source) ++ "\n" }

/-- Reads a text around its interpolations. -/
def readText (text : String) (delimiters : Option Delimiters) : Output :=
  match Interpolation.parse? text delimiters with
  | some i => { exit := 0, stdout := (interpolationJson i).pretty ++ "\n" }
  | none => { exit := 1, stderr := ["No interpolation found."] }

/-- Reads a text around its interpolations, with delimiters that may be given. -/
def runText (text : String) (delimiters : List String) : Output :=
  match delimiters with
  | [] => readText text none
  | [opening, closing] =>
    if opening.isEmpty || closing.isEmpty then
      failure "--delimiters needs a non-empty opening and closing delimiter"
    else readText text (some ⟨opening, closing⟩)
  | _ => failure "--delimiters needs a non-empty opening and closing delimiter"

/-! ## Checks -/

/-- How a diagnostic is printed: as a frame if its place in a template is known. -/
def block (styled : Bool) (template : Option String) (path : String) (level : Level)
    (d : Diagnostic) : String :=
  match template, d.span with
  | some source, some span =>
    let message := firstLine d.message
    let frame : Frame := { source, path, code := d.code, message, level, span }
    if styled then frame.styled else frame.plain
  | _, _ => level.label ++ "[" ++ d.code ++ "]: " ++ d.message ++ "\n --> " ++ path

/-- The diagnostics that are shown, each with its level. -/
def shownDiagnostics (table : SeverityTable) (diagnostics : List Diagnostic) :
    List (Level × Diagnostic) :=
  diagnostics.filterMap fun d => (table.severity d.code).level?.map fun level => (level, d)

/-- The outcome of a check of a tree.  It is broken off if a diagnostic that is shown cannot be
printed, also when nothing is to be printed. -/
def checkOutput (quiet styled : Bool) (template : Option String) (path : String)
    (shown : List (Level × Diagnostic)) : Output :=
  if !shown.all fun (_, d) => isPrintable template d then brokenOff
  else
    let blocks := shown.map fun (level, d) => block styled template path level d ++ "\n\n"
    let stdout := if quiet then "" else String.join blocks
    let count := (shown.filter fun (level, _) => level == .error).length
    if count = 0 then { exit := 0, stdout }
    else
      let word := if count = 1 then "error" else "errors"
      { exit := 1, stdout, stderr := ["Found " ++ toString count ++ " " ++ word ++ "."] }

/-- The settings of the project and the user. -/
def settings (s : Surroundings) : Except SettingsError Settings :=
  Settings.load [s.user, s.read ".tplc.toml", s.read "tplc.toml"]

/-- A file that has to be there. -/
def readFile (s : Surroundings) (path : String) : Except Output String :=
  match s.read path with
  | some text => .ok text
  | none => .error (failure ("Failed to read " ++ path))

/-- The tree in a file. -/
def readTree (s : Surroundings) (path : String) : Except Output Tree := do
  match Tree.parse? (← readFile s path) with
  | some tree => return tree
  | none => throw (failure ("Failed to parse template tree " ++ path))

/-- Checks the expressions of a tree.  There is no outcome if the tree holds a cycle. -/
def runCheck (s : Surroundings) (quiet : Bool) (tree : String) (template : Option String)
    (select ignore : List String) : Option Output :=
  let inputs : Except Output (SeverityTable × Tree × Option String) := do
    match settings s with
    | .error _ => throw (failure "Failed to load settings")
    | .ok settings =>
      let parsed ← readTree s tree
      let source ← match template with
        | some path => (readFile s path).map some
        | none => pure none
      return (settings.severity.withSelection select ignore, parsed, source)
  match inputs with
  | .error output => some output
  | .ok (table, parsed, source) =>
    (parsed.diagnostics? .ecma).map fun diagnostics =>
      checkOutput quiet s.styled source (template.getD tree) (shownDiagnostics table diagnostics)

/-! ## The program -/

/-- The name and the version of the program. -/
def version : String := "tplc 0.1.0"

/-- Runs a command. -/
def Invocation.run (s : Surroundings) (i : Invocation) : Option Output :=
  match i.command with
  | .filters expression json => some (runFilters expression json)
  | .text text delimiters => some (runText text delimiters)
  | .check tree template select ignore => runCheck s i.quiet tree template select ignore

/-- Runs the program. -/
def run (s : Surroundings) (arguments : List String) : Option Output :=
  match Invocation.parse arguments with
  | .ok invocation => invocation.run s
  | .error .usage => some { exit := 2 }
  | .error .version => some { exit := 0, stdout := version ++ "\n" }
  | .error .help => some { exit := 0 }

end Stencil.CommandLine
