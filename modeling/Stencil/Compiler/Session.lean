import Stencil.Compiler.Basic
import Stencil.Frame.Basic

/-!
# Compiling to procedures

A session keeps what its compiler has made, by delimiters and template, so that a template is
compiled once.  The first call also finds out whether procedures can be made at all.
-/

namespace Stencil

/-! ## Reports of the compiler -/

/-- What a compiler reports. -/
inductive CompilerError where
  /-- A template has errors. -/
  | compile (details : String)
  /-- Generated code could not be made into procedures. -/
  | generation (details : String)
  /-- Procedures cannot be made here at all. -/
  | runtimeCompilationUnavailable
  deriving DecidableEq

namespace CompilerError

/-- The stable code of an error. -/
def code : CompilerError → String
  | compile _ => "C100"
  | generation _ => "C101"
  | runtimeCompilationUnavailable => "C102"

/-- What an error says to a reader. -/
def message : CompilerError → String
  | compile details => "Error compiling template:\n\n" ++ details
  | generation details => "Failed to generate render function:\n\n" ++ details
  | runtimeCompilationUnavailable =>
    "It seems you are running the template compiler in an environment that prohibits " ++
      "runtime code construction. The template compiler cannot work in this environment. " ++
      "Consider relaxing the policy to allow runtime code construction, or pre-compiling " ++
      "your templates into render functions."

/-- The diagnostic of an error. -/
def diagnostic (e : CompilerError) (span : Option Span) : Diagnostic :=
  ⟨e.code, e.message, span⟩

end CompilerError

/-- The first line of a text. -/
def firstLine (text : String) : String :=
  match Frame.cutLines text.toList with
  | [] => ""
  | (line, _) :: _ => String.ofList line

/-- Whether a diagnostic can be printed: there is no frame for a span that cuts a character. -/
def isPrintable (template : Option String) (d : Diagnostic) : Bool :=
  match template, d.span with
  | some source, some span => Frame.fits source span
  | _, _ => true

namespace Compiler

/-- The report of an error of a template, with a code frame if its place is known.  There is no
report if the frame cannot be printed. -/
def errorReport? (template : String) (error : Diagnostic) : Option Report :=
  if isPrintable (some template) error then
    let details := match error.span with
      | some span =>
        let frame : Frame := {
          source := template, path := "template", code := error.code
          message := firstLine error.message, level := .error, span }
        error.message ++ "\n\n" ++ frame.plain
      | none => error.message
    some ⟨(CompilerError.compile details).diagnostic error.span, false⟩
  else none

/-- The reports of the errors of a template: with `ranges` one for each error, else one for all. -/
def errorReports? (template : String) (errors : List Diagnostic) (ranges : Bool) :
    Option (List Report) :=
  if errors.isEmpty then some []
  else if ranges then errors.mapM (errorReport? template)
  else
    let listing := "\n".intercalate (errors.map fun error => "- " ++ error.message)
    let details := template ++ "\n\n" ++ listing ++ "\n"
    some [⟨(CompilerError.compile details).diagnostic none, false⟩]

/-! ## Procedures -/

/-- The procedures of a template. -/
structure Functions where
  render : Procedure
  staticRenderFns : List Procedure
  deriving DecidableEq

/-- A procedure of some code; an empty one if the factory refuses the code. -/
def materialize (factory : Factory) (source : String) : Procedure :=
  match factory.construct source with
  | .ok procedure => procedure
  | .error _ => .noop

/-- The pieces of code that a factory refuses, with the reasons. -/
def failures (factory : Factory) (sources : List String) : List (ConstructError × String) :=
  sources.filterMap fun source =>
    match factory.construct source with
    | .ok _ => none
    | .error error => some (error, source)

/-- The report of code that could not be made into procedures.  Errors of the template usually
explain it already. -/
def failureReports (errors : List Diagnostic) (failures : List (ConstructError × String)) :
    List Report :=
  if errors.isEmpty && !failures.isEmpty then
    let details := "\n".intercalate
      (failures.map fun (error, source) => error.message ++ " in\n\n" ++ source ++ "\n")
    [⟨(CompilerError.generation details).diagnostic none, false⟩]
  else []

/-- The procedures of a compiled template. -/
def functions (c : Compiler) (code : GeneratedCode) : Functions :=
  ⟨materialize c.factory code.render, code.staticRenderFns.map (materialize c.factory)⟩

/-- The reports on a compiled template: its errors, its tips, and code that failed. -/
def reports? (c : Compiler) (template : String) (call : CallOptions) (r : Result) :
    Option (List Report) := do
  let ranges := call.outputSourceRange.getD c.base.outputSourceRange
  let errors ← errorReports? template r.diagnostics.errors ranges
  return errors ++ r.diagnostics.tips.map (fun tip => ⟨tip, true⟩) ++
    failureReports r.diagnostics.errors
      (failures c.factory (r.code.render :: r.code.staticRenderFns))

/-- The advice that procedures cannot be made. -/
def probeReports (c : Compiler) : List Report :=
  match c.factory.probe with
  | .error (.prohibited _) =>
    [⟨CompilerError.runtimeCompilationUnavailable.diagnostic none, true⟩]
  | _ => []

/-! ## Sessions -/

/-- Procedures in a cache; every compilation has a number of its own. -/
structure Entry where
  serial : Nat
  functions : Functions
  deriving DecidableEq

/-- What a compiler keeps between two calls. -/
structure Session where
  cache : Dict Entry := {}
  probed : Bool := false
  /-- The number of compilations so far. -/
  count : Nat := 0
  deriving DecidableEq

/-- What a call gives. -/
structure Outcome where
  entry : Entry
  reports : List Report
  /-- The text that was built, if the cache did not hold it. -/
  built : Option String
  session : Session

/-- Compiles a template to procedures, or takes them from the cache.  There is no outcome if the
template does not compile, or if the call is broken off because an error cannot be printed; what it
has reported until then is left out, and nothing is cached. -/
def compileToFunctions? (c : Compiler) (s : Session) (template : String) (call : CallOptions) :
    Option Outcome :=
  let probe := if s.probed then [] else c.probeReports
  let s := { s with probed := true }
  let key := call.cacheKey template
  match s.cache.get? key with
  | some entry => some ⟨entry, probe, none, s⟩
  | none => do
    let r ← c.compile? template call
    let reports ← c.reports? template call r
    let entry : Entry := ⟨s.count, c.functions r.code⟩
    return {
      entry
      reports := probe ++ reports
      built := some (Text.trim template)
      session := { s with cache := s.cache.insert key entry, count := s.count + 1 } }

/-- Forgets all procedures. -/
def Session.clear (s : Session) : Session :=
  { s with cache := {} }

end Compiler

end Stencil
