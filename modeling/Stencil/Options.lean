import Stencil.Directive.Map
import Stencil.Module.Basic
import Stencil.Text.Printable

/-!
# Options

`Options` are complete; `CallOptions` say only what is different for one call and are laid over
complete ones by `resolve`.
-/

namespace Stencil

open Text

/-- The options of a compilation. -/
structure Options extends Scope where
  /-- The modules in the order in which they run. -/
  modules : List Module := []
  directives : DirectiveMap DirectiveHandler := .empty
  preserveWhitespace : Bool := true
  comments : Bool := false
  /-- Whether diagnostics say where in the template they arose. -/
  outputSourceRange : Bool := false
  optimize : Bool := true
  /-- The data fields that never change between two renders, divided by commas. -/
  staticKeys : String := ""

namespace Options

/-- The options with other modules, and with the static keys of these. -/
def withModules (o : Options) (modules : List Module) : Options :=
  { o with modules, staticKeys := Module.joinedKeys modules }

/-- Runs the modules on an element. -/
def transform (o : Options) (id : NodeId) (tree : Tree) : Reported Tree :=
  Module.transformAll o.modules o.toScope id tree

/-- What the modules can use while they replace an element. -/
def host (o : Options) : Host :=
  { o.toScope with transform := o.transform }

/-- Lets the modules replace an element; the result takes its place. -/
def preTransform (o : Options) (id : NodeId) (tree : Tree) : Reported (NodeId × Tree) :=
  Module.preTransformAll o.modules o.host id tree

/-- The data fields that the modules give an element. -/
def genData (o : Options) (e : Element) : String :=
  String.join (o.modules.map fun m => m.genData e)

/-- Applies the directives of an element, and gives those still needed at run time. -/
def applyDirectives (o : Options) (e : Element) : Reported (List DirectiveBinding × Element) :=
  e.applyDirectives o.directives

end Options

/-- The options of one call; what is not set stays as it is. -/
structure CallOptions where
  delimiters : Option Delimiters := none
  /-- Modules that run behind those of the base. -/
  modules : List Module := []
  /-- Directives that hide those of the base with the same name. -/
  directives : Dict DirectiveHandler := {}
  preserveWhitespace : Option Bool := none
  comments : Option Bool := none
  outputSourceRange : Option Bool := none
  optimize : Option Bool := none

namespace CallOptions

/-- The directives of a call over those of a base. -/
def overlay (directives : Dict DirectiveHandler) (base : DirectiveMap DirectiveHandler) :
    DirectiveMap DirectiveHandler :=
  if directives.isEmpty then base
  else directives.entries.foldl (fun map entry => map.insert entry.1 entry.2) base.overlay

/-- The options of a call laid over a base. -/
def resolve (c : CallOptions) (base : Options) : Options :=
  let merged := if c.modules.isEmpty then base else base.withModules (base.modules ++ c.modules)
  { merged with
    directives := overlay c.directives base.directives
    delimiters := c.delimiters.or base.delimiters
    preserveWhitespace := c.preserveWhitespace.getD base.preserveWhitespace
    comments := c.comments.getD base.comments
    outputSourceRange := c.outputSourceRange.getD base.outputSourceRange
    optimize := c.optimize.getD base.optimize }

/-- The key under which the result of a template is kept. -/
def cacheKey (c : CallOptions) (template : String) : String :=
  match c.delimiters with
  | some d => d.display ++ template
  | none => template

end CallOptions

/-! ## Options for developers to read -/

namespace Describe

/-- The text of a flag. -/
def bool (b : Bool) : String :=
  if b then "true" else "false"

/-- The text of something that may be missing. -/
def option {α : Type} (f : α → String) : Option α → String
  | some a => "Some(" ++ f a ++ ")"
  | none => "None"

/-- The text of a pair of delimiters. -/
def delimiters (d : Delimiters) : String :=
  "Delimiters \x7b open: " ++ debugString d.openText ++ ", close: " ++ debugString d.closeText ++
    " \x7d"

/-- The texts of some names, divided by commas. -/
def names (names : List String) : String :=
  ", ".intercalate (names.map debugString)

/-- Named fields, divided by commas. -/
def fields (fields : List (String × String)) : String :=
  ", ".intercalate (fields.map fun (name, value) => name ++ ": " ++ value)

end Describe

/-- The options in one line. -/
def Options.describe (o : Options) : String :=
  "CompilerOptions \x7b " ++
    Describe.fields [
      ("delimiters", Describe.option Describe.delimiters o.delimiters),
      ("modules", toString o.modules.length),
      ("directives", "\x7b" ++ Describe.names o.directives.names ++ "\x7d"),
      ("preserve_whitespace", Describe.bool o.preserveWhitespace),
      ("comments", Describe.bool o.comments),
      ("output_source_range", Describe.bool o.outputSourceRange),
      ("optimize", Describe.bool o.optimize),
      ("static_keys", debugString o.staticKeys)] ++
    ", .. \x7d"

/-- The options of a call in one line; `warn` says whether reports are received. -/
def CallOptions.describe (c : CallOptions) (warn : Bool) : String :=
  "CompileOptions \x7b " ++
    Describe.fields [
      ("delimiters", Describe.option Describe.delimiters c.delimiters),
      ("modules", toString c.modules.length),
      ("directives", "[" ++ Describe.names (DirectiveMap.flat c.directives).names ++ "]"),
      ("preserve_whitespace", Describe.option Describe.bool c.preserveWhitespace),
      ("comments", Describe.option Describe.bool c.comments),
      ("output_source_range", Describe.option Describe.bool c.outputSourceRange),
      ("optimize", Describe.option Describe.bool c.optimize),
      ("warn", Describe.bool warn)] ++
    " \x7d"

end Stencil
