import Stencil.Options
import Stencil.Procedure
import Stencil.Settings

/-!
# The compiler

A compiler trims a template, has it built into a tree, optimised and turned into code, and checks
the expressions of the tree.  It never refuses a template: what is wrong with it comes back as
diagnostics beside the result.
-/

namespace Stencil

open Text

/-- The code of a template. -/
structure GeneratedCode where
  render : String
  staticRenderFns : List String := []
  deriving DecidableEq

/-- A compiler. -/
structure Compiler where
  /-- The options that those of a call are laid over. -/
  base : Options
  /-- Builds the tree of a trimmed template. -/
  build : String → Options → Reported Tree
  /-- Marks the parts of a tree that never change. -/
  optimizer : Option (Options → Tree → Tree) := none
  generate : Tree → Options → GeneratedCode
  checker : Checker := .ecma
  factory : Factory := .ecma true

/-- The options of a call that settings stand for. -/
def CallOptions.ofSettings (s : Settings) : CallOptions where
  delimiters := s.delimiters
  preserveWhitespace := some s.preserveWhitespace
  comments := some s.comments
  outputSourceRange := some s.outputSourceRange
  optimize := some s.optimize

namespace Compiler

/-- The compiler with the settings of a project. -/
def withSettings (c : Compiler) (s : Settings) : Compiler :=
  { c with
    base := (CallOptions.ofSettings s).resolve c.base
    factory := .ecma s.allowRuntimeCompilation }

/-- What a template compiles to. -/
structure Result where
  tree : Tree
  code : GeneratedCode
  diagnostics : Diagnostics

/-- The number of bytes that trimming cuts off the start of a template. -/
def leadingBytes (template : String) : UInt32 :=
  offsetOfNat (Frame.byteCount (template.toList.takeWhile isBlank))

/-- Compiles a template.  There is no result if the tree holds a cycle below its root. -/
def compile? (c : Compiler) (template : String) (call : CallOptions) : Option Result := do
  let options := call.resolve c.base
  let built := c.build (trim template) options
  let tree := match c.optimizer with
    | some optimize => if options.optimize then optimize options built.value else built.value
    | none => built.value
  let checked ← tree.reports? c.checker
  return {
    tree
    code := c.generate tree options
    diagnostics := Diagnostics.collect options.outputSourceRange (leadingBytes template)
      (built.reports ++ checked) }

end Compiler

end Stencil
