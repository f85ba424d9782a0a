import Stencil.Module.Basic
import Stencil.Problem
import Stencil.Processing

/-!
# Classes

Moves the plain and the bound class of an element into fields of their own.
-/

namespace Stencil

open Text

/-- Takes the plain class; it must not hold an interpolation. -/
def Element.takeStaticClass (scope : Scope) (e : Element) : Reported Element := do
  let (text, e) := e.take "class" false
  match text.filter fun text => !text.isEmpty with
  | none => return e
  | some text =>
    if (Interpolation.parse? text scope.delimiters).isSome then
      (Problem.attributeInterpolation "class" text).report (e.attributeSpan "class")
    return { e with staticClass := some (quote text) }

/-- Takes the bound class. -/
def Element.takeClassBinding (e : Element) : Element :=
  let (code, e) := e.takeBinding "class" false
  { e with classBinding := (code.filter fun code => !code.isEmpty).or e.classBinding }

/-- The data fields of the classes of an element. -/
def Element.classData (e : Element) : String :=
  (match e.staticClass with
    | some text => "staticClass:" ++ text ++ ","
    | none => "") ++
  (match e.classBinding with
    | some code => "class:" ++ code ++ ","
    | none => "")

/-- The module that moves classes. -/
def Module.classes : Module where
  staticKeys := ["staticClass"]
  transform scope id tree := tree.updateElement id fun e => do
    return (← e.takeStaticClass scope).takeClassBinding
  genData := Element.classData

end Stencil
