import Stencil.Directive.Name
import Stencil.LoopHeader
import Stencil.Module.Basic
import Stencil.Problem

/-!
# Processing elements

The attributes of an element are taken apart in two steps: `processLoop` reads its loop header, and
`processElement` finds its key and its reference, runs the modules, and turns every attribute that
remains into an attribute, a property, an event or a directive.
-/

namespace Stencil

open Text

/-! ## Loops -/

/-- Takes the loop header of an element and fills in what it says. -/
def Element.processLoop (e : Element) : Reported Element :=
  let (header, e) := e.take "v-for" false
  match header.filter fun header => !header.isEmpty with
  | none => pure e
  | some header =>
    match LoopHeader.parse? header with
    | some loop => pure { e with
        loopSource := some loop.source
        loopItem := some loop.item
        iterator1 := loop.iterator1
        iterator2 := loop.iterator2 }
    | none => do
      (Problem.invalidLoop header).report (e.attributeSpan "v-for")
      return e

/-! ## Attributes -/

/-- A plain attribute; it must not hold an interpolation. -/
def Element.addPlain (scope : Scope) (e : Element) (a : Attribute) : Reported Element := do
  if (Interpolation.parse? a.value scope.delimiters).isSome then
    (Problem.attributeInterpolation a.name a.value).report a.span
  let e := { e with
    attributes := e.attributes ++ [{ name := a.name, value := quote a.value, span := a.span }] }
  if a.name == "muted" && scope.mustUseProp e.tag (e.written.get? "type") a.name then
    return { e with
      properties := e.properties ++ [{ name := a.name, value := "true", span := a.span }] }
  else
    return e

/-- A bound attribute, which is a property if a modifier or the scope says so. -/
def Element.addBound (scope : Scope) (e : Element) (a : Attribute) (name : String)
    (dynamic : Bool) (modifiers : List String) : Element :=
  let binding : Binding := { name, value := Filter.compile a.value, dynamic, span := a.span }
  if modifiers.contains "prop" || scope.mustUseProp e.tag (e.written.get? "type") name then
    { e with properties := e.properties ++ [binding] }
  else
    { e with attributes := e.attributes ++ [binding] }

/-- Processes one attribute by its kind. -/
def Element.processAttribute (scope : Scope) (e : Element) (a : Attribute) : Reported Element :=
  match AttributeKind.ofName a.name with
  | .plain => e.addPlain scope a
  | .bound name dynamic modifiers =>
    pure ({ e with hasBindings := true }.addBound scope a name dynamic modifiers)
  | .event name dynamic modifiers => pure { e with
      hasBindings := true
      events := e.events ++ [{ name, value := a.value, modifiers, dynamic, span := a.span }] }
  | .directive name argument dynamicArgument modifiers => pure { e with
      hasBindings := true
      directives := e.directives ++
        [{ name, rawName := a.name, value := a.value, argument, dynamicArgument, modifiers,
           span := a.span }] }

/-- Processes the attributes that are still pending. -/
def Element.processAttributes (scope : Scope) (e : Element) : Reported Element :=
  e.pending.foldlM (Element.processAttribute scope) e

/-- Finds the key and the reference of an element. -/
def Element.processKey (e : Element) : Element :=
  let (key, e) := e.takeBinding "key" true
  let key := (key.filter fun key => !key.isEmpty).or e.key
  let e := { e with key, plain := key.isNone && e.pending.isEmpty }
  let (reference, e) := e.takeBinding "ref" true
  { e with reference := (reference.filter fun r => !r.isEmpty).or e.reference }

/-! ## Elements of a tree -/

namespace Tree

/-- Changes an element with reports; other nodes stay as they are. -/
def updateElement (t : Tree) (id : NodeId) (f : Element → Reported Element) : Reported Tree :=
  match t.element? id with
  | none => pure t
  | some e => do
    let e ← f e
    return t.modifyElement id fun _ => e

/-- Takes the loop header of an element. -/
def processLoop (t : Tree) (id : NodeId) : Reported Tree :=
  t.updateElement id Element.processLoop

/-- Processes an element, with the modules of the host. -/
def processElement (t : Tree) (host : Host) (id : NodeId) : Reported Tree :=
  match t.element? id with
  | none => pure t
  | some _ => do
    let t := t.modifyElement id Element.processKey
    let t ← host.transform id t
    t.updateElement id (Element.processAttributes host.toScope)

end Tree

end Stencil
