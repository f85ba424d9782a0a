import Stencil.Diagnostic
import Stencil.Dict
import Stencil.Interpolation
import Stencil.Tree.Element

/-!
# Maps of directives

A directive map gives names their handlers.  It may lie over another map: what it does not name
itself is looked up below, and inserting never touches the map below.
-/

namespace Stencil

/-- The names of a list in increasing order, each once. -/
def insertName (name : String) : List String → List String
  | [] => [name]
  | n :: names =>
    if name < n then name :: n :: names
    else if name = n then n :: names
    else n :: insertName name names

/-- Layers of names with values; the innermost one wins. -/
inductive DirectiveMap (α : Type) where
  | flat (own : Dict α)
  | layered (own : Dict α) (base : DirectiveMap α)
  deriving DecidableEq

namespace DirectiveMap

variable {α : Type}

/-- The map without names. -/
def empty : DirectiveMap α := flat Dict.empty

/-- An empty layer over a map. -/
def overlay (base : DirectiveMap α) : DirectiveMap α := layered Dict.empty base

/-- Gives a name a value in the innermost layer. -/
def insert (m : DirectiveMap α) (name : String) (value : α) : DirectiveMap α :=
  match m with
  | flat own => flat (own.insert name value)
  | layered own base => layered (own.insert name value) base

/-- The value of a name in the innermost layer that has one. -/
def get? (m : DirectiveMap α) (name : String) : Option α :=
  match m with
  | flat own => own.get? name
  | layered own base => (own.get? name).or (base.get? name)

/-- Whether some layer has a value for a name. -/
def contains (m : DirectiveMap α) (name : String) : Bool :=
  (m.get? name).isSome

/-- All names in increasing order. -/
def names : DirectiveMap α → List String
  | flat own => own.names.foldr insertName []
  | layered own base => own.names.foldr insertName base.names

end DirectiveMap

/-! ## Handlers -/

/-- What a directive does to its element when the template is compiled, and whether it is still
needed at run time. -/
abbrev DirectiveHandler := DirectiveBinding → Element → Reported (Bool × Element)

namespace DirectiveHandler

/-- Sets a property to the text of the directive's value; an empty value sets nothing. -/
def display (property : String) : DirectiveHandler := fun directive e =>
  if directive.value.isEmpty then pure (false, e)
  else
    let value := Interpolation.displayHelper ++ "(" ++ directive.value ++ ")"
    pure (false, { e with
      properties := e.properties ++ [{ name := property, value, span := directive.span }] })

/-- Sets the text of an element. -/
def text : DirectiveHandler := display "textContent"

/-- Sets the markup of an element. -/
def html : DirectiveHandler := display "innerHTML"

end DirectiveHandler

/-- Applies the handlers of the directives of an element in order, and gives the directives that
are still needed at run time. -/
def Element.applyDirectives (e : Element) (handlers : DirectiveMap DirectiveHandler) :
    Reported (List DirectiveBinding × Element) :=
  e.directives.foldlM
    (fun (kept, e) directive =>
      match handlers.get? directive.name with
      | none => pure (kept ++ [directive], e)
      | some handler => do
        let (needed, e) ← handler directive e
        return (if needed then kept ++ [directive] else kept, e))
    ([], e)

end Stencil
