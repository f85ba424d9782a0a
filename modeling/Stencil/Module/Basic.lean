import Stencil.Diagnostic
import Stencil.Tree.Basic

/-!
# Modules

A module takes part in building a tree.  Before the attributes of an element are processed it may
put another element in its place; while they are processed it may change the element; and in the end
it may contribute fields to the data of the element.
-/

namespace Stencil

/-- The options that a module can see. -/
structure Scope where
  /-- The delimiters of interpolations, if they are not the standard ones. -/
  delimiters : Option Delimiters := none
  /-- Whether an attribute has to be set as a property, by tag, plain `type` attribute and name. -/
  mustUseProp : String → Option String → String → Bool := fun _ _ _ => false

/-- What a module can use while it replaces an element: the scope and the work of all modules. -/
structure Host extends Scope where
  transform : NodeId → Tree → Reported Tree

/-- A module. -/
structure Module where
  /-- The data fields of the module that never change between two renders. -/
  staticKeys : List String := []
  /-- Runs before the attributes of an element are processed; may give another node to take the
  place of the element. -/
  preTransform : Host → NodeId → Tree → Reported (Option NodeId × Tree) :=
    fun _ _ tree => pure (none, tree)
  /-- Changes an element while its attributes are processed. -/
  transform : Scope → NodeId → Tree → Reported Tree := fun _ _ tree => pure tree
  /-- The data fields of an element, each with a comma behind it. -/
  genData : Element → String := fun _ => ""

namespace Module

/-- Runs the modules on an element, one after another. -/
def transformAll (modules : List Module) (scope : Scope) (id : NodeId) (tree : Tree) :
    Reported Tree :=
  modules.foldlM (fun tree m => m.transform scope id tree) tree

/-- Lets the modules replace an element, one after another; a later one sees the replacement. -/
def preTransformAll (modules : List Module) (host : Host) (id : NodeId) (tree : Tree) :
    Reported (NodeId × Tree) :=
  modules.foldlM
    (fun (id, tree) m => do
      let (replacement, tree) ← m.preTransform host id tree
      return (replacement.getD id, tree))
    (id, tree)

/-- The static keys of some modules as one text. -/
def joinedKeys (modules : List Module) : String :=
  ",".intercalate (modules.flatMap (·.staticKeys))

end Module

end Stencil
