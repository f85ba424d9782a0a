import Stencil.Filter
import Stencil.Span
import Stencil.Table
import Stencil.Text.Quoted

/-!
# Elements

An element keeps its attributes three times.  `pending` lists those that no pass has taken yet,
`written` maps every name to its text, and `sources` remembers where each attribute stands in the
source.  Taking an attribute removes it from `pending`; `written` usually keeps it, so that later
passes still see it.  `written` is in the order of insertion, `sources` in that of a hash table,
which nothing but a stored tree shows.
-/

namespace Stencil

open Text

/-- The position of a node in its tree. -/
abbrev NodeId := UInt32

/-- A position as a text. -/
def NodeId.display (id : NodeId) : String :=
  "#" ++ toString id.toNat

/-- An attribute as written on an element. -/
structure Attribute where
  name : String
  value : String
  span : Option Span := none
  deriving DecidableEq

/-- One alternative of a conditional chain; the last one may have no condition. -/
structure Branch where
  condition : Option String
  block : NodeId
  deriving DecidableEq

/-- An attribute or property to set; its value is code. -/
structure Binding where
  name : String
  value : String
  dynamic : Bool := false
  span : Option Span := none
  deriving DecidableEq

/-- An event to listen to. -/
structure EventBinding where
  name : String
  value : String
  modifiers : List String := []
  dynamic : Bool := false
  span : Option Span := none
  deriving DecidableEq

/-- A directive on an element, such as `v-focus:target.once`. -/
structure DirectiveBinding where
  name : String
  rawName : String
  value : String
  argument : Option String := none
  dynamicArgument : Bool := false
  modifiers : List String := []
  span : Option Span := none
  deriving DecidableEq

/-- An element of a template. -/
structure Element where
  tag : String := ""
  pending : List Attribute := []
  written : Dict String := {}
  sources : Dict Attribute := {}
  parent : Option NodeId := none
  children : List NodeId := []
  span : Option Span := none
  loopSource : Option String := none
  loopItem : Option String := none
  iterator1 : Option String := none
  iterator2 : Option String := none
  condition : Option String := none
  elseCondition : Option String := none
  isElse : Bool := false
  branches : List Branch := []
  processed : Bool := false
  plain : Bool := false
  key : Option String := none
  reference : Option String := none
  staticClass : Option String := none
  classBinding : Option String := none
  attributes : List Binding := []
  properties : List Binding := []
  events : List EventBinding := []
  directives : List DirectiveBinding := []
  hasBindings : Bool := false
  deriving DecidableEq

namespace Element

/-- A new element with the attributes of its source. -/
def ofAttributes (tag : String) (attributes : List Attribute) (parent : Option NodeId) :
    Element where
  tag := tag
  pending := attributes
  written := Dict.ofList (attributes.map fun a => (a.name, a.value))
  sources := Dict.scatter (attributes.map fun a => (a.name, a))
  parent := parent

/-- Where an attribute stands in the source. -/
def attributeSpan (e : Element) (name : String) : Option Span :=
  (e.sources.get? name).bind (·.span)

/-- Takes an attribute off the pending ones and gives its text.  With `forget` it is no longer
written either. -/
def take (e : Element) (name : String) (forget : Bool) : Option String × Element :=
  let value := e.written.get? name
  let pending := if value.isSome then e.pending.eraseP (·.name == name) else e.pending
  let written := if forget then e.written.erase name else e.written
  (value, { e with pending, written })

/-- Takes an attribute that may be bound.  The colon form wins unless it is empty, then the long
form; both give compiled code.  With `plain` a plain attribute gives its text as a literal. -/
def takeBinding (e : Element) (name : String) (plain : Bool) : Option String × Element :=
  let (short, e) := e.take (":" ++ name) false
  match short.filter fun value => !value.isEmpty with
  | some code => (some (Filter.compile code), e)
  | none =>
    let (long, e) := e.take ("v-bind:" ++ name) false
    match long with
    | some code => (some (Filter.compile code), e)
    | none =>
      if plain then
        let (text, e) := e.take name false
        (text.map quote, e)
      else (none, e)

/-- Adds an attribute that the source does not have. -/
def addAttribute (e : Element) (name value : String) : Element :=
  { e with pending := e.pending ++ [{ name, value }], written := e.written.insert name value }

/-- Adds an alternative to the conditional chain that starts here. -/
def addBranch (e : Element) (branch : Branch) : Element :=
  { e with branches := e.branches ++ [branch] }

end Element

end Stencil
