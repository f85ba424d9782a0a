import Stencil.Json.Reader
import Stencil.Tree.Basic

/-!
# Trees as JSON

A record is written as an object with its fields in a fixed order.  It is read from such an object,
where unknown fields are ignored and a known field must not be repeated, or from an array of its
values in the same order.  A field that is missing has its default value, if it has one.
-/

namespace Stencil

/-! ## Reading records -/

/-- The known fields of a record. -/
structure Fields where
  /-- The record is written as an array. -/
  positional : Bool
  entries : List (String × Json)

namespace Fields

/-- The fields with some names. -/
def read? (names : List String) : Json → Option Fields
  | .object fields =>
    let known := fields.filter fun field => names.contains field.1
    if (known.map Prod.fst).Nodup then some ⟨false, known⟩ else none
  | .array items => if items.length ≤ names.length then some ⟨true, names.zip items⟩ else none
  | _ => none

/-- A field that has to be there. -/
def required {α : Type} (f : Fields) (name : String) (read? : Json → Option α) : Option α :=
  (f.entries.lookup name).bind read?

/-- A field with a default value. -/
def defaulted {α : Type} (f : Fields) (name : String) (default : α) (read? : Json → Option α) :
    Option α :=
  match f.entries.lookup name with
  | some value => read? value
  | none => some default

end Fields

/-! ## Reading values -/

namespace Json

/-- Reads a text. -/
def string? : Json → Option String
  | .string text => some text
  | _ => none

/-- Reads a flag. -/
def bool? : Json → Option Bool
  | .bool b => some b
  | _ => none

/-- Reads a number of 32 bits. -/
def word? : Json → Option UInt32
  | .number (.natural n) => if n < UInt32.size then some (UInt32.ofNat n) else none
  | _ => none

/-- Reads a value that may be missing. -/
def option? {α : Type} (read? : Json → Option α) : Json → Option (Option α)
  | .null => some none
  | value => (read? value).map some

/-- Reads a list of values. -/
def list? {α : Type} (read? : Json → Option α) : Json → Option (List α)
  | .array items => items.mapM read?
  | _ => none

/-- Reads the fields of an object, whatever their names are. -/
def pairs? {α : Type} (read? : Json → Option α) : Json → Option (List (String × α))
  | .object fields =>
    fields.mapM fun (name, value) => (read? value).map fun value => (name, value)
  | _ => none

/-- Reads a dictionary; of two fields with one name, the later value wins at the earlier place. -/
def dict? {α : Type} (read? : Json → Option α) (j : Json) : Option (Dict α) :=
  (pairs? read? j).map Dict.ofList

/-- Reads a dictionary that is kept in a hash table. -/
def table? {α : Type} (read? : Json → Option α) (j : Json) : Option (Dict α) :=
  (pairs? read? j).map Dict.scatter

/-- Writes a dictionary in its order. -/
def dict {α : Type} (write : α → Json) (d : Dict α) : Json :=
  .object (d.entries.map fun (name, value) => (name, write value))

/-- Writes a number of 32 bits. -/
def word (n : UInt32) : Json := .nat n.toNat

end Json

/-! ## Spans and attributes -/

namespace Span

def toJson (s : Span) : Json :=
  .object [("start", .word s.start), ("length", .word s.length)]

def ofJson? (j : Json) : Option Span := do
  let f ← Fields.read? ["start", "length"] j
  return ⟨← f.required "start" Json.word?, ← f.required "length" Json.word?⟩

/-- The field of a span, which is left out when there is none. -/
def field (span : Option Span) : List (String × Json) :=
  span.toList.map fun s => ("span", s.toJson)

/-- Reads the field of a span. -/
def read? (f : Fields) : Option (Option Span) :=
  f.defaulted "span" none (Json.option? Span.ofJson?)

end Span

namespace Attribute

def toJson (a : Attribute) : Json :=
  .object ([("name", .string a.name), ("value", .string a.value)] ++ Span.field a.span)

def ofJson? (j : Json) : Option Attribute := do
  let f ← Fields.read? ["name", "value", "span"] j
  return {
    name := ← f.required "name" Json.string?
    value := ← f.required "value" Json.string?
    span := ← Span.read? f }

end Attribute

namespace Branch

def toJson (b : Branch) : Json :=
  .object [("exp", .option .string b.condition), ("block", .word b.block)]

def ofJson? (j : Json) : Option Branch := do
  let f ← Fields.read? ["exp", "block"] j
  return {
    condition := ← f.defaulted "exp" none (Json.option? Json.string?)
    block := ← f.required "block" Json.word? }

end Branch

/-! ## Bindings -/

namespace Binding

def toJson (b : Binding) : Json :=
  .object ([("name", .string b.name), ("value", .string b.value), ("dynamic", .bool b.dynamic)] ++
    Span.field b.span)

def ofJson? (j : Json) : Option Binding := do
  let f ← Fields.read? ["name", "value", "dynamic", "span"] j
  return {
    name := ← f.required "name" Json.string?
    value := ← f.required "value" Json.string?
    dynamic := ← f.defaulted "dynamic" false Json.bool?
    span := ← Span.read? f }

end Binding

namespace EventBinding

def toJson (b : EventBinding) : Json :=
  .object ([("name", .string b.name), ("value", .string b.value),
    ("modifiers", .list .string b.modifiers), ("dynamic", .bool b.dynamic)] ++ Span.field b.span)

def ofJson? (j : Json) : Option EventBinding := do
  let f ← Fields.read? ["name", "value", "modifiers", "dynamic", "span"] j
  return {
    name := ← f.required "name" Json.string?
    value := ← f.required "value" Json.string?
    modifiers := ← f.defaulted "modifiers" [] (Json.list? Json.string?)
    dynamic := ← f.defaulted "dynamic" false Json.bool?
    span := ← Span.read? f }

end EventBinding

namespace DirectiveBinding

def toJson (b : DirectiveBinding) : Json :=
  .object ([("name", .string b.name), ("raw_name", .string b.rawName), ("value", .string b.value),
    ("arg", .option .string b.argument), ("dynamic_arg", .bool b.dynamicArgument),
    ("modifiers", .list .string b.modifiers)] ++ Span.field b.span)

def ofJson? (j : Json) : Option DirectiveBinding := do
  let f ← Fields.read?
    ["name", "raw_name", "value", "arg", "dynamic_arg", "modifiers", "span"] j
  return {
    name := ← f.required "name" Json.string?
    rawName := ← f.required "raw_name" Json.string?
    value := ← f.required "value" Json.string?
    argument := ← f.defaulted "arg" none (Json.option? Json.string?)
    dynamicArgument := ← f.defaulted "dynamic_arg" false Json.bool?
    modifiers := ← f.defaulted "modifiers" [] (Json.list? Json.string?)
    span := ← Span.read? f }

end DirectiveBinding

/-! ## Elements -/

namespace Element

/-- The fields of an element in their order. -/
def fields (e : Element) : List (String × Json) :=
  [("tag", .string e.tag),
   ("attrs_list", .list Attribute.toJson e.pending),
   ("attrs_map", .dict .string e.written),
   ("raw_attrs_map", .dict Attribute.toJson e.sources),
   ("parent", .option .word e.parent),
   ("children", .list .word e.children)] ++
  Span.field e.span ++
  [("for", .option .string e.loopSource),
   ("alias", .option .string e.loopItem),
   ("iterator1", .option .string e.iterator1),
   ("iterator2", .option .string e.iterator2),
   ("if", .option .string e.condition),
   ("elseif", .option .string e.elseCondition),
   ("else", .bool e.isElse),
   ("if_conditions", .list Branch.toJson e.branches),
   ("processed", .bool e.processed),
   ("plain", .bool e.plain),
   ("key", .option .string e.key),
   ("ref", .option .string e.reference),
   ("static_class", .option .string e.staticClass),
   ("class_binding", .option .string e.classBinding),
   ("attrs", .list Binding.toJson e.attributes),
   ("props", .list Binding.toJson e.properties),
   ("events", .list EventBinding.toJson e.events),
   ("directives", .list DirectiveBinding.toJson e.directives),
   ("has_bindings", .bool e.hasBindings)]

/-- The names of the fields of an element in their order. -/
def fieldNames : List String :=
  ["tag", "attrs_list", "attrs_map", "raw_attrs_map", "parent", "children", "span", "for", "alias",
   "iterator1", "iterator2", "if", "elseif", "else", "if_conditions", "processed", "plain", "key",
   "ref", "static_class", "class_binding", "attrs", "props", "events", "directives",
   "has_bindings"]

def ofJson? (j : Json) : Option Element := do
  let f ← Fields.read? fieldNames j
  let text (name : String) := f.defaulted name none (Json.option? Json.string?)
  let flag (name : String) := f.defaulted name false Json.bool?
  return {
    tag := ← f.defaulted "tag" "" Json.string?
    pending := ← f.defaulted "attrs_list" [] (Json.list? Attribute.ofJson?)
    written := ← f.defaulted "attrs_map" {} (Json.dict? Json.string?)
    sources := ← f.defaulted "raw_attrs_map" {} (Json.table? Attribute.ofJson?)
    parent := ← f.defaulted "parent" none (Json.option? Json.word?)
    children := ← f.defaulted "children" [] (Json.list? Json.word?)
    span := ← Span.read? f
    loopSource := ← text "for"
    loopItem := ← text "alias"
    iterator1 := ← text "iterator1"
    iterator2 := ← text "iterator2"
    condition := ← text "if"
    elseCondition := ← text "elseif"
    isElse := ← flag "else"
    branches := ← f.defaulted "if_conditions" [] (Json.list? Branch.ofJson?)
    processed := ← flag "processed"
    plain := ← flag "plain"
    key := ← text "key"
    reference := ← text "ref"
    staticClass := ← text "static_class"
    classBinding := ← text "class_binding"
    attributes := ← f.defaulted "attrs" [] (Json.list? Binding.ofJson?)
    properties := ← f.defaulted "props" [] (Json.list? Binding.ofJson?)
    events := ← f.defaulted "events" [] (Json.list? EventBinding.ofJson?)
    directives := ← f.defaulted "directives" [] (Json.list? DirectiveBinding.ofJson?)
    hasBindings := ← flag "has_bindings" }

end Element

/-! ## Nodes -/

namespace Interpolation.Token

def toJson : Token → Json
  | .literal text => .string text
  | .binding code => .object [("@binding", .string code)]

def ofJson? : Json → Option Token
  | .string text => some (.literal text)
  | .object fields => do
    let f ← Fields.read? ["@binding"] (.object fields)
    return .binding (← f.required "@binding" Json.string?)
  | _ => none

end Interpolation.Token

namespace Node

def toJson : Node → Json
  | .element e => .object (("type", .string "element") :: e.fields)
  | .expression code tokens source span parent =>
    .object ([("type", .string "expression"), ("expression", .string code),
      ("tokens", .list Interpolation.Token.toJson tokens), ("text", .string source)] ++
      Span.field span ++ [("parent", .option .word parent)])
  | .text source span parent =>
    .object ([("type", .string "text"), ("text", .string source)] ++ Span.field span ++
      [("parent", .option .word parent)])

/-- The type of a node and the record of its other fields. -/
def typed? : Json → Option (String × Json)
  | .object fields =>
    match fields.filter fun field => field.1 == "type" with
    | [(_, .string type)] => some (type, .object (fields.filter fun field => field.1 != "type"))
    | _ => none
  | .array (.string type :: items) => some (type, .array items)
  | _ => none

def expressionOfJson? (j : Json) : Option Node := do
  let f ← Fields.read? ["expression", "tokens", "text", "span", "parent"] j
  let code ← f.required "expression" Json.string?
  let tokens ← f.defaulted "tokens" [] (Json.list? Interpolation.Token.ofJson?)
  let source ← f.required "text" Json.string?
  let span ← Span.read? f
  let parent ← f.defaulted "parent" none (Json.option? Json.word?)
  return .expression code tokens source span parent

def textOfJson? (j : Json) : Option Node := do
  let f ← Fields.read? ["text", "span", "parent"] j
  let source ← f.required "text" Json.string?
  let span ← Span.read? f
  let parent ← f.defaulted "parent" none (Json.option? Json.word?)
  return .text source span parent

/-- How deeply a node may be nested. -/
def maxDepth : Nat := 125

def ofJson? (j : Json) : Option Node := do
  if j.depth ≤ maxDepth then
    let (type, record) ← typed? j
    match type with
    | "element" => return .element (← Element.ofJson? record)
    | "expression" => expressionOfJson? record
    | "text" => textOfJson? record
    | _ => none
  else none

end Node

/-! ## Trees -/

namespace Tree

def toJson (t : Tree) : Json :=
  .object [("nodes", .list Node.toJson t.nodes), ("root", .option .word t.root)]

/-- The names of the fields of a tree in their order. -/
def fieldNames : List String := ["nodes", "root"]

/-- Reads a tree.  Only an object can leave the root out. -/
def ofJson? (j : Json) : Option Tree := do
  let f ← Fields.read? fieldNames j
  let nodes ← f.required "nodes" (Json.list? Node.ofJson?)
  let root ←
    if f.positional then f.required "root" (Json.option? Json.word?)
    else f.defaulted "root" none (Json.option? Json.word?)
  return { nodes, root }

/-- The text of a tree. -/
def render (t : Tree) : String := t.toJson.render

/-- Reads the text of a tree. -/
def parse? (text : String) : Option Tree :=
  (Json.parseRecord? fieldNames text).bind ofJson?

end Tree

/-- Reads the text of a dictionary of texts. -/
def parseAttributes? (text : String) : Option (Dict String) :=
  (Json.parse? text).bind (Json.dict? Json.string?)

end Stencil
