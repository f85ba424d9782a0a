import Stencil.Processing

/-!
# Models of inputs with a bound type

What a model has to do at run time depends on the type of the input, so an input such as

```html
<input v-model="data[type]" :type="type">
```

becomes a chain of three:

```html
<input v-if="type === 'checkbox'" type="checkbox" v-model="data[type]">
<input v-else-if="type === 'radio'" type="radio" v-model="data[type]">
<input v-else :type="type" v-model="data[type]">
```
-/

namespace Stencil

/-! ## What the input asks for -/

/-- The code that gives the type of an input, if it is not fixed. -/
def Element.takeTypeBinding (e : Element) : Option String × Element :=
  let isBound := (e.written.nonEmpty? ":type").isSome || (e.written.nonEmpty? "v-bind:type").isSome
  let (code, e) := if isBound then e.takeBinding "type" true else (none, e)
  let code :=
    match code.filter fun code => !code.isEmpty with
    | some code => some code
    | none =>
      if (e.written.nonEmpty? "type").isSome then none
      else (e.written.nonEmpty? "v-bind").map fun all => "(" ++ all ++ ").type"
  (code, e)

/-- The conditions of an input that the chain takes over. -/
structure ChainConditions where
  condition : Option String
  isElse : Bool
  elseCondition : Option String

/-- Takes the conditions off an input. -/
def Element.takeConditions (e : Element) : ChainConditions × Element :=
  let (condition, e) := e.take "v-if" true
  let (other, e) := e.take "v-else" true
  let (elseCondition, e) := e.take "v-else-if" true
  let nonEmpty (text : Option String) := text.filter fun text => !text.isEmpty
  (⟨nonEmpty condition, other.isSome, nonEmpty elseCondition⟩, e)

/-! ## The three branches -/

/-- Adds a copy of an element that keeps its places in the source. -/
def Tree.copyElement (t : Tree) (source : Element) : NodeId × Tree :=
  let (id, t) := t.createElement source.tag source.pending source.parent
  (id, t.modifyElement id fun e => { e with sources := source.sources, span := source.span })

/-- The condition under which an input has a type. -/
def typeCondition (code type : String) (condition : Option String) : String :=
  "(" ++ code ++ ")==='" ++ type ++ "'" ++
    match condition with
    | some condition => "&&(" ++ condition ++ ")"
    | none => ""

/-- Adds the first branch, which also carries the loop. -/
def Tree.addLoopBranch (t : Tree) (host : Host) (source : Element) : Reported (NodeId × Tree) := do
  let (id, t) := t.copyElement source
  let t ← t.processLoop id
  let t := t.modifyElement id fun e => e.addAttribute "type" "checkbox"
  return (id, ← t.processElement host id)

/-- Adds a further branch with a type attribute. -/
def Tree.addBranch (t : Tree) (host : Host) (source : Element) (name value : String) :
    Reported (NodeId × Tree) := do
  let (id, t) := t.copyElement source
  let t := t.modifyElement id fun e => (e.take "v-for" true).2.addAttribute name value
  return (id, ← t.processElement host id)

/-- Replaces an input by the chain of its three branches; the first one stands for the chain. -/
def Tree.expandModel (t : Tree) (host : Host) (source : Element) (code : String)
    (chain : ChainConditions) : Reported (Option NodeId × Tree) := do
  let checkbox := typeCondition code "checkbox" chain.condition
  let (first, t) ← t.addLoopBranch host source
  let t := t.modifyElement first fun e => { e with condition := some checkbox }
  let (second, t) ← t.addBranch host source "type" "radio"
  let (third, t) ← t.addBranch host source ":type" code
  match t.element? first with
  | none => return (none, t)
  | some _ =>
    let t := t.modifyElement first fun e => { e with
      processed := true
      branches := e.branches ++
        [⟨some checkbox, first⟩, ⟨some (typeCondition code "radio" chain.condition), second⟩,
         ⟨chain.condition, third⟩]
      isElse := chain.isElse || e.isElse
      elseCondition := if chain.isElse then e.elseCondition
        else chain.elseCondition.or e.elseCondition }
    return (some first, t)

/-- The module that expands models. -/
def Module.model : Module where
  preTransform host id tree :=
    match tree.element? id with
    | none => pure (none, tree)
    | some e =>
      if e.tag ≠ "input" ∨ (e.written.nonEmpty? "v-model").isNone then pure (none, tree)
      else
        let (code, e) := e.takeTypeBinding
        match code with
        | none => pure (none, tree.modifyElement id fun _ => e)
        | some code =>
          let (chain, e) := e.takeConditions
          (tree.modifyElement id fun _ => e).expandModel host e code chain

end Stencil
