import Stencil.Options
import Stencil.Proofs.Processing
import Stencil.Proofs.Tree.Taking

/-!
# The chain that an expanded model becomes

An input whose model depends on a bound type is replaced by three inputs, one for
each kind of type.  `Tree.expandModel_eq` runs the expansion once and for all: it
adds three elements behind the nodes of the tree and changes nothing else, and
each of them is the processed copy of what is left of the input.  What is known
of the three then follows from what taking attributes, copying and processing do
to one element.
-/

namespace Stencil

/-! ## What the input asks for -/

namespace Element

variable {e : Element}

/-- The code that gives the type of an input: a bound type if it says anything,
else the type among all attributes bound at once, unless a plain type hides it. -/
def resolvedType? (e : Element) : Option String :=
  let bound := (e.written.nonEmpty? ":type").or (e.written.nonEmpty? "v-bind:type")
  ((bound.map Filter.compile).filter fun code => !code.isEmpty).or
    (if (e.written.nonEmpty? "type").isSome then none
      else (e.written.nonEmpty? "v-bind").map fun all => "(" ++ all ++ ").type")

theorem takeTypeBinding_fst (e : Element) : e.takeTypeBinding.1 = e.resolvedType? := by
  have hwritten : (e.takeBinding "type" true).2.written = e.written := by
    rw [takeBinding_snd_eq]
  have hcode : (e.takeBinding "type" true).1 =
      (((e.written.nonEmpty? ":type").or (e.written.get? "v-bind:type")).map Filter.compile).or
        ((e.written.get? "type").map Text.quote) :=
    takeBinding_fst e "type" true
  have hlong : ∀ code, e.written.nonEmpty? "v-bind:type" = some code →
      e.written.get? "v-bind:type" = some code :=
    fun code hcode => (Option.filter_eq_some_iff.mp hcode).1
  simp only [takeTypeBinding, resolvedType?]
  -- Looking for the binding also gives a plain type, but only where neither form
  -- of the bound one is there, and then it is not asked for.
  cases hshort : e.written.nonEmpty? ":type" with
  | some code =>
      simp only [hshort, Option.isSome_some, Bool.true_or, if_true, hcode, hwritten, Option.some_or,
        Option.map_some]
      cases Option.filter (fun code => !code.isEmpty) (some (Filter.compile code)) <;> rfl
  | none =>
      cases hbound : e.written.nonEmpty? "v-bind:type" with
      | some code =>
          simp only [hshort, hlong code hbound, Option.isSome_some, Bool.or_true, if_true,
            hcode, hwritten, Option.none_or, Option.some_or, Option.map_some]
          cases Option.filter (fun code => !code.isEmpty) (some (Filter.compile code)) <;> rfl
      | none => rfl

/-- What is kept when a form of the type is taken is kept by finding the type. -/
theorem takeTypeBinding_induction {P : Element → Prop} (hstart : P e)
    (htake : ∀ e, P e → ∀ form ∈ [":type", "v-bind:type", "type"], P (e.take form false).2) :
    P e.takeTypeBinding.2 := by
  have hforms : ∀ e, P e → ∀ form ∈ [":" ++ "type", "v-bind:" ++ "type", "type"],
      P (e.take form false).2 := htake
  have hbinding := takeBinding_induction hstart hforms true
  simp only [takeTypeBinding]
  split_ifs
  · exact hbinding
  · exact hstart

theorem takeTypeBinding_snd_eq (e : Element) :
    e.takeTypeBinding.2 = { e with pending := e.takeTypeBinding.2.pending } := by
  refine takeTypeBinding_induction (P := fun typed => typed = { e with pending := typed.pending })
    rfl ?_
  intro typed htyped form _
  rw [htyped]
  rfl

theorem takeTypeBinding_snd (e : Element) :
    e.takeTypeBinding.2 =
      if (e.written.nonEmpty? ":type").isSome then (e.take ":type" false).2
      else if (e.written.nonEmpty? "v-bind:type").isSome then
        ((e.take ":type" false).2.take "v-bind:type" false).2
      else e := by
  have hshort : (e.take (":" ++ "type") false).1.filter (fun value => !value.isEmpty) =
      e.written.nonEmpty? ":type" := rfl
  simp only [takeTypeBinding]
  cases htype : e.written.nonEmpty? ":type" with
  | some code =>
      simp only [Option.isSome_some, Bool.true_or, if_true, takeBinding, hshort, htype]
      rfl
  | none =>
      cases hbound : e.written.nonEmpty? "v-bind:type" with
      | some code =>
          have hlong : ((e.take (":" ++ "type") false).2.take ("v-bind:" ++ "type") false).1 =
              some code := (Option.filter_eq_some_iff.mp hbound).1
          simp only [Option.isSome_none, Option.isSome_some, Bool.or_true, if_true,
            Bool.false_eq_true, if_false, takeBinding, hshort, htype, hlong]
          rfl
      | none => rfl

/-- The forms of a bound type that are taken: the colon form alone unless it is
empty, and both of them if only the long one says anything. -/
def typeForms (e : Element) : List String :=
  if (e.written.nonEmpty? ":type").isSome then [":type"]
  else if (e.written.nonEmpty? "v-bind:type").isSome then
    [":type", "v-bind:type"].filter fun form => (e.written.get? form).isSome
  else []

theorem takeTypeBinding_eq_dropFirst (e : Element) :
    e.takeTypeBinding.2 = { e with pending := Attribute.dropFirst e.typeForms e.pending } := by
  rw [takeTypeBinding_snd]
  unfold typeForms
  split_ifs with hshort hlong
  · obtain ⟨code, hcode⟩ := Option.isSome_iff_exists.mp hshort
    have hwritten : e.written.get? ":type" = some code := (Option.filter_eq_some_iff.mp hcode).1
    have htaken := foldl_take e [":type"]
    rw [List.filter_cons_of_pos (by rw [hwritten]; rfl), List.filter_nil] at htaken
    exact htaken
  · exact foldl_take e [":type", "v-bind:type"]
  · rfl

theorem Coherent.takeTypeBinding (hcoherent : e.Coherent) : e.takeTypeBinding.2.Coherent :=
  takeTypeBinding_induction hcoherent fun _ htyped form _ => htyped.take form false

theorem pendingText?_takeTypeBinding {name : String}
    (hname : name ∉ [":type", "v-bind:type", "type"]) :
    e.takeTypeBinding.2.pendingText? name = e.pendingText? name := by
  refine takeTypeBinding_induction
    (P := fun typed => typed.pendingText? name = e.pendingText? name) rfl ?_
  intro typed htyped form hform
  rw [pendingText?_take_of_ne (ne_of_mem_of_not_mem hform hname).symm, htyped]

theorem takeConditions_fst (e : Element) :
    e.takeConditions.1 =
      ⟨e.written.nonEmpty? "v-if", (e.written.get? "v-else").isSome,
        e.written.nonEmpty? "v-else-if"⟩ := by
  have helse : (e.take "v-if" true).2.written.get? "v-else" = e.written.get? "v-else" :=
    get?_written_take_of_ne (by decide) true
  have helseIf : ((e.take "v-if" true).2.take "v-else" true).2.written.get? "v-else-if" =
      e.written.get? "v-else-if" := by
    rw [get?_written_take_of_ne (by decide), get?_written_take_of_ne (by decide)]
  simp only [takeConditions, Dict.nonEmpty?, ← helse, ← helseIf]
  rfl

theorem pending_takeConditions_sublist (e : Element) :
    e.takeConditions.2.pending.Sublist e.pending :=
  ((pending_take_sublist _ "v-else-if" true).trans (pending_take_sublist _ "v-else" true)).trans
    (pending_take_sublist _ "v-if" true)

/-- What is left of an input when its type and its conditions are taken. -/
structure IsRemainder (e source : Element) : Prop where
  eq : source = { e with pending := source.pending, written := source.written }
  nodup : (source.pending.map Attribute.name).Nodup
  no_conditions : ∀ name ∈ ["v-if", "v-else", "v-else-if"],
    name ∉ source.pending.map Attribute.name
  loop : source.pendingText? "v-for" = e.pendingText? "v-for"

theorem isRemainder_takeConditions (hcoherent : e.Coherent) :
    e.IsRemainder e.takeTypeBinding.2.takeConditions.2 := by
  have htyped := hcoherent.takeTypeBinding
  have heq := e.takeTypeBinding_snd_eq
  have hloop : e.takeTypeBinding.2.pendingText? "v-for" = e.pendingText? "v-for" :=
    pendingText?_takeTypeBinding (by decide)
  generalize e.takeTypeBinding.2 = typed at htyped heq hloop ⊢
  -- The conditions are taken one after another, and later steps bring none back.
  have hif := htyped.take "v-if" true
  have helse := hif.take "v-else" true
  have helseIf := helse.take "v-else-if" true
  have hsublist := pending_take_sublist ((typed.take "v-if" true).2.take "v-else" true).2
    "v-else-if" true
  refine ⟨?_, helseIf.nodup, ?_, ?_⟩
  · rw [heq]
    rfl
  · simp only [List.forall_mem_cons, List.not_mem_nil, false_implies, implies_true, and_true]
    refine ⟨fun hmem => ?_, fun hmem => ?_, helse.not_mem_pending_take "v-else-if" true⟩
    · have hmem := ((hsublist.trans (pending_take_sublist _ "v-else" true)).map _).subset hmem
      exact htyped.not_mem_pending_take "v-if" true hmem
    · exact hif.not_mem_pending_take "v-else" true ((hsublist.map _).subset hmem)
  · change (((typed.take "v-if" true).2.take "v-else" true).2.take
      "v-else-if" true).2.pendingText? "v-for" = _
    rw [pendingText?_take_of_ne (by decide), pendingText?_take_of_ne (by decide),
      pendingText?_take_of_ne (by decide), hloop]

/-! ## The three branches -/

/-- A new element with the pending attributes and the place of another one. -/
def copy (source : Element) : Element :=
  { ofAttributes source.tag source.pending source.parent with
    sources := source.sources
    span := source.span }

/-- The first branch, which carries the loop. -/
def loopBranch (process : Element → Reported Element) (source : Element) : Reported Element := do
  let e ← source.copy.processLoop
  process (e.addAttribute "type" "checkbox")

/-- A further branch, with one more attribute. -/
def typedBranch (process : Element → Reported Element) (source : Element) (name value : String) :
    Reported Element :=
  process ((source.copy.take "v-for" true).2.addAttribute name value)

/-- The first branch as the start of the chain. -/
def startChain (e : Element) (code : String) (chain : ChainConditions)
    (first second third : NodeId) : Element :=
  let checkbox := typeCondition code "checkbox" chain.condition
  { e with
    condition := some checkbox
    processed := true
    branches := e.branches ++
      [⟨some checkbox, first⟩, ⟨some (typeCondition code "radio" chain.condition), second⟩,
        ⟨chain.condition, third⟩]
    isElse := chain.isElse || e.isElse
    elseCondition :=
      if chain.isElse then e.elseCondition else chain.elseCondition.or e.elseCondition }

end Element

namespace Tree

variable {t : Tree} {host : Host} {transform : Element → Reported Element}

theorem copyElement_eq (hroom : t.nodes.length < UInt32.size) (source : Element) :
    t.copyElement source = t.push (.element source.copy) := by
  refine Prod.ext rfl ?_
  exact modifyElement_push hroom _ _

variable (hhost : ∀ id t, host.transform id t = t.updateElement id transform)
include hhost

theorem addLoopBranch_eq (hroom : t.nodes.length < UInt32.size) (source : Element) :
    t.addLoopBranch host source =
      (source.loopBranch (Element.process host.toScope transform) >>= fun e =>
        pure (t.push (.element e))) := by
  simp only [addLoopBranch, copyElement_eq hroom, fst_push, processLoop,
    updateElement_push hroom, processElement_eq_updateElement hhost, bind_assoc, pure_bind,
    modifyElement_push hroom, Element.loopBranch]
  rfl

theorem addBranch_eq (hroom : t.nodes.length < UInt32.size) (source : Element)
    (name value : String) :
    t.addBranch host source name value =
      (source.typedBranch (Element.process host.toScope transform) name value >>= fun e =>
        pure (t.push (.element e))) := by
  simp only [addBranch, copyElement_eq hroom, fst_push, modifyElement_push hroom,
    updateElement_push hroom, processElement_eq_updateElement hhost, bind_assoc, pure_bind,
    Element.typedBranch]
  rfl

/-- An expansion adds three elements behind the nodes of a tree. -/
theorem expandModel_eq (hroom : t.nodes.length + 3 ≤ UInt32.size) (source : Element)
    (code : String) (chain : ChainConditions) :
    t.expandModel host source code chain = do
      let process := Element.process host.toScope transform
      let first ← source.loopBranch process
      let second ← source.typedBranch process "type" "radio"
      let third ← source.typedBranch process ":type" code
      return (some t.nextId, { t with
        nodes := t.nodes ++
          [.element (first.startChain code chain t.nextId (offsetOfNat (t.nodes.length + 1))
              (offsetOfNat (t.nodes.length + 2))),
            .element second, .element third] }) := by
  -- Each branch is the last node when it is made, so that the whole expansion is
  -- three nodes added one after another; then the first one becomes the start.
  have hroom₀ : t.nodes.length < UInt32.size := by omega
  simp only [expandModel, addLoopBranch_eq hhost hroom₀, bind_assoc, pure_bind, fst_push,
    modifyElement_push hroom₀]
  refine bind_congr fun first => ?_
  have hroom₁ : ∀ e : Element, (t.push (.element e)).2.nodes.length < UInt32.size := by
    intro e
    rw [length_push]
    omega
  simp only [addBranch_eq hhost (hroom₁ _), bind_assoc, pure_bind, fst_push]
  refine bind_congr fun second => ?_
  have hroom₂ : ∀ e e' : Element,
      ((t.push (.element e)).2.push (.element e')).2.nodes.length < UInt32.size := by
    intro e e'
    rw [length_push, length_push]
    omega
  simp only [addBranch_eq hhost (hroom₂ _ _), bind_assoc, pure_bind, fst_push]
  refine bind_congr fun third => ?_
  have hnodes : ∀ a b c : Node, (((t.push a).2.push b).2.push c).2 =
      { t with nodes := t.nodes ++ [a, b, c] } := by
    intro a b c
    simp only [push, List.append_assoc, List.cons_append, List.nil_append]
  have hsecond : ∀ a : Node, (t.push a).2.nextId = offsetOfNat (t.nodes.length + 1) := by
    intro a
    rw [nextId, length_push]
  have hthird : ∀ a b : Node,
      ((t.push a).2.push b).2.nextId = offsetOfNat (t.nodes.length + 2) := by
    intro a b
    rw [nextId, length_push, length_push]
  simp only [hnodes, hsecond, hthird, element?_append hroom₀, modifyElement_append hroom₀]
  rfl

end Tree

/-! ## What is known of the branches -/

namespace Element

/-- The header of the loop that an element still has to carry. -/
def pendingLoop? (e : Element) : Option LoopHeader :=
  ((e.pendingText? "v-for").filter fun header => !header.isEmpty).bind LoopHeader.parse?

/-- Stands in the place of an element, has no children, and no pass will find a
condition among its attributes. -/
structure IsBranchOf (x e : Element) : Prop where
  tag_eq : x.tag = e.tag
  parent_eq : x.parent = e.parent
  span_eq : x.span = e.span
  sources_eq : x.sources = e.sources
  children_eq : x.children = []
  lacks_conditions : ∀ name ∈ ["v-if", "v-else", "v-else-if"], x.Lacks name

/-- Belongs to no chain yet. -/
structure IsUnchained (x : Element) : Prop where
  processed_eq : x.processed = false
  condition_eq : x.condition = none
  elseCondition_eq : x.elseCondition = none
  isElse_eq : x.isElse = false
  branches_eq : x.branches = []

variable {e x x' source : Element}

theorem ProcessedTo.isBranchOf (h : x.ProcessedTo x') (hbranch : x.IsBranchOf e) :
    x'.IsBranchOf e where
  tag_eq := (h.observe Element.tag fun _ => rfl).trans hbranch.tag_eq
  parent_eq := (h.observe Element.parent fun _ => rfl).trans hbranch.parent_eq
  span_eq := (h.observe Element.span fun _ => rfl).trans hbranch.span_eq
  sources_eq := (h.observe Element.sources fun _ => rfl).trans hbranch.sources_eq
  children_eq := (h.observe Element.children fun _ => rfl).trans hbranch.children_eq
  lacks_conditions name hname := h.lacks (hbranch.lacks_conditions name hname)

theorem ProcessedTo.isUnchained (h : x.ProcessedTo x') (hx : x.IsUnchained) : x'.IsUnchained where
  processed_eq := (h.observe Element.processed fun _ => rfl).trans hx.processed_eq
  condition_eq := (h.observe Element.condition fun _ => rfl).trans hx.condition_eq
  elseCondition_eq := (h.observe Element.elseCondition fun _ => rfl).trans hx.elseCondition_eq
  isElse_eq := (h.observe Element.isElse fun _ => rfl).trans hx.isElse_eq
  branches_eq := (h.observe Element.branches fun _ => rfl).trans hx.branches_eq

theorem IsBranchOf.take (hbranch : x.IsBranchOf e) (name : String) (forget : Bool) :
    (x.take name forget).2.IsBranchOf e where
  tag_eq := hbranch.tag_eq
  parent_eq := hbranch.parent_eq
  span_eq := hbranch.span_eq
  sources_eq := hbranch.sources_eq
  children_eq := hbranch.children_eq
  lacks_conditions other hother := (hbranch.lacks_conditions other hother).take name forget

theorem IsBranchOf.addAttribute (hbranch : x.IsBranchOf e) {name : String}
    (hname : name ∉ ["v-if", "v-else", "v-else-if"]) (value : String) :
    (x.addAttribute name value).IsBranchOf e where
  tag_eq := hbranch.tag_eq
  parent_eq := hbranch.parent_eq
  span_eq := hbranch.span_eq
  sources_eq := hbranch.sources_eq
  children_eq := hbranch.children_eq
  lacks_conditions other hother :=
    (hbranch.lacks_conditions other hother).addAttribute (ne_of_mem_of_not_mem hother hname) value

theorem IsBranchOf.startChain (hbranch : x.IsBranchOf e) (code : String) (chain : ChainConditions)
    (first second third : NodeId) : (x.startChain code chain first second third).IsBranchOf e :=
  ⟨hbranch.tag_eq, hbranch.parent_eq, hbranch.span_eq, hbranch.sources_eq, hbranch.children_eq,
    fun name hname => ⟨(hbranch.lacks_conditions name hname).not_pending,
      (hbranch.lacks_conditions name hname).not_written⟩⟩

theorem IsBranchOf.processLoop (hbranch : x.IsBranchOf e) :
    x.processLoop.value.IsBranchOf e := by
  rw [processLoop_value_eq]
  have htake := hbranch.take "v-for" false
  exact ⟨htake.tag_eq, htake.parent_eq, htake.span_eq, htake.sources_eq, htake.children_eq,
    fun name hname => ⟨(htake.lacks_conditions name hname).not_pending,
      (htake.lacks_conditions name hname).not_written⟩⟩

/-! ### The copy -/

theorem IsRemainder.isBranchOf_copy (hsource : e.IsRemainder source) :
    source.copy.IsBranchOf e where
  tag_eq := by rw [hsource.eq]; rfl
  parent_eq := by rw [hsource.eq]; rfl
  span_eq := by rw [hsource.eq]; rfl
  sources_eq := by rw [hsource.eq]; rfl
  children_eq := rfl
  lacks_conditions name hname :=
    let hlacks := lacks_ofAttributes (hsource.no_conditions name hname) source.tag source.parent
    ⟨hlacks.not_pending, hlacks.not_written⟩

theorem hasLoop_copy (source : Element) : source.copy.HasLoop none := ⟨rfl, rfl, rfl, rfl⟩

theorem IsRemainder.coherent_copy (hsource : e.IsRemainder source) : source.copy.Coherent :=
  let hcoherent := coherent_ofAttributes hsource.nodup source.tag source.parent
  ⟨hcoherent.nodup, hcoherent.get?_written⟩

theorem IsRemainder.nonEmpty?_copy (hsource : e.IsRemainder source) :
    (source.copy.written.nonEmpty? "v-for").bind LoopHeader.parse? = e.pendingLoop? := by
  have hwritten : source.copy.written.get? "v-for" = source.pendingText? "v-for" :=
    get?_written_ofAttributes hsource.nodup source.tag source.parent "v-for"
  rw [Dict.nonEmpty?, hwritten, hsource.loop, pendingLoop?]

/-! ### The branches -/

variable {process : Element → Reported Element}

theorem isBranchOf_loopBranch (hprocess : ∀ x, ProcessedTo x (process x).value)
    (hsource : e.IsRemainder source) : (source.loopBranch process).value.IsBranchOf e :=
  (hprocess _).isBranchOf (hsource.isBranchOf_copy.processLoop.addAttribute (by decide) "checkbox")

theorem isUnchained_loopBranch (hprocess : ∀ x, ProcessedTo x (process x).value)
    (source : Element) : (source.loopBranch process).value.IsUnchained := by
  refine (hprocess _).isUnchained ?_
  rw [processLoop_value_eq]
  exact ⟨rfl, rfl, rfl, rfl, rfl⟩

theorem hasLoop_loopBranch (hprocess : ∀ x, ProcessedTo x (process x).value)
    (hsource : e.IsRemainder source) :
    (source.loopBranch process).value.HasLoop e.pendingLoop? := by
  refine (hprocess _).hasLoop ?_
  have hloop := hasLoop_processLoop (hasLoop_copy source)
  rw [hsource.nonEmpty?_copy] at hloop
  exact ⟨hloop.source_eq, hloop.item_eq, hloop.iterator1_eq, hloop.iterator2_eq⟩

theorem not_mem_pending_loopBranch (hprocess : ∀ x, ProcessedTo x (process x).value)
    (hsource : e.IsRemainder source) :
    "v-for" ∉ (source.loopBranch process).value.pending.map Attribute.name := by
  intro hmem
  have hmem := ((hprocess _).pending_sublist.map _).subset hmem
  rw [processLoop_value_eq] at hmem
  have htaken := hsource.coherent_copy.not_mem_pending_take "v-for" false
  change "v-for" ∈ ((source.copy.take "v-for" false).2.pending ++ [_]).map Attribute.name at hmem
  rw [List.map_append, List.mem_append] at hmem
  rcases hmem with hmem | hmem
  · exact htaken hmem
  · exact absurd (List.mem_singleton.mp hmem) (by decide)

theorem written_loopBranch (hprocess : ∀ x, ProcessedTo x (process x).value) (source : Element) :
    (source.loopBranch process).value.written = source.copy.written.insert "type" "checkbox" := by
  have hbranch : (source.loopBranch process).value =
      (process (source.copy.processLoop.value.addAttribute "type" "checkbox")).value := rfl
  rw [hbranch, (hprocess _).observe Element.written fun _ => rfl]
  change source.copy.processLoop.value.written.insert "type" "checkbox" = _
  rw [processLoop_value_eq]
  rfl

/-- The first input has the attributes of the rest and a fixed type. -/
theorem get?_written_loopBranch (hprocess : ∀ x, ProcessedTo x (process x).value)
    (hnodup : (source.pending.map Attribute.name).Nodup) {name : String} (hname : name ≠ "type") :
    (source.loopBranch process).value.written.get? name = source.pendingText? name := by
  rw [written_loopBranch hprocess, Dict.get?_insert_of_ne _ hname]
  exact get?_written_ofAttributes hnodup source.tag source.parent name

theorem isBranchOf_typedBranch (hprocess : ∀ x, ProcessedTo x (process x).value)
    (hsource : e.IsRemainder source) {name : String}
    (hname : name ∉ ["v-if", "v-else", "v-else-if"]) (value : String) :
    (source.typedBranch process name value).value.IsBranchOf e :=
  (hprocess _).isBranchOf ((hsource.isBranchOf_copy.take "v-for" true).addAttribute hname value)

/-- A further branch starts no chain and has no loop. -/
theorem isUnchained_typedBranch (hprocess : ∀ x, ProcessedTo x (process x).value)
    (hsource : e.IsRemainder source) {name : String} (hname : "v-for" ≠ name) (value : String) :
    (source.typedBranch process name value).value.IsUnchained ∧
      (source.typedBranch process name value).value.HasLoop none ∧
      (source.typedBranch process name value).value.Lacks "v-for" := by
  have hlacks : (source.copy.take "v-for" true).2.Lacks "v-for" :=
    hsource.coherent_copy.lacks_take (Dict.nodup_names_ofList _) "v-for"
  exact ⟨(hprocess _).isUnchained ⟨rfl, rfl, rfl, rfl, rfl⟩,
    (hprocess _).hasLoop ⟨rfl, rfl, rfl, rfl⟩,
    (hprocess _).lacks (hlacks.addAttribute hname value)⟩

/-- What an input's own condition adds to the test of a type. -/
def guard (e : Element) : String :=
  match e.written.nonEmpty? "v-if" with
  | some condition => "&&(" ++ condition ++ ")"
  | none => ""

/-- Starts the chain of an input whose type is given by some code: it carries the
conditions of the chain, the place of the input in an outer chain, and its
loop. -/
structure StartsChain (x e : Element) (code : String) (first second third : NodeId) : Prop where
  processed_eq : x.processed = true
  condition_eq : x.condition = some ("(" ++ code ++ ")==='checkbox'" ++ e.guard)
  branches_eq : x.branches =
    [⟨some ("(" ++ code ++ ")==='checkbox'" ++ e.guard), first⟩,
      ⟨some ("(" ++ code ++ ")==='radio'" ++ e.guard), second⟩,
      ⟨e.written.nonEmpty? "v-if", third⟩]
  isElse_eq : x.isElse = (e.written.get? "v-else").isSome
  elseCondition_eq : x.elseCondition =
    if (e.written.get? "v-else").isSome then none else e.written.nonEmpty? "v-else-if"
  hasLoop : x.HasLoop e.pendingLoop?
  loop_taken : "v-for" ∉ x.pending.map Attribute.name

theorem typeCondition_eq (e : Element) (code type : String) :
    typeCondition code type (e.written.nonEmpty? "v-if") =
      "(" ++ code ++ (")==='" ++ type ++ "'") ++ e.guard := by
  unfold typeCondition guard
  cases e.written.nonEmpty? "v-if" <;> simp only [String.append_assoc]

theorem startsChain_loopBranch (hprocess : ∀ x, ProcessedTo x (process x).value)
    (hsource : e.IsRemainder source) (code : String) (first second third : NodeId) :
    ((source.loopBranch process).value.startChain code
      ⟨e.written.nonEmpty? "v-if", (e.written.get? "v-else").isSome,
        e.written.nonEmpty? "v-else-if"⟩ first second third).StartsChain e code
          first second third := by
  have hunchained := isUnchained_loopBranch hprocess source
  have hloop := hasLoop_loopBranch hprocess hsource
  refine ⟨rfl, ?_, ?_, ?_, ?_, ⟨hloop.source_eq, hloop.item_eq, hloop.iterator1_eq,
    hloop.iterator2_eq⟩, not_mem_pending_loopBranch hprocess hsource⟩
  · simp only [startChain, typeCondition_eq]
    rfl
  · simp only [startChain, typeCondition_eq, hunchained.branches_eq, List.nil_append]
    rfl
  · simp only [startChain, hunchained.isElse_eq, Bool.or_false]
  · simp only [startChain, hunchained.elseCondition_eq, Option.or_none]

end Element

/-! ## The whole expansion -/

namespace Module

variable {t : Tree} {id : NodeId} {e : Element}

theorem preTransform_model_of_resolvedType? (host : Host) (helement : t.element? id = some e)
    (hinput : e.tag = "input") (hmodel : (e.written.nonEmpty? "v-model").isSome) {code : String}
    (hcode : e.resolvedType? = some code) :
    Module.model.preTransform host id t =
      (t.modifyElement id fun _ => e.takeTypeBinding.2.takeConditions.2).expandModel host
        e.takeTypeBinding.2.takeConditions.2 code
        ⟨e.written.nonEmpty? "v-if", (e.written.get? "v-else").isSome,
          e.written.nonEmpty? "v-else-if"⟩ := by
  have hwritten : e.takeTypeBinding.2.written = e.written := by
    rw [e.takeTypeBinding_snd_eq]
  have hchain := e.takeTypeBinding.2.takeConditions_fst
  rw [hwritten] at hchain
  have hskip : ¬ (e.tag ≠ "input" ∨ (e.written.nonEmpty? "v-model").isNone) := by
    simp [hinput, Option.isSome_iff_ne_none.mp hmodel]
  simp only [Module.model, helement, if_neg hskip, e.takeTypeBinding_fst, hcode, hchain]

/-- Nothing takes the place of an element without a model or with a type that is
fixed. -/
theorem fst_preTransform_model_of_not (host : Host) (helement : t.element? id = some e)
    (hnot : ¬ ((e.written.nonEmpty? "v-model").isSome ∧ e.resolvedType?.isSome)) :
    (Module.model.preTransform host id t).value.1 = none := by
  simp only [Module.model, helement]
  split_ifs with hskip
  · rfl
  · have hmodel : (e.written.nonEmpty? "v-model").isSome :=
      Option.isSome_iff_ne_none.mpr fun hnone => hskip (.inr (Option.isNone_iff_eq_none.mpr hnone))
    have hcode : e.resolvedType? = none :=
      Option.not_isSome_iff_eq_none.mp fun hsome => hnot ⟨hmodel, hsome⟩
    simp only [e.takeTypeBinding_fst, hcode]
    rfl

/-- Only inputs are expanded. -/
theorem tag_of_preTransform_model {host : Host} (helement : t.element? id = some e)
    (hexpanded : (Module.model.preTransform host id t).value.1 ≠ none) : e.tag = "input" := by
  by_contra hinput
  apply hexpanded
  simp only [Module.model, helement, if_pos (Or.inl hinput)]
  rfl

/-- What an expansion leaves at the three places of the chain. -/
theorem branches_of_preTransform_model {t' : Tree} {a : NodeId} {o : Options}
    (hroom : t.nodes.length + 3 ≤ UInt32.size) (helement : t.element? id = some e)
    (hmodules : ∀ m ∈ o.modules, m = Module.classes ∨ m = Module.model)
    (hexpanded : (Module.model.preTransform o.host id t).value = (some a, t')) :
    ∃ (n : Nat) (code : String) (b c : NodeId), e.resolvedType? = some code ∧
      let process := Element.process o.toScope (Element.moveClasses o.toScope n)
      let source := e.takeTypeBinding.2.takeConditions.2
      let chain : ChainConditions := ⟨e.written.nonEmpty? "v-if", (e.written.get? "v-else").isSome,
        e.written.nonEmpty? "v-else-if"⟩
      t'.element? a = some ((source.loopBranch process).value.startChain code chain a b c) ∧
        t'.element? b = some (source.typedBranch process "type" "radio").value ∧
        t'.element? c = some (source.typedBranch process ":type" code).value := by
  obtain ⟨n, hhost⟩ := transformAll_eq_updateElement hmodules o.toScope
  have hsome : (Module.model.preTransform o.host id t).value.1 ≠ none := by
    rw [hexpanded]
    exact Option.some_ne_none a
  have hasked : (e.written.nonEmpty? "v-model").isSome ∧ e.resolvedType?.isSome := by
    by_contra hnot
    exact hsome (fst_preTransform_model_of_not o.host helement hnot)
  obtain ⟨code, hcode⟩ := Option.isSome_iff_exists.mp hasked.2
  have hexpand := preTransform_model_of_resolvedType? o.host helement
    (tag_of_preTransform_model helement hsome) hasked.1 hcode
  generalize e.takeTypeBinding.2.takeConditions.2 = source at hexpand ⊢
  rw [Tree.modifyElement_eq_set helement] at hexpand
  set t₁ : Tree := { t with nodes := t.nodes.set id.toNat (.element source) }
  have hroom₁ : t₁.nodes.length + 3 ≤ UInt32.size := by
    rw [List.length_set]
    exact hroom
  rw [Tree.expandModel_eq hhost hroom₁] at hexpand
  have hvalue := congrArg Reported.value hexpand
  simp only [Reported.value_bind, Reported.value_pure] at hvalue
  rw [hvalue] at hexpanded
  obtain ⟨ha, rfl⟩ := Prod.mk.inj hexpanded
  obtain rfl := Option.some.inj ha
  refine ⟨n, code, _, _, hcode, Tree.element?_append (by omega) _ _,
    Tree.element?_append_of_getElem? (by omega) rfl,
    Tree.element?_append_of_getElem? (by omega) rfl⟩

end Module

/-- **An expanded model becomes a chain of three inputs.**  Let the modules be any
of this library, and let there be room for three more nodes.  Then an input with
coherent attributes is replaced exactly if it has a model and its type is bound.
If it is, three elements come behind the nodes of the tree, and nothing else
changes but the attributes of the input itself.  All three are copies in the
place of the input without its conditions.  The first one stands for the input:
it alone is marked as processed, holds the conditions of the chain, and carries
the loop. -/
theorem preTransform_model_expands {t : Tree} {id : NodeId} {e : Element} {o : Options}
    (hroom : t.nodes.length + 3 ≤ UInt32.size) (helement : t.element? id = some e)
    (hinput : e.tag = "input") (hcoherent : e.Coherent)
    (hmodules : ∀ m ∈ o.modules, m = Module.classes ∨ m = Module.model) :
    ((Module.model.preTransform o.host id t).value.1.isSome ↔
      (e.written.nonEmpty? "v-model").isSome ∧ e.resolvedType?.isSome) ∧
    ∀ a t', (Module.model.preTransform o.host id t).value = (some a, t') →
      ∃ (code : String) (b c : NodeId) (input first second third : Element),
        e.resolvedType? = some code ∧
        a.toNat = t.nodes.length ∧ b.toNat = t.nodes.length + 1 ∧ c.toNat = t.nodes.length + 2 ∧
        t' = { t with
          nodes := t.nodes.set id.toNat (.element input) ++
            [.element first, .element second, .element third] } ∧
        input = { e with pending := input.pending, written := input.written } ∧
        first.StartsChain e code a b c ∧
        (∀ x ∈ [first, second, third], x.IsBranchOf e) ∧
        ∀ x ∈ [second, third], x.IsUnchained ∧ x.HasLoop none ∧ x.Lacks "v-for" := by
  obtain ⟨n, hhost⟩ := Module.transformAll_eq_updateElement hmodules o.toScope
  have hprocess : ∀ x, Element.ProcessedTo x
      (Element.process o.toScope (Element.moveClasses o.toScope n) x).value :=
    Element.processedTo_process (Element.processedTo_moveClasses o.toScope n)
  by_cases hasked : (e.written.nonEmpty? "v-model").isSome ∧ e.resolvedType?.isSome
  · obtain ⟨hmodel, hsome⟩ := hasked
    obtain ⟨code, hcode⟩ := Option.isSome_iff_exists.mp hsome
    have hsource := Element.isRemainder_takeConditions hcoherent
    have hexpand := Module.preTransform_model_of_resolvedType? o.host helement hinput hmodel hcode
    -- From here on only what `IsRemainder` says of the rest of the input matters.
    generalize e.takeTypeBinding.2.takeConditions.2 = source at hsource hexpand
    rw [Tree.modifyElement_eq_set helement] at hexpand
    set t₁ : Tree := { t with nodes := t.nodes.set id.toNat (.element source) } with ht₁
    have hlength : t₁.nodes.length = t.nodes.length := List.length_set
    rw [Tree.expandModel_eq hhost (hlength ▸ hroom)] at hexpand
    have hvalue := congrArg Reported.value hexpand
    simp only [Reported.value_bind, Reported.value_pure] at hvalue
    refine ⟨by simp [hvalue, hmodel, hsome], fun a t' hresult => ?_⟩
    rw [hvalue] at hresult
    obtain ⟨ha, rfl⟩ := Prod.mk.inj hresult
    obtain rfl := Option.some.inj ha
    refine ⟨code, _, _, source, _, _, _, hcode, ?_, ?_, ?_, rfl, hsource.eq,
      Element.startsChain_loopBranch hprocess hsource code _ _ _, ?_, ?_⟩
    · rw [Tree.toNat_nextId (by omega), hlength]
    · rw [toNat_offsetOfNat (by omega), hlength]
    · rw [toNat_offsetOfNat (by omega), hlength]
    · simp only [List.forall_mem_cons, List.not_mem_nil, false_implies, implies_true, and_true]
      exact ⟨(Element.isBranchOf_loopBranch hprocess hsource).startChain _ _ _ _ _,
        Element.isBranchOf_typedBranch hprocess hsource (by decide) "radio",
        Element.isBranchOf_typedBranch hprocess hsource (by decide) code⟩
    · simp only [List.forall_mem_cons, List.not_mem_nil, false_implies, implies_true, and_true]
      exact ⟨Element.isUnchained_typedBranch hprocess hsource (by decide) "radio",
        Element.isUnchained_typedBranch hprocess hsource (by decide) code⟩
  · have hnone := Module.fst_preTransform_model_of_not o.host helement hasked
    refine ⟨by simp [hnone, hasked], fun a t' hresult => ?_⟩
    rw [hresult] at hnone
    exact nomatch hnone

/-- An input in a loop and in a chain, with a type that is bound. -/
def boundInput : Element :=
  Element.ofAttributes "input"
    [⟨"v-model", "data", none⟩, ⟨":type", "kind", none⟩, ⟨"v-for", "x in xs", none⟩,
      ⟨"v-if", "ok", none⟩, ⟨"v-else-if", "other", none⟩] none

/-- A text with the input behind it. -/
def boundTree : Tree :=
  (({ nodes := [.text "a" none none] } : Tree).createElement boundInput.tag boundInput.pending
    none).2

theorem preTransform_model_boundTree :
    ∃ (t' : Tree) (input first second third : Element),
      (Module.model.preTransform
        ({ modules := [Module.classes, Module.model] } : Options).host 1 boundTree).value =
          (some 2, t') ∧
      t'.nodes = [.text "a" none none, .element input, .element first, .element second,
        .element third] ∧
      first.branches = [⟨some "(kind)==='checkbox'&&(ok)", 2⟩,
        ⟨some "(kind)==='radio'&&(ok)", 3⟩, ⟨some "ok", 4⟩] ∧
      first.elseCondition = some "other" ∧ first.loopSource = some "xs" ∧
      second.Lacks "v-if" ∧ third.loopSource = none := by
  have hcode : boundInput.resolvedType? = some "kind" := by decide
  have hcoherent : boundInput.Coherent := Element.coherent_ofAttributes (by decide) _ _
  obtain ⟨hsome, hchain⟩ := preTransform_model_expands
    (t := boundTree) (e := boundInput) (o := { modules := [Module.classes, Module.model] })
    (by decide) (show boundTree.element? 1 = _ from rfl) rfl hcoherent (by simp)
  obtain ⟨a, ha⟩ := Option.isSome_iff_exists.mp (hsome.mpr ⟨by decide, by rw [hcode]; rfl⟩)
  obtain ⟨code, b, c, input, first, second, third, hresolved, hfirst, hsecond, hthird, htree, -,
    hstarts, hbranches, hothers⟩ := hchain a _ (Prod.ext ha rfl)
  obtain rfl : code = "kind" := Option.some.inj (hresolved.symm.trans hcode)
  obtain rfl : a = 2 := UInt32.toNat_inj.mp hfirst
  obtain rfl : b = 3 := UInt32.toNat_inj.mp hsecond
  obtain rfl : c = 4 := UInt32.toNat_inj.mp hthird
  have hloop : boundInput.pendingLoop? = some ⟨"xs", "x", none, none⟩ := by decide
  refine ⟨_, input, first, second, third, Prod.ext ha htree, rfl, hstarts.branches_eq,
    hstarts.elseCondition_eq, ?_, (hbranches second (by simp)).lacks_conditions "v-if" (by simp),
    (hothers third (by simp)).2.1.source_eq⟩
  rw [hstarts.hasLoop.source_eq, hloop]
  rfl

end Stencil
