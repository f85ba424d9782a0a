import Stencil.Proofs.Filter.Stability
import Stencil.Proofs.Module.Expansion
import Stencil.Web

/-!
# Where nothing is expanded

The module that expands models declines a node in three ways: it is no input with
a model, its type is fixed, or its type is bound to nothing but blanks.  The first
two leave the tree alone.  The third one takes the bound type off the list of
attributes before it is found to be blank (`declined_model_keeps_tree_iff`).

Once an expansion has begun it is not given up: its first branch stays an element
as long as the modules keep elements (`Tree.fst_expandModel`).
-/

namespace Stencil

open Text

/-! ## An expansion is not given up -/

namespace Tree

variable {t : Tree} {host : Host}

theorem keepsElements_processElement
    (hhost : ∀ id t, KeepsElements t (host.transform id t).value) (t : Tree) (id : NodeId) :
    t.KeepsElements (t.processElement host id).value := by
  unfold processElement
  cases t.element? id with
  | none => exact .refl t
  | some e =>
      exact ((keepsElements_modifyElement t id _).trans (hhost id _)).trans
        (keepsElements_updateElement _ id _)

theorem keepsElements_addBranch (hhost : ∀ id t, KeepsElements t (host.transform id t).value)
    (t : Tree) (source : Element) (name value : String) :
    t.KeepsElements (t.addBranch host source name value).value.2 := by
  have hcopy : t.KeepsElements (t.copyElement source).2 :=
    (keepsElements_push t _).trans (keepsElements_modifyElement _ _ _)
  exact (hcopy.trans (keepsElements_modifyElement _ _ _)).trans
    (keepsElements_processElement hhost _ _)

theorem isSome_element?_addLoopBranch
    (hhost : ∀ id t, KeepsElements t (host.transform id t).value)
    (hroom : t.nodes.length < UInt32.size) (source : Element) :
    ((t.addLoopBranch host source).value.2.element? t.nextId).isSome := by
  have hcopy : ((t.copyElement source).2.element? t.nextId).isSome := by
    rw [copyElement_eq hroom, element?_push hroom]
    rfl
  have hkeeps : (t.copyElement source).2.KeepsElements (t.addLoopBranch host source).value.2 :=
    ((keepsElements_updateElement _ _ _).trans (keepsElements_modifyElement _ _ _)).trans
      (keepsElements_processElement hhost _ _)
  exact hkeeps t.nextId hcopy

/-- With room for a node, and modules that keep elements, an expansion gives the
first branch. -/
theorem fst_expandModel (hhost : ∀ id t, KeepsElements t (host.transform id t).value)
    (hroom : t.nodes.length < UInt32.size) (source : Element) (code : String)
    (chain : ChainConditions) :
    (t.expandModel host source code chain).value.1 = some t.nextId := by
  have hfirst := isSome_element?_addLoopBranch hhost hroom source
  let checked := (t.addLoopBranch host source).value.2.modifyElement t.nextId fun e =>
    { e with condition := some (typeCondition code "checkbox" chain.condition) }
  let radio := (checked.addBranch host source "type" "radio").value.2
  let bound := (radio.addBranch host source ":type" code).value.2
  have hkeeps : (t.addLoopBranch host source).value.2.KeepsElements bound :=
    ((keepsElements_modifyElement _ _ _).trans
      (keepsElements_addBranch hhost checked source _ _)).trans
        (keepsElements_addBranch hhost radio source _ _)
  -- So the last look at the first branch, which is the only way out, finds it.
  obtain ⟨first, hsome⟩ := Option.isSome_iff_exists.mp (hkeeps t.nextId hfirst)
  unfold expandModel
  simp only [Reported.value_bind]
  split
  next hnone => exact nomatch hsome.symm.trans hnone
  next => rfl

end Tree

namespace Module

/-- The work of a module on one element leaves all elements elements. -/
def KeepsElements (m : Module) : Prop :=
  ∀ scope id t, Tree.KeepsElements t (m.transform scope id t).value

theorem keepsElements_classes : Module.classes.KeepsElements :=
  fun _ id t => t.keepsElements_updateElement id _

theorem keepsElements_model : Module.model.KeepsElements := fun _ _ t => .refl t

theorem keepsElements_transformAll {modules : List Module}
    (hmodules : ∀ m ∈ modules, m.KeepsElements) (scope : Scope) (id : NodeId) (t : Tree) :
    t.KeepsElements (transformAll modules scope id t).value := by
  induction modules generalizing t with
  | nil => exact .refl t
  | cons m modules ih =>
      obtain ⟨hm, hmodules⟩ := List.forall_mem_cons.mp hmodules
      exact (hm scope id t).trans (ih hmodules _)

end Module

/-! ## Types that are bound to blanks -/

namespace Element

variable {e : Element} {form : String}

/-- An input with a model. -/
structure IsModelInput (e : Element) : Prop where
  tag_eq : e.tag = "input"
  model : (e.written.nonEmpty? "v-model").isSome

theorem not_isModelInput_iff :
    ¬ e.IsModelInput ↔ e.tag ≠ "input" ∨ (e.written.nonEmpty? "v-model").isNone := by
  constructor
  · intro hnot
    by_contra hskip
    obtain ⟨htag, hmodel⟩ := not_or.mp hskip
    exact hnot ⟨not_not.mp htag, by simpa [Option.isSome_iff_ne_none] using hmodel⟩
  · rintro hskip ⟨htag, hmodel⟩
    rcases hskip with hne | hnone
    · exact hne htag
    · rw [Option.isNone_iff_eq_none.mp hnone] at hmodel
      exact Bool.false_ne_true hmodel

/-- An input with a model whose type is bound to blanks, by an attribute that is
still pending. -/
structure HasBlankType (e : Element) : Prop extends e.IsModelInput where
  blank : ∃ code, (e.written.nonEmpty? ":type").or (e.written.nonEmpty? "v-bind:type") = some code ∧
    ∀ c ∈ code.toList, isBlank c = true
  pending : ∃ a ∈ e.pending, a.name ∈ e.typeForms

theorem typeForms_subset (e : Element) : e.typeForms ⊆ [":type", "v-bind:type"] := by
  unfold typeForms
  split_ifs
  · simp
  · exact List.filter_sublist.subset
  · simp

/-- Only a type that is bound is taken. -/
theorem exists_of_mem_typeForms (hform : form ∈ e.typeForms) :
    ∃ code, (e.written.nonEmpty? ":type").or (e.written.nonEmpty? "v-bind:type") = some code := by
  unfold typeForms at hform
  cases hshort : e.written.nonEmpty? ":type" with
  | some code => exact ⟨code, rfl⟩
  | none =>
      cases hlong : e.written.nonEmpty? "v-bind:type" with
      | some code => exact ⟨code, rfl⟩
      | none =>
          rw [hshort, hlong] at hform
          exact absurd hform List.not_mem_nil

theorem isBlank_of_resolvedType? {code : String} (hnone : e.resolvedType? = none)
    (hbound : (e.written.nonEmpty? ":type").or (e.written.nonEmpty? "v-bind:type") = some code) :
    ∀ c ∈ code.toList, isBlank c = true := by
  apply Filter.compile_eq_empty_iff.mp
  have hfilter := (Option.or_eq_none_iff.mp hnone).1
  rw [hbound, Option.map_some, Option.filter_eq_none_iff] at hfilter
  simpa using hfilter

/-- A form that is taken although the type is fixed says nothing but blanks. -/
theorem IsModelInput.dropFirst_typeForms_iff (hmodel : e.IsModelInput)
    (hcode : e.resolvedType? = none) :
    Attribute.dropFirst e.typeForms e.pending = e.pending ↔ ¬ e.HasBlankType := by
  rw [Attribute.dropFirst_eq_self_iff]
  constructor
  · intro hkept hblank
    obtain ⟨a, ha, hform⟩ := hblank.pending
    exact hkept a ha hform
  · intro hblank a ha hform
    obtain ⟨code, hbound⟩ := exists_of_mem_typeForms hform
    exact hblank ⟨hmodel, ⟨code, hbound, isBlank_of_resolvedType? hcode hbound⟩, a, ha, hform⟩

end Element

namespace Module

variable {t : Tree} {id : NodeId} {e : Element} {host : Host}

theorem preTransform_model_of_not_isModelInput (helement : t.element? id = some e)
    (hmodel : ¬ e.IsModelInput) (host : Host) :
    Module.model.preTransform host id t = pure (none, t) := by
  simp only [Module.model, helement, if_pos (Element.not_isModelInput_iff.mp hmodel)]

/-- An input whose type is fixed only loses the forms of a bound type. -/
theorem preTransform_model_of_fixed (helement : t.element? id = some e) (hmodel : e.IsModelInput)
    (hcode : e.resolvedType? = none) (host : Host) :
    Module.model.preTransform host id t = pure (none, t.modifyElement id fun _ =>
      { e with pending := Attribute.dropFirst e.typeForms e.pending }) := by
  have hskip : ¬ (e.tag ≠ "input" ∨ (e.written.nonEmpty? "v-model").isNone) :=
    fun hskip => Element.not_isModelInput_iff.mpr hskip hmodel
  simp only [Module.model, helement, if_neg hskip, e.takeTypeBinding_fst, hcode,
    e.takeTypeBinding_eq_dropFirst]

/-- An input with a model is declined only if its type is fixed. -/
theorem resolvedType?_of_declined
    (hhost : ∀ id t, Tree.KeepsElements t (host.transform id t).value)
    (hroom : t.nodes.length < UInt32.size) (helement : t.element? id = some e)
    (hmodel : e.IsModelInput)
    (hdeclined : (Module.model.preTransform host id t).value.1 = none) :
    e.resolvedType? = none := by
  by_contra hcode
  obtain ⟨code, hcode⟩ := Option.ne_none_iff_exists'.mp hcode
  have hroom' : (t.modifyElement id fun _ =>
      e.takeTypeBinding.2.takeConditions.2).nodes.length < UInt32.size := by
    rw [Tree.modifyElement_eq_set helement, List.length_set]
    exact hroom
  rw [preTransform_model_of_resolvedType? host helement hmodel.tag_eq hmodel.model hcode,
    Tree.fst_expandModel hhost hroom'] at hdeclined
  exact Option.some_ne_none _ hdeclined

end Module

/-- **A declined model leaves the tree alone unless its type is bound to blanks.**
Let the module that expands models give nothing in the place of a node, in a tree
with room for one more and among modules that keep elements.  Then it reports
nothing, and it has changed at most the list of pending attributes of that one
element, by taking `:type` and `v-bind:type` off it.  The tree is as before if and
only if the node is no input with a model that has such an attribute with nothing
but blanks. -/
theorem declined_model_keeps_tree_iff {t t' : Tree} {id : NodeId} {o : Options}
    (hroom : t.nodes.length < UInt32.size) (hmodules : ∀ m ∈ o.modules, m.KeepsElements)
    (hdeclined : (Module.model.preTransform o.host id t).value = (none, t')) :
    (Module.model.preTransform o.host id t).reports = [] ∧
    (∃ taken ⊆ [":type", "v-bind:type"], t' = t.modifyElement id fun e =>
      { e with pending := Attribute.dropFirst taken e.pending }) ∧
    (t' = t ↔ ∀ e, t.element? id = some e → ¬ e.HasBlankType) := by
  have hsame : ∃ taken ⊆ [":type", "v-bind:type"], t = t.modifyElement id fun e =>
      { e with pending := Attribute.dropFirst taken e.pending } :=
    ⟨[], List.nil_subset _, (t.modifyElement_self id).symm⟩
  cases helement : t.element? id with
  | none =>
      have hrun : Module.model.preTransform o.host id t = pure (none, t) := by
        simp only [Module.model, helement]
      rw [hrun] at hdeclined ⊢
      obtain rfl : t = t' := congrArg Prod.snd hdeclined
      refine ⟨rfl, hsame, iff_of_true rfl ?_⟩
      intro e he
      exact absurd he.symm (Option.some_ne_none e)
  | some e =>
      by_cases hmodel : e.IsModelInput
      · have hcode := Module.resolvedType?_of_declined
          (Module.keepsElements_transformAll hmodules o.toScope) hroom helement hmodel
          (congrArg Prod.fst hdeclined)
        rw [Module.preTransform_model_of_fixed helement hmodel hcode] at hdeclined ⊢
        obtain ⟨-, rfl⟩ := Prod.mk.inj hdeclined
        refine ⟨rfl, ⟨e.typeForms, e.typeForms_subset, ?_⟩, ?_⟩
        · rw [Tree.modifyElement_eq_set helement, Tree.modifyElement_eq_set helement]
        · rw [Tree.modifyElement_const_eq_self_iff helement]
          constructor
          · intro hkept e' he
            obtain rfl := Option.some.inj he
            exact (hmodel.dropFirst_typeForms_iff hcode).mp (congrArg Element.pending hkept)
          · intro hblank
            rw [(hmodel.dropFirst_typeForms_iff hcode).mpr (hblank e rfl)]
      · rw [Module.preTransform_model_of_not_isModelInput helement hmodel] at hdeclined ⊢
        obtain rfl : t = t' := congrArg Prod.snd hdeclined
        refine ⟨rfl, hsame, iff_of_true rfl ?_⟩
        intro e' he hblank
        obtain rfl := Option.some.inj he
        exact hmodel hblank.toIsModelInput

/-- An input whose plain type hides the one among all attributes bound at once. -/
def fixedInput : Element :=
  Element.ofAttributes "input"
    [⟨"v-model", "m", none⟩, ⟨"type", "text", none⟩, ⟨"v-bind", "all", none⟩] none

/-- A tree that holds only this input. -/
def fixedTree : Tree where
  nodes := [.element fixedInput]

theorem declined_model_keeps_tree_iff_fixedTree :
    Module.model.preTransform Web.baseOptions.host 0 fixedTree = ⟨(none, fixedTree), []⟩ := by
  have hnone : (Module.model.preTransform Web.baseOptions.host 0 fixedTree).value.1 = none := by
    decide +kernel
  have hmodules : ∀ m ∈ Web.baseOptions.modules, m.KeepsElements := by
    simp [Web.baseOptions, Options.withModules, Module.keepsElements_classes,
      Module.keepsElements_model]
  have hdeclined : (Module.model.preTransform Web.baseOptions.host 0 fixedTree).value =
      (none, (Module.model.preTransform Web.baseOptions.host 0 fixedTree).value.2) :=
    Prod.ext hnone rfl
  obtain ⟨hreports, -, hiff⟩ := declined_model_keeps_tree_iff (t := fixedTree) (by decide) hmodules
    hdeclined
  have hsame := hiff.mpr (by
    intro e he hblank
    obtain rfl : fixedInput = e := Option.some.inj he
    obtain ⟨code, hcode, -⟩ := hblank.blank
    exact nomatch hcode)
  rw [hsame] at hdeclined
  generalize Module.model.preTransform Web.baseOptions.host 0 fixedTree = run at hreports hdeclined
  obtain ⟨value, reports⟩ := run
  rw [Reported.mk.injEq]
  exact ⟨hdeclined, hreports⟩

/-- An input whose type is bound to a blank. -/
def blankInput : Element :=
  Element.ofAttributes "input" [⟨"v-model", "m", none⟩, ⟨":type", " ", none⟩] none

/-- A tree that holds only this input. -/
def blankTree : Tree where
  nodes := [.element blankInput]

theorem declined_model_takes_blank_type :
    (Module.model.preTransform Web.baseOptions.host 0 blankTree).value =
        (none, { nodes := [.element { blankInput with pending := [⟨"v-model", "m", none⟩] }] }) ∧
      blankInput.pending = [⟨"v-model", "m", none⟩, ⟨":type", " ", none⟩] := by
  decide +kernel

end Stencil
