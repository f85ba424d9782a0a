import Stencil.Proofs.Module.Declined
import Stencil.Proofs.Options

/-!
# Expanding once is enough

An element is settled (`Element.IsSettled`) if the module that expands models has
nothing to do with it.  What this module leaves in the place of an input is settled,
whether it expanded the input or declined it.  So all further modules of this
library leave the tree alone, and it does not matter how often that module is
listed (`expansion_happens_once`).
-/

namespace Stencil

/-! ## Nothing is left to expand -/

namespace Element

variable {e source : Element}

/-- The module that expands models leaves an element as it is. -/
def IsSettled (e : Element) : Prop :=
  e.IsModelInput → e.resolvedType? = none ∧ ∀ a ∈ e.pending, a.name ∉ e.typeForms

/-- What is left of an input whose type is fixed is settled. -/
theorem Coherent.isSettled_dropFirst (hcoherent : e.Coherent) (hcode : e.resolvedType? = none) :
    { e with pending := Attribute.dropFirst e.typeForms e.pending }.IsSettled := by
  intro _
  refine ⟨hcode, fun a ha => ?_⟩
  rw [Attribute.dropFirst_of_nodup hcoherent.nodup] at ha
  exact of_decide_eq_true (List.mem_filter.mp ha).2

/-- What an expansion leaves of an input binds the type to nothing, unless both
forms of a bound type said something. -/
theorem Coherent.value_eq_empty_of_mem_remainder (hcoherent : e.Coherent)
    (honce : e.written.nonEmpty? ":type" = none ∨ e.written.nonEmpty? "v-bind:type" = none)
    {a : Attribute} (ha : a ∈ e.takeTypeBinding.2.takeConditions.2.pending)
    (hname : a.name ∈ [":type", "v-bind:type"]) : a.value = "" := by
  have hpending := e.takeTypeBinding.2.pending_takeConditions_sublist.subset ha
  rw [takeTypeBinding_eq_dropFirst, Attribute.dropFirst_of_nodup hcoherent.nodup] at hpending
  obtain ⟨hmem, hform⟩ := List.mem_filter.mp hpending
  have hwritten := hcoherent.get?_written a hmem
  by_contra hvalue
  have hsome : e.written.nonEmpty? a.name = some a.value := by
    rw [Dict.nonEmpty?, hwritten]
    simp [hvalue]
  -- A form that says something is taken, the long one because the short one says nothing.
  apply of_decide_eq_true hform
  unfold typeForms
  rcases List.mem_pair.mp hname with hshort | hlong
  · rw [hshort] at hsome ⊢
    simp [hsome]
  · rw [hlong] at hsome hwritten ⊢
    have hnone := honce.resolve_right (by simp [hsome])
    simp [hnone, hsome, hwritten]

variable {process : Element → Reported Element}

/-- The start of a chain is settled. -/
theorem isSettled_startChain (hprocess : ∀ x, ProcessedTo x (process x).value)
    (hnodup : (source.pending.map Attribute.name).Nodup)
    (hempty : ∀ a ∈ source.pending, a.name ∈ [":type", "v-bind:type"] → a.value = "")
    (code : String) (chain : ChainConditions) (first second third : NodeId) :
    ((source.loopBranch process).value.startChain code chain first second third).IsSettled := by
  have hwritten : ((source.loopBranch process).value.startChain code chain first second
      third).written = (source.loopBranch process).value.written := rfl
  have hnone : ∀ form ∈ [":type", "v-bind:type"],
      (source.loopBranch process).value.written.nonEmpty? form = none := by
    intro form hform
    have htype : form ≠ "type" := by
      rintro rfl
      exact absurd hform (by decide)
    rw [Dict.nonEmpty?, get?_written_loopBranch hprocess hnodup htype]
    cases htext : source.pendingText? form with
    | none => rfl
    | some text =>
        obtain ⟨a, ha, rfl, rfl⟩ := exists_of_pendingText? htext
        rw [hempty a ha hform]
        rfl
  -- The plain type that was added hides a type among all attributes bound at once.
  have hshort := hnone ":type" (by simp)
  have hlong := hnone "v-bind:type" (by simp)
  have hfixed : (source.loopBranch process).value.written.nonEmpty? "type" = some "checkbox" := by
    rw [Dict.nonEmpty?, written_loopBranch hprocess, Dict.get?_insert_self]
    rfl
  intro _
  constructor
  · simp [resolvedType?, hwritten, hshort, hlong, hfixed]
  · intro a _
    simp [typeForms, hwritten, hshort, hlong]

end Element

namespace Module

variable {t : Tree} {id : NodeId} {e : Element} {host : Host} {modules : List Module}

theorem preTransform_model_of_isSettled (helement : t.element? id = some e) (hsettled : e.IsSettled)
    (host : Host) : Module.model.preTransform host id t = pure (none, t) := by
  by_cases hmodel : e.IsModelInput
  · obtain ⟨hcode, hforms⟩ := hsettled hmodel
    rw [preTransform_model_of_fixed helement hmodel hcode,
      Attribute.dropFirst_eq_self_iff.mpr hforms, Tree.modifyElement_const_self helement]
  · exact preTransform_model_of_not_isModelInput helement hmodel host

/-- What the module that expands models leaves in the place of an element is
settled. -/
theorem isSettled_of_preTransform_model {o : Options} (hroom : t.nodes.length + 3 ≤ UInt32.size)
    (helement : t.element? id = some e) (hcoherent : e.Coherent)
    (honce : e.written.nonEmpty? ":type" = none ∨ e.written.nonEmpty? "v-bind:type" = none)
    (hmodules : ∀ m ∈ o.modules, m = Module.classes ∨ m = Module.model) {r : Option NodeId}
    {t' : Tree} (hrun : (Module.model.preTransform o.host id t).value = (r, t')) :
    ∃ x, t'.element? (r.getD id) = some x ∧ x.IsSettled := by
  cases r with
  | some a =>
      obtain ⟨n, code, b, c, -, hfirst, -⟩ :=
        branches_of_preTransform_model hroom helement hmodules hrun
      refine ⟨_, hfirst, ?_⟩
      apply Element.isSettled_startChain
      · exact Element.processedTo_process_moveClasses o.toScope n
      · exact (Element.isRemainder_takeConditions hcoherent).nodup
      · exact fun x hx => hcoherent.value_eq_empty_of_mem_remainder honce hx
  | none =>
      by_cases hmodel : e.IsModelInput
      · have hkeeps : ∀ m ∈ o.modules, m.KeepsElements := by
          intro m hm
          rcases hmodules m hm with rfl | rfl
          · exact keepsElements_classes
          · exact keepsElements_model
        have hcode := resolvedType?_of_declined (keepsElements_transformAll hkeeps o.toScope)
          (by omega) helement hmodel (congrArg Prod.fst hrun)
        rw [preTransform_model_of_fixed helement hmodel hcode] at hrun
        obtain ⟨-, rfl⟩ := Prod.mk.inj hrun
        exact ⟨_, Tree.element?_modifyElement helement _, hcoherent.isSettled_dropFirst hcode⟩
      · rw [preTransform_model_of_not_isModelInput helement hmodel] at hrun
        obtain ⟨-, rfl⟩ := Prod.mk.inj hrun
        exact ⟨e, helement, fun hmodel' => absurd hmodel' hmodel⟩

/-! ## Modules that are listed twice -/

theorem preTransformAll_cons (m : Module) (modules : List Module) (host : Host) (id : NodeId)
    (t : Tree) :
    preTransformAll (m :: modules) host id t =
      (m.preTransform host id t >>= fun run =>
        preTransformAll modules host (run.1.getD id) run.2) := by
  unfold preTransformAll
  rw [List.foldlM_cons]
  simp only [bind_assoc, pure_bind]

theorem preTransformAll_of_isSettled
    (hmodules : ∀ m ∈ modules, m = Module.classes ∨ m = Module.model)
    (helement : t.element? id = some e) (hsettled : e.IsSettled) (host : Host) :
    preTransformAll modules host id t = pure (id, t) := by
  induction modules with
  | nil => rfl
  | cons m modules ih =>
      obtain ⟨hm, hmodules⟩ := List.forall_mem_cons.mp hmodules
      have hnone : m.preTransform host id t = pure (none, t) := by
        rcases hm with rfl | rfl
        · rfl
        · exact preTransform_model_of_isSettled helement hsettled host
      rw [preTransformAll_cons, hnone, pure_bind]
      exact ih hmodules

/-- However often models are expanded, it is done once. -/
theorem preTransformAll_eq_preTransform_model
    (hmodules : ∀ m ∈ modules, m = Module.classes ∨ m = Module.model)
    (hmodel : Module.model ∈ modules)
    (hsettles : ∀ r t', (Module.model.preTransform host id t).value = (r, t') →
      ∃ x, t'.element? (r.getD id) = some x ∧ x.IsSettled) :
    preTransformAll modules host id t =
      (Module.model.preTransform host id t >>= fun run => pure (run.1.getD id, run.2)) := by
  induction modules with
  | nil => exact absurd hmodel List.not_mem_nil
  | cons m modules ih =>
      -- Modules in front of the first expansion do nothing, those behind it find a
      -- settled element.
      obtain ⟨hm, hrest⟩ := List.forall_mem_cons.mp hmodules
      have hfirst : m = Module.model → preTransformAll (m :: modules) host id t =
          (Module.model.preTransform host id t >>= fun run => pure (run.1.getD id, run.2)) := by
        rintro rfl
        rw [preTransformAll_cons]
        apply Reported.bind_congr_value
        obtain ⟨x, hx, hsettled⟩ := hsettles _ _ rfl
        exact preTransformAll_of_isSettled hrest hx hsettled host
      rcases hm with rfl | hm
      · rcases List.mem_cons.mp hmodel with hm | hmodel
        · exact hfirst hm.symm
        · rw [preTransformAll_cons]
          exact ih hrest hmodel
      · exact hfirst hm

theorem transformAll_middle (before after : List Module) (scope : Scope) (id : NodeId) (t : Tree) :
    transformAll (before ++ Module.model :: after) scope id t =
      transformAll (before ++ after) scope id t := by
  unfold transformAll
  rw [List.foldlM_append, List.foldlM_append]
  rfl

end Module

/-- Listing the module that expands models once more does not change what modules can
use. -/
theorem CallOptions.host_resolve_middle {c : CallOptions} {before after : List Module}
    (htwice : c.modules = before ++ Module.model :: after) (base : Options) :
    (c.resolve base).host = ({ c with modules := before ++ after }.resolve base).host := by
  have htransform : (c.resolve base).transform =
      ({ c with modules := before ++ after }.resolve base).transform := by
    funext id t
    unfold Options.transform
    rw [modules_resolve, modules_resolve, toScope_resolve, toScope_resolve, htwice,
      ← List.append_assoc, Module.transformAll_middle, List.append_assoc]
  unfold Options.host
  rw [htransform, toScope_resolve, toScope_resolve]

/-- **An expansion happens once.**  Let an input have coherent attributes, of which
`:type` and `v-bind:type` do not both say something, in a tree with room for three
more nodes, and let all modules be of this library.  If it is expanded, expanding
the input that stands for it does nothing, whatever the options.  So if the module
that expands models is listed in the options of a base, listing it again in those
of a call changes neither the tree nor the reports. -/
theorem expansion_happens_once {t : Tree} {id : NodeId} {e : Element}
    (hroom : t.nodes.length + 3 ≤ UInt32.size) (helement : t.element? id = some e)
    (hcoherent : e.Coherent)
    (honce : e.written.nonEmpty? ":type" = none ∨ e.written.nonEmpty? "v-bind:type" = none) :
    (∀ (o : Options) (a : NodeId) (t' : Tree),
      (∀ m ∈ o.modules, m = Module.classes ∨ m = Module.model) →
      (Module.model.preTransform o.host id t).value = (some a, t') →
      ∀ host, Module.model.preTransform host a t' = pure (none, t')) ∧
    ∀ (base : Options) (c : CallOptions) (before after : List Module),
      (∀ m ∈ base.modules ++ c.modules, m = Module.classes ∨ m = Module.model) →
      Module.model ∈ base.modules → c.modules = before ++ Module.model :: after →
      (c.resolve base).preTransform id t =
        ({ c with modules := before ++ after }.resolve base).preTransform id t := by
  constructor
  · intro o a t' hmodules hexpanded host
    obtain ⟨first, hfirst, hsettled⟩ := Module.isSettled_of_preTransform_model hroom helement
      hcoherent honce hmodules hexpanded
    exact Module.preTransform_model_of_isSettled hfirst hsettled host
  · intro base c before after hmodules hmodel htwice
    have hhost := CallOptions.host_resolve_middle htwice base
    have hmodules' : ∀ m ∈ ({ c with modules := before ++ after }.resolve base).modules,
        m = Module.classes ∨ m = Module.model := by
      intro m hm
      rw [CallOptions.modules_resolve] at hm
      apply hmodules
      rw [htwice]
      simp only [List.mem_append, List.mem_cons] at hm ⊢
      tauto
    rw [← CallOptions.modules_resolve] at hmodules
    have hsettles : ∀ r t', (Module.model.preTransform (c.resolve base).host id t).value = (r, t') →
        ∃ x, t'.element? (r.getD id) = some x ∧ x.IsSettled := by
      intro r t' hrun
      exact Module.isSettled_of_preTransform_model hroom helement hcoherent honce hmodules hrun
    unfold Options.preTransform
    rw [Module.preTransformAll_eq_preTransform_model hmodules _ hsettles, hhost,
      Module.preTransformAll_eq_preTransform_model hmodules' _ (hhost ▸ hsettles)]
    · rw [CallOptions.modules_resolve]
      exact List.mem_append_left _ hmodel
    · rw [CallOptions.modules_resolve]
      exact List.mem_append_left _ hmodel

theorem expansion_happens_once_boundTree :
    (∃ t', (Module.model.preTransform Web.baseOptions.host 1 boundTree).value = (some 2, t') ∧
      Module.model.preTransform Web.baseOptions.host 2 t' = pure (none, t')) ∧
    (CallOptions.resolve { modules := [Module.model] } Web.baseOptions).preTransform 1 boundTree =
      (CallOptions.resolve {} Web.baseOptions).preTransform 1 boundTree := by
  have hanchor : (Module.model.preTransform Web.baseOptions.host 1 boundTree).value.1 =
      some 2 := by
    decide +kernel
  obtain ⟨t', hexpanded⟩ : ∃ t', (Module.model.preTransform Web.baseOptions.host 1
      boundTree).value = (some 2, t') := ⟨_, Prod.ext hanchor rfl⟩
  have hcoherent : boundInput.Coherent := Element.coherent_ofAttributes (by decide) _ _
  have hlong : boundInput.written.nonEmpty? "v-bind:type" = none := by decide
  have helement : boundTree.element? 1 = some boundInput := rfl
  obtain ⟨hagain, htwice⟩ := expansion_happens_once (by decide) helement hcoherent (.inr hlong)
  refine ⟨⟨t', hexpanded, hagain Web.baseOptions 2 t' ?_ hexpanded _⟩,
    htwice Web.baseOptions { modules := [Module.model] } [] [] ?_ ?_ rfl⟩
  · simp [Web.baseOptions, Options.withModules]
  · simp [Web.baseOptions, Options.withModules]
  · simp [Web.baseOptions, Options.withModules]

end Stencil
