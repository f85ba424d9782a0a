import Stencil.Module.Class
import Stencil.Module.Model
import Stencil.Proofs.Tree.Attributes
import Stencil.Proofs.Tree.Update

/-!
# What processing leaves alone

Processing an element takes attributes off its list and fills in the fields that
code is generated from.  All the rest, the `outline` of the element, stays as it
is: its place in the tree and in the source, its written attributes, its loop
and its conditions.

The modules of this library work on one element, so that the transform of a list
of them is that of a function on elements (`transformAll_eq_updateElement`), and
processing an element in a tree is processing the element
(`Tree.processElement_eq_updateElement`).
-/

namespace Stencil

namespace Element

/-- An element without what processing changes. -/
def outline (e : Element) : Element :=
  { e with
    pending := []
    plain := false
    key := none
    reference := none
    staticClass := none
    classBinding := none
    attributes := []
    properties := []
    events := []
    directives := []
    hasBindings := false }

/-- A later state of an element that is still being processed. -/
structure ProcessedTo (e e' : Element) : Prop where
  outline_eq : e'.outline = e.outline
  pending_sublist : e'.pending.Sublist e.pending

namespace ProcessedTo

variable {e e' e'' : Element}

theorem refl (e : Element) : e.ProcessedTo e := ⟨rfl, List.Sublist.refl _⟩

theorem trans (hfirst : e.ProcessedTo e') (hsecond : e'.ProcessedTo e'') : e.ProcessedTo e'' :=
  ⟨hsecond.outline_eq.trans hfirst.outline_eq, hsecond.pending_sublist.trans hfirst.pending_sublist⟩

/-- What can be read off the outline stays as it is. -/
theorem observe {α : Type} (h : e.ProcessedTo e') (f : Element → α)
    (hf : ∀ x : Element, f x.outline = f x) : f e' = f e := by
  rw [← hf e', h.outline_eq, hf e]

theorem lacks {name : String} (h : e.ProcessedTo e') (hlacks : e.Lacks name) : e'.Lacks name where
  not_pending hmem := hlacks.not_pending ((h.pending_sublist.map _).subset hmem)
  not_written := by
    rw [h.observe Element.written fun _ => rfl]
    exact hlacks.not_written

end ProcessedTo

/-! ## Taking attributes -/

theorem processedTo_take (e : Element) (name : String) : e.ProcessedTo (e.take name false).2 :=
  ⟨rfl, pending_take_sublist e name false⟩

theorem processedTo_takeBinding (e : Element) (name : String) (plain : Bool) :
    e.ProcessedTo (e.takeBinding name plain).2 :=
  takeBinding_induction (.refl e) (fun taken htaken form _ =>
    htaken.trans (processedTo_take taken form)) plain

theorem processedTo_processKey (e : Element) : e.ProcessedTo e.processKey := by
  have htake := processedTo_takeBinding e "key" true
  let key := ((e.takeBinding "key" true).1.filter fun key => !key.isEmpty).or
    (e.takeBinding "key" true).2.key
  let keyed := { (e.takeBinding "key" true).2 with
    key, plain := key.isNone && (e.takeBinding "key" true).2.pending.isEmpty }
  have hkeyed : e.ProcessedTo keyed := ⟨htake.outline_eq, htake.pending_sublist⟩
  have hreference := hkeyed.trans (processedTo_takeBinding keyed "ref" true)
  exact ⟨hreference.outline_eq, hreference.pending_sublist⟩

theorem value_takeStaticClass (e : Element) (scope : Scope) :
    (e.takeStaticClass scope).value =
      { (e.take "class" false).2 with
        staticClass := ((e.written.nonEmpty? "class").map Text.quote).or e.staticClass } := by
  have htext : (e.take "class" false).1.filter (fun text => !text.isEmpty) =
      e.written.nonEmpty? "class" := rfl
  simp only [takeStaticClass, htext]
  cases e.written.nonEmpty? "class" with
  | none => rfl
  | some text =>
      dsimp only
      split_ifs <;> rfl

theorem processedTo_takeStaticClass (e : Element) (scope : Scope) :
    e.ProcessedTo (e.takeStaticClass scope).value := by
  rw [value_takeStaticClass]
  have htake := processedTo_take e "class"
  exact ⟨htake.outline_eq, htake.pending_sublist⟩

theorem processedTo_takeClassBinding (e : Element) : e.ProcessedTo e.takeClassBinding := by
  have htake := processedTo_takeBinding e "class" false
  exact ⟨htake.outline_eq, htake.pending_sublist⟩

/-! ## Reading the loop -/

/-- The fields of an element say what its loop is, if it has one. -/
structure HasLoop (e : Element) (loop : Option LoopHeader) : Prop where
  source_eq : e.loopSource = loop.map LoopHeader.source
  item_eq : e.loopItem = loop.map LoopHeader.item
  iterator1_eq : e.iterator1 = loop.bind LoopHeader.iterator1
  iterator2_eq : e.iterator2 = loop.bind LoopHeader.iterator2

theorem ProcessedTo.hasLoop {e e' : Element} {loop : Option LoopHeader} (h : e.ProcessedTo e')
    (hloop : e.HasLoop loop) : e'.HasLoop loop where
  source_eq := (h.observe Element.loopSource fun _ => rfl).trans hloop.source_eq
  item_eq := (h.observe Element.loopItem fun _ => rfl).trans hloop.item_eq
  iterator1_eq := (h.observe Element.iterator1 fun _ => rfl).trans hloop.iterator1_eq
  iterator2_eq := (h.observe Element.iterator2 fun _ => rfl).trans hloop.iterator2_eq

/-- An element without a loop gets the one of its header.  A header that is empty
or cannot be read gives none. -/
theorem hasLoop_processLoop {e : Element} (hnone : e.HasLoop none) :
    e.processLoop.value.HasLoop ((e.written.nonEmpty? "v-for").bind LoopHeader.parse?) := by
  have hheader : (e.take "v-for" false).1.filter (fun header => !header.isEmpty) =
      e.written.nonEmpty? "v-for" := rfl
  simp only [processLoop, hheader]
  cases e.written.nonEmpty? "v-for" with
  | none => exact ⟨hnone.source_eq, hnone.item_eq, hnone.iterator1_eq, hnone.iterator2_eq⟩
  | some header =>
      simp only [Option.bind_some]
      cases LoopHeader.parse? header with
      | none => exact ⟨hnone.source_eq, hnone.item_eq, hnone.iterator1_eq, hnone.iterator2_eq⟩
      | some loop => exact ⟨rfl, rfl, rfl, rfl⟩

/-- Apart from the loop, reading it only takes its header off the list. -/
theorem processLoop_value_eq (e : Element) :
    e.processLoop.value =
      { (e.take "v-for" false).2 with
        loopSource := e.processLoop.value.loopSource
        loopItem := e.processLoop.value.loopItem
        iterator1 := e.processLoop.value.iterator1
        iterator2 := e.processLoop.value.iterator2 } := by
  simp only [processLoop]
  split
  · rfl
  · split <;> rfl

/-! ## Processing attributes -/

theorem value_addPlain (e : Element) (scope : Scope) (a : Attribute) :
    (e.addPlain scope a).value =
      { e with
        attributes := e.attributes ++ [⟨a.name, Text.quote a.value, false, a.span⟩]
        properties :=
          if a.name == "muted" && scope.mustUseProp e.tag (e.written.get? "type") a.name then
            e.properties ++ [⟨a.name, "true", false, a.span⟩]
          else e.properties } := by
  simp only [addPlain]
  split_ifs <;> rfl

theorem processedTo_addPlain (e : Element) (scope : Scope) (a : Attribute) :
    e.ProcessedTo (e.addPlain scope a).value := by
  rw [value_addPlain]
  exact ⟨rfl, List.Sublist.refl _⟩

theorem processedTo_addBound (e : Element) (scope : Scope) (a : Attribute) (name : String)
    (dynamic : Bool) (modifiers : List String) :
    e.ProcessedTo (e.addBound scope a name dynamic modifiers) := by
  simp only [addBound]
  split_ifs
  · exact ⟨rfl, List.Sublist.refl _⟩
  · exact ⟨rfl, List.Sublist.refl _⟩

theorem processedTo_processAttribute (e : Element) (scope : Scope) (a : Attribute) :
    e.ProcessedTo (e.processAttribute scope a).value := by
  unfold processAttribute
  split
  · exact processedTo_addPlain e scope a
  · exact ⟨(processedTo_addBound { e with hasBindings := true } scope a _ _ _).outline_eq,
      (processedTo_addBound { e with hasBindings := true } scope a _ _ _).pending_sublist⟩
  · exact ⟨rfl, List.Sublist.refl _⟩
  · exact ⟨rfl, List.Sublist.refl _⟩

theorem processedTo_foldlM {step : Element → Attribute → Reported Element}
    (hstep : ∀ (e : Element) (a : Attribute), e.ProcessedTo (step e a).value)
    (attributes : List Attribute) (e : Element) :
    e.ProcessedTo (attributes.foldlM step e).value := by
  induction attributes generalizing e with
  | nil => exact .refl e
  | cons a attributes ih => exact (hstep e a).trans (ih _)

theorem processedTo_processAttributes (e : Element) (scope : Scope) :
    e.ProcessedTo (e.processAttributes scope).value :=
  processedTo_foldlM (fun e a => processedTo_processAttribute e scope a) e.pending e

/-! ## Modules work on one element -/

/-- Moves the classes of an element, once for each module that does so. -/
def moveClasses (scope : Scope) : Nat → Element → Reported Element
  | 0, e => pure e
  | n + 1, e => do
    let e ← e.takeStaticClass scope
    e.takeClassBinding.moveClasses scope n

theorem processedTo_moveClasses (scope : Scope) (n : Nat) (e : Element) :
    e.ProcessedTo (e.moveClasses scope n).value := by
  induction n generalizing e with
  | zero => exact .refl e
  | succ n ih =>
      exact ((processedTo_takeStaticClass e scope).trans (processedTo_takeClassBinding _)).trans
        (ih _)

end Element

/-- The modules move classes as often as the module that does so is among them. -/
theorem Module.exists_transformAll_eq {modules : List Module}
    (hmodules : ∀ m ∈ modules, m = Module.classes ∨ m = Module.model) (scope : Scope) :
    ∃ n, (Module.classes ∉ modules → n = 0) ∧ (modules.Nodup → n ≤ 1) ∧
      ∀ id t, Module.transformAll modules scope id t =
        t.updateElement id (Element.moveClasses scope n) := by
  induction modules with
  | nil =>
      exact ⟨0, fun _ => rfl, fun _ => Nat.zero_le 1, fun id t => (t.updateElement_pure id).symm⟩
  | cons m modules ih =>
      obtain ⟨hm, hmodules⟩ := List.forall_mem_cons.mp hmodules
      obtain ⟨n, hnone, honce, hn⟩ := ih hmodules
      have hcons : ∀ id t, Module.transformAll (m :: modules) scope id t =
          (m.transform scope id t >>= fun t => Module.transformAll modules scope id t) :=
        fun id t => List.foldlM_cons
      rcases hm with rfl | rfl
      · refine ⟨n + 1, fun hmem => absurd List.mem_cons_self hmem, fun hnodup => ?_, fun id t => ?_⟩
        · exact Nat.le_of_eq (congrArg (· + 1) (hnone (List.nodup_cons.mp hnodup).1))
        · rw [hcons]
          simp only [hn, Module.classes, Tree.updateElement_updateElement, bind_assoc, pure_bind]
          rfl
      · refine ⟨n, fun hmem => hnone (List.not_mem_of_not_mem_cons hmem),
          fun hnodup => honce (List.nodup_cons.mp hnodup).2, fun id t => ?_⟩
        rw [hcons]
        simp only [hn, Module.model, pure_bind]

theorem Module.transformAll_eq_updateElement {modules : List Module}
    (hmodules : ∀ m ∈ modules, m = Module.classes ∨ m = Module.model) (scope : Scope) :
    ∃ n, ∀ id t, Module.transformAll modules scope id t =
      t.updateElement id (Element.moveClasses scope n) := by
  obtain ⟨n, -, -, hn⟩ := Module.exists_transformAll_eq hmodules scope
  exact ⟨n, hn⟩

/-- Processes an element whose modules make a given change. -/
def Element.process (scope : Scope) (transform : Element → Reported Element) (e : Element) :
    Reported Element := do
  let e ← transform e.processKey
  e.processAttributes scope

theorem Element.processedTo_process {scope : Scope} {transform : Element → Reported Element}
    (htransform : ∀ e, ProcessedTo e (transform e).value) (e : Element) :
    e.ProcessedTo (e.process scope transform).value :=
  ((processedTo_processKey e).trans (htransform _)).trans (processedTo_processAttributes _ scope)

theorem Element.processedTo_process_moveClasses (scope : Scope) (n : Nat) (e : Element) :
    e.ProcessedTo (e.process scope (moveClasses scope n)).value :=
  processedTo_process (processedTo_moveClasses scope n) e

/-- If the modules change one element, so does processing. -/
theorem Tree.processElement_eq_updateElement {host : Host} {transform : Element → Reported Element}
    (hhost : ∀ id t, host.transform id t = t.updateElement id transform) (t : Tree) (id : NodeId) :
    t.processElement host id = t.updateElement id (Element.process host.toScope transform) := by
  cases helement : t.element? id with
  | none => simp only [processElement, updateElement, helement]
  | some e =>
      simp only [processElement, helement, hhost, updateElement_updateElement]
      rw [updateElement_of_element? (element?_modifyElement helement _),
        updateElement_of_element? helement]
      simp only [modifyElement_modifyElement]
      rfl

end Stencil
