import Stencil.Proofs.Module.Expansion
import Stencil.Proofs.Validation.PreOrder
import Stencil.Web

/-!
# What the validator sees of an expanded model

The first input of a chain stands for the input that was expanded, and the walk
of the validator does not go on to the others, which are no children.  So the
validator sees the attributes that the first input still has.  An expansion moves
some away (`Element.movedNames`): the conditions, and the attribute that binds the
type.  They live on in the conditions and in the last input of the chain, where
nothing checks them.

`Element.reportsFor` attributes the reports of an element to its attributes.  The
first input makes the reports of the whole input for all attributes that were not
moved, and none for the others (`reportsFor_startChain`); hence an expansion hides
a problem exactly if an attribute that it moves has one.
-/

namespace Stencil

/-! ## Reports by attribute -/

namespace Element

variable {e x y : Element} {checker : Checker} {name : String}

/-- The reports that an element makes for one of its attributes. -/
def reportsFor (checker : Checker) (e : Element) (name : String) : List Report :=
  match e.written.nonEmpty? name with
  | some value =>
    (e.attributeProblems checker name value).map (Problem.errorAt (e.recordedSpan name))
  | none => []

theorem reportsFor_of_nonEmpty? (hname : e.written.nonEmpty? name = none) :
    e.reportsFor checker name = [] := by
  rw [reportsFor, hname]

theorem reportsFor_of_not_isDirective (hname : isDirective name = false) :
    e.reportsFor checker name = [] := by
  unfold reportsFor attributeProblems
  cases e.written.nonEmpty? name with
  | none => rfl
  | some value => simp [hname]

/-- An element makes the reports for its attributes, one attribute after another. -/
theorem ownReports_eq_flatMap (hnodup : e.written.names.Nodup) :
    e.ownReports checker = e.written.names.flatMap (e.reportsFor checker) := by
  unfold ownReports Dict.names
  rw [List.flatMap_map]
  refine List.flatMap_congr fun entry hentry => ?_
  obtain ⟨name, value⟩ := entry
  have hvalue : e.written.get? name = some value := Dict.lookup_of_mem hnodup hentry
  unfold reportsFor Dict.nonEmpty?
  rw [hvalue]
  by_cases hempty : value = ""
  · subst hempty
    have hproblems : e.attributeProblems checker name "" = [] := by simp [attributeProblems]
    simp only [hproblems]
    rfl
  · have hfilter : (some value).filter (fun value => !value.isEmpty) = some value := by
      simp [Option.filter, hempty]
    rw [hfilter]

/-- The problems of an attribute depend on its text and on the loop. -/
theorem attributeProblems_congr {loop : Option LoopHeader} (hx : x.HasLoop loop)
    (hy : y.HasLoop loop) (value : String) :
    x.attributeProblems checker name value = y.attributeProblems checker name value := by
  simp only [attributeProblems, hx.source_eq, hx.item_eq, hx.iterator1_eq, hx.iterator2_eq,
    hy.source_eq, hy.item_eq, hy.iterator1_eq, hy.iterator2_eq]

theorem reportsFor_congr {loop : Option LoopHeader} (hx : x.HasLoop loop) (hy : y.HasLoop loop)
    (hsources : x.sources = y.sources)
    (hwritten : x.written.nonEmpty? name = y.written.nonEmpty? name) :
    x.reportsFor checker name = y.reportsFor checker name := by
  unfold reportsFor recordedSpan
  rw [hwritten, hsources]
  cases y.written.nonEmpty? name with
  | none => rfl
  | some value => simp only [attributeProblems_congr hx hy]

end Element

/-- The validator makes the reports of a root without children. -/
theorem Tree.reports?_setRoot {t : Tree} {id : NodeId} {e : Element} (checker : Checker)
    (helement : t.element? id = some e) (hchildren : e.children = [])
    (hnodup : e.written.names.Nodup) :
    (t.setRoot id).reports? checker = some (e.written.names.flatMap (e.reportsFor checker)) := by
  have hchecks : (t.setRoot id).checks? = some e.checks := by
    have hnode : (t.setRoot id).get? id = some (.element e) := element?_eq_some_iff.mp helement
    simp only [checks?, setRoot, checksAt?]
    rw [show ({ t with root := some id } : Tree).get? id = _ from hnode]
    simp only [hchildren, List.mapM_nil, Option.pure_def, Option.bind_eq_bind, Option.bind_some,
      List.flatten_nil, List.append_nil]
  rw [← Element.ownReports_eq_flatMap hnodup, ← Element.reportAll_checks, reports?, diagnostics?,
    hchecks]
  rfl

/-! ## Inputs that nothing was taken from -/

namespace Element

variable {e source : Element} {checker : Checker} {name : String}

/-- As a new element with distinct attribute names: all written attributes are
pending, there is no loop yet, and there are no children. -/
structure IsUntouched (e : Element) : Prop where
  nodup : (e.pending.map Attribute.name).Nodup
  written_eq : e.written.entries = e.pending.map fun a => (a.name, a.value)
  hasLoop : e.HasLoop none
  children_eq : e.children = []

theorem isUntouched_ofAttributes {attributes : List Attribute}
    (hnodup : (attributes.map Attribute.name).Nodup) (tag : String) (parent : Option NodeId) :
    (ofAttributes tag attributes parent).IsUntouched where
  nodup := hnodup
  written_eq := by
    change (Dict.ofList (attributes.map fun a => (a.name, a.value))).entries = _
    rw [Dict.ofList, Dict.insertAll_of_nodup]
    · rfl
    · rw [List.map_map]
      exact hnodup
  hasLoop := ⟨rfl, rfl, rfl, rfl⟩
  children_eq := rfl

namespace IsUntouched

theorem nodup_names (h : e.IsUntouched) : e.written.names.Nodup := by
  rw [Dict.names, h.written_eq, List.map_map]
  exact h.nodup

theorem get?_written (h : e.IsUntouched) (name : String) :
    e.written.get? name = e.pendingText? name := by
  rw [Dict.get?, h.written_eq]
  rfl

theorem nonEmpty?_written (h : e.IsUntouched) (name : String) :
    e.written.nonEmpty? name = (e.pendingText? name).filter fun value => !value.isEmpty := by
  rw [Dict.nonEmpty?, h.get?_written]

theorem coherent (h : e.IsUntouched) : e.Coherent where
  nodup := h.nodup
  get?_written a ha := by
    have hpair : (a.name, a.value) ∈ e.written.entries := by
      rw [h.written_eq]
      exact List.mem_map_of_mem ha
    exact Dict.lookup_of_mem h.nodup_names hpair

end IsUntouched

/-! ## What is left of the input -/

theorem pendingText?_eq_none_iff :
    e.pendingText? name = none ↔ name ∉ e.pending.map Attribute.name := by
  have hnames := @Dict.get?_eq_none_iff _ ⟨e.pending.map fun a => (a.name, a.value)⟩ name
  rw [Dict.names, List.map_map] at hnames
  exact hnames

theorem Coherent.pendingText?_take (hcoherent : e.Coherent) (taken : String) (forget : Bool) :
    (e.take taken forget).2.pendingText? name =
      if name = taken then none else e.pendingText? name := by
  split_ifs with hname
  · subst hname
    exact pendingText?_eq_none_iff.mpr (hcoherent.not_mem_pending_take name forget)
  · exact pendingText?_take_of_ne hname forget

theorem Coherent.pendingText?_takeConditions (hcoherent : e.Coherent) (name : String) :
    e.takeConditions.2.pendingText? name =
      if name ∈ ["v-if", "v-else", "v-else-if"] then none else e.pendingText? name := by
  have hif := hcoherent.take "v-if" true
  have helse := hif.take "v-else" true
  change (((e.take "v-if" true).2.take "v-else" true).2.take "v-else-if" true).2.pendingText? name =
    _
  rw [helse.pendingText?_take, hif.pendingText?_take, hcoherent.pendingText?_take]
  simp only [List.mem_cons, List.not_mem_nil, or_false]
  split_ifs <;> simp_all

/-- The name of the attribute that binds the type: the short form wins unless it
is empty. -/
def typeName (e : Element) : String :=
  if (e.written.nonEmpty? ":type").isSome then ":type" else "v-bind:type"

/-- The names of the attributes that an expansion moves out of an input. -/
def movedNames (e : Element) : List String :=
  ["v-if", "v-else", "v-else-if", e.typeName]

/-- Finding the type takes the attribute that binds it.  It may take another one
too, but only an empty one. -/
theorem IsUntouched.pendingText?_takeTypeBinding (h : e.IsUntouched) (name : String) :
    (e.takeTypeBinding.2.pendingText? name).filter (fun value => !value.isEmpty) =
      if name = e.typeName then none else e.written.nonEmpty? name := by
  have hcoherent := h.coherent
  rw [takeTypeBinding_snd, typeName, h.nonEmpty?_written name]
  split_ifs with hshort htype hlong htype htype
  · rw [hcoherent.pendingText?_take, if_pos htype]
    rfl
  · rw [hcoherent.pendingText?_take, if_neg htype]
  · rw [(hcoherent.take ":type" false).pendingText?_take, if_pos htype]
    rfl
  · rw [(hcoherent.take ":type" false).pendingText?_take, if_neg htype,
      hcoherent.pendingText?_take]
    split_ifs with hname
    · rw [hname, ← h.nonEmpty?_written, Option.not_isSome_iff_eq_none.mp hshort]
      rfl
    · rfl
  · rw [htype, ← h.nonEmpty?_written, Option.not_isSome_iff_eq_none.mp hlong]
  · rfl

/-- The rest of an input has lost the attributes that were moved, and says the
same as before in all others. -/
theorem IsUntouched.pendingText?_remainder (h : e.IsUntouched) (name : String) :
    (e.takeTypeBinding.2.takeConditions.2.pendingText? name).filter
        (fun value => !value.isEmpty) =
      if name ∈ e.movedNames then none else e.written.nonEmpty? name := by
  rw [h.coherent.takeTypeBinding.pendingText?_takeConditions]
  by_cases hcondition : name ∈ ["v-if", "v-else", "v-else-if"]
  · have hmoved : name ∈ e.movedNames := List.mem_append_left [e.typeName] hcondition
    rw [if_pos hcondition, if_pos hmoved]
    rfl
  · have hmoved : name ∈ e.movedNames ↔ name = e.typeName := by
      change name ∈ ["v-if", "v-else", "v-else-if"] ++ [e.typeName] ↔ _
      rw [List.mem_append, List.mem_singleton, or_iff_right hcondition]
    rw [if_neg hcondition, h.pendingText?_takeTypeBinding]
    simp only [hmoved]

/-! ## What the first input has -/

variable {process : Element → Reported Element}

theorem nodup_names_loopBranch (hprocess : ∀ x, ProcessedTo x (process x).value)
    (source : Element) : (source.loopBranch process).value.written.names.Nodup := by
  rw [written_loopBranch hprocess]
  exact Dict.nodup_insertEntry (Dict.nodup_names_ofList _)

/-- The first input makes the reports of the whole input for all attributes but
those that were moved. -/
theorem reportsFor_startChain (checker : Checker)
    (hprocess : ∀ x, ProcessedTo x (process x).value) (h : e.IsUntouched) (code : String)
    (chain : ChainConditions) (first second third : NodeId) (name : String) :
    ((e.takeTypeBinding.2.takeConditions.2.loopBranch process).value.startChain code chain
        first second third).reportsFor checker name =
      if name ∈ e.movedNames then [] else e.processLoop.value.reportsFor checker name := by
  have hsource := isRemainder_takeConditions h.coherent
  have htext := h.pendingText?_remainder name
  generalize e.takeTypeBinding.2.takeConditions.2 = source at hsource htext
  cases hdirective : isDirective name with
  | false => simp only [reportsFor_of_not_isDirective hdirective, ite_self]
  | true =>
      have hname : name ≠ "type" := by
        rintro rfl
        exact absurd hdirective (by decide)
      have hwritten : (source.loopBranch process).value.written.nonEmpty? name =
          if name ∈ e.movedNames then none else e.written.nonEmpty? name := by
        rw [Dict.nonEmpty?, get?_written_loopBranch hprocess hsource.nodup hname, htext]
      have hloop := hasLoop_processLoop h.hasLoop
      have hlooped : e.processLoop.value.written = e.written := by
        rw [processLoop_value_eq]
        rfl
      have hsources : e.processLoop.value.sources = e.sources := by
        rw [processLoop_value_eq]
        rfl
      split_ifs at hwritten ⊢ with hmoved
      · exact reportsFor_of_nonEmpty? hwritten
      · have hbranch := hasLoop_loopBranch hprocess hsource
        rw [pendingLoop?, ← h.nonEmpty?_written] at hbranch
        refine reportsFor_congr ⟨hbranch.source_eq, hbranch.item_eq, hbranch.iterator1_eq,
          hbranch.iterator2_eq⟩ hloop ?_ ?_
        · rw [hsources]
          exact (isBranchOf_loopBranch hprocess hsource).sources_eq
        · rw [hlooped]
          exact hwritten

end Element

/-! ## The tree after an expansion -/

/-- What stands for an expanded input is the first branch of its rest. -/
theorem Module.element?_of_preTransform_model {t t' : Tree} {id a : NodeId} {e : Element}
    {o : Options} (hroom : t.nodes.length + 3 ≤ UInt32.size) (helement : t.element? id = some e)
    (hmodules : ∀ m ∈ o.modules, m = Module.classes ∨ m = Module.model)
    (hexpanded : (Module.model.preTransform o.host id t).value = (some a, t')) :
    ∃ process : Element → Reported Element, (∀ x, Element.ProcessedTo x (process x).value) ∧
      ∃ code chain second third, t'.element? a =
        some ((e.takeTypeBinding.2.takeConditions.2.loopBranch process).value.startChain code chain
          a second third) := by
  obtain ⟨n, code, second, third, -, hfirst, -⟩ :=
    Module.branches_of_preTransform_model hroom helement hmodules hexpanded
  exact ⟨Element.process o.toScope (Element.moveClasses o.toScope n),
    Element.processedTo_process_moveClasses o.toScope n, code, _, second, third, hfirst⟩

/-- **An expansion hides the problems of the attributes that it moves, and no
other ones.**  Let an input that nothing was taken from be expanded by the modules
of this library, in a tree with room for three more nodes, and compare what the
validator reports of the whole input, once its loop is read, with what it reports
of the input that stands for it.  For the conditions `v-if`, `v-else` and
`v-else-if` and for the attribute that binds the type it reports nothing any more;
for every other attribute it makes the same reports.  So each problem is still
reported for its attribute, under the same code, if and only if no attribute that
is moved has one. -/
theorem expansion_keeps_reports_iff {t t' : Tree} {id a : NodeId} {e : Element} {o : Options}
    (checker : Checker) (hroom : t.nodes.length + 3 ≤ UInt32.size)
    (helement : t.element? id = some e) (huntouched : e.IsUntouched)
    (hmodules : ∀ m ∈ o.modules, m = Module.classes ∨ m = Module.model)
    (hexpanded : (Module.model.preTransform o.host id t).value = (some a, t')) :
    ∃ whole first : Element,
      (t.processLoop id).value.element? id = some whole ∧ t'.element? a = some first ∧
      ((t.processLoop id).value.setRoot id).reports? checker =
        some (whole.written.names.flatMap (whole.reportsFor checker)) ∧
      (t'.setRoot a).reports? checker =
        some (first.written.names.flatMap (first.reportsFor checker)) ∧
      (∀ name, first.reportsFor checker name =
        if name ∈ e.movedNames then [] else whole.reportsFor checker name) ∧
      ((∀ name, ∀ r ∈ whole.reportsFor checker name,
          ∃ r' ∈ first.reportsFor checker name, r'.diagnostic.code = r.diagnostic.code) ↔
        ∀ name ∈ e.movedNames, whole.reportsFor checker name = []) := by
  obtain ⟨process, hprocess, code, chain, second, third, hfirst⟩ :=
    Module.element?_of_preTransform_model hroom helement hmodules hexpanded
  have hsource := Element.isRemainder_takeConditions huntouched.coherent
  have hreports := Element.reportsFor_startChain checker hprocess huntouched code chain a second
    third
  have hwhole : (t.processLoop id).value.element? id = some e.processLoop.value := by
    rw [Tree.processLoop, Tree.updateElement_of_element? helement]
    exact Tree.element?_modifyElement helement _
  have hlooped : e.processLoop.value.children = [] ∧ e.processLoop.value.written.names.Nodup := by
    rw [Element.processLoop_value_eq]
    exact ⟨huntouched.children_eq, huntouched.nodup_names⟩
  refine ⟨_, _, hwhole, hfirst, Tree.reports?_setRoot checker hwhole hlooped.1 hlooped.2,
    Tree.reports?_setRoot checker hfirst
      (Element.isBranchOf_loopBranch hprocess hsource).children_eq
      (Element.nodup_names_loopBranch hprocess _), hreports, ?_⟩
  constructor
  · intro hkept name hmoved
    rw [List.eq_nil_iff_forall_not_mem]
    intro r hr
    obtain ⟨r', hr', -⟩ := hkept name r hr
    rw [hreports, if_pos hmoved] at hr'
    exact List.not_mem_nil hr'
  · intro hclean name r hr
    refine ⟨r, ?_, rfl⟩
    rw [hreports]
    split_ifs with hmoved
    · rw [hclean name hmoved] at hr
      exact hr
    · exact hr

/-- An input whose type and condition do not compile. -/
def brokenInput : Element :=
  Element.ofAttributes "input"
    [⟨"v-model", "m", none⟩, ⟨":type", "b +", none⟩, ⟨"v-if", "a +", none⟩] none

/-- A tree that holds only this input. -/
def brokenTree : Tree where
  nodes := [.element brokenInput]

theorem expansion_keeps_reports_iff_brokenTree :
    ∃ (t' : Tree) (whole first : Element),
      (Module.model.preTransform Web.baseOptions.host 0 brokenTree).value = (some 1, t') ∧
      (brokenTree.processLoop 0).value.element? 0 = some whole ∧ t'.element? 1 = some first ∧
      first.reportsFor .refusing "v-model" = whole.reportsFor .refusing "v-model" ∧
      first.reportsFor .refusing ":type" = [] ∧ first.reportsFor .refusing "v-if" = [] := by
  have hanchor : (Module.model.preTransform Web.baseOptions.host 0 brokenTree).value.1 = some 1 := by
    decide +kernel
  have huntouched : brokenInput.IsUntouched := Element.isUntouched_ofAttributes (by decide) _ _
  have hmoved : brokenInput.movedNames = ["v-if", "v-else", "v-else-if", ":type"] := by decide
  obtain ⟨whole, first, hwhole, hfirst, -, -, hreports, -⟩ := expansion_keeps_reports_iff
    (t := brokenTree) (o := Web.baseOptions) .refusing (by decide) rfl huntouched
    (by simp [Web.baseOptions, Options.withModules]) (Prod.ext hanchor rfl)
  rw [hmoved] at hreports
  exact ⟨_, whole, first, Prod.ext hanchor rfl, hwhole, hfirst, hreports "v-model",
    hreports ":type", hreports "v-if"⟩

theorem expansion_hides_type_and_condition :
    ((brokenTree.processLoop 0).value.setRoot 0).reports? .ecma =
        some [Problem.errorAt none
            (.invalidExpression "Expression expected" "b +" ":type=\"b +\""),
          Problem.errorAt none
            (.invalidExpression "Expression expected" "a +" "v-if=\"a +\"")] ∧
      (Module.model.preTransform Web.baseOptions.host 0 brokenTree).value.1 = some 1 ∧
      ((Module.model.preTransform Web.baseOptions.host 0 brokenTree).value.2.setRoot 1).reports?
        .ecma = some [] := by
  decide +kernel

end Stencil
