import Stencil.Proofs.Module.Expansion
import Stencil.Proofs.TypeBindings
import Stencil.Web

/-!
# What the branches of a chain bind

The three inputs of a chain are copies of what is left of one input.  Each copy
gets an attribute of its own that names the type, and is then processed.  So the
copies differ only in what names the type (`Element.IsPrepared.alike`), and

* they bind the same things under all other names (`branches_bind_alike`), while
* each of them has just its own type if and only if the input named its type in no
  other way than the one that was taken off it (`branches_have_one_type_iff`).
-/

namespace Stencil

open Text

namespace Element

variable {e x y source : Element} {added other : Attribute} {scope : Scope}

/-! ## Copies that are ready to be processed -/

/-- A copy of the rest of an input whose loop was taken and that got one attribute
of its own. -/
structure IsPrepared (x source : Element) (added : Attribute) : Prop where
  eq : x = { source.copy with
    pending := (source.copy.take "v-for" false).2.pending ++ [added]
    written := x.written
    loopSource := x.loopSource
    loopItem := x.loopItem
    iterator1 := x.iterator1
    iterator2 := x.iterator2 }
  get?_written : ∀ name ≠ "v-for",
    x.written.get? name = (source.copy.written.insert added.name added.value).get? name

theorem isPrepared_processLoop (source : Element) (name value : String) :
    (source.copy.processLoop.value.addAttribute name value).IsPrepared source
      ⟨name, value, none⟩ := by
  rw [processLoop_value_eq]
  exact ⟨rfl, fun _ _ => rfl⟩

theorem isPrepared_take (source : Element) (name value : String) :
    ((source.copy.take "v-for" true).2.addAttribute name value).IsPrepared source
      ⟨name, value, none⟩ := by
  refine ⟨rfl, fun other hother => ?_⟩
  change ((source.copy.written.erase "v-for").insert name value).get? other =
    (source.copy.written.insert name value).get? other
  rw [Dict.get?_insert, Dict.get?_insert, Dict.get?_erase_of_ne _ hother]

namespace IsPrepared

/-- Copies that got attributes that name the type are alike. -/
theorem alike (hx : x.IsPrepared source added) (hy : y.IsPrepared source other)
    (hadded : Attribute.namesType added.name = true)
    (hother : Attribute.namesType other.name = true) : x.Alike y where
  key_eq := by rw [hx.eq, hy.eq]
  reference_eq := by rw [hx.eq, hy.eq]
  staticClass_eq := by rw [hx.eq, hy.eq]
  classBinding_eq := by rw [hx.eq, hy.eq]
  events_eq := by rw [hx.eq, hy.eq]
  directives_eq := by rw [hx.eq, hy.eq]
  attributes_eq := by rw [hx.eq, hy.eq]
  properties_eq := by rw [hx.eq, hy.eq]
  pending_eq := by
    rw [hx.eq, hy.eq]
    simp [List.filter_append, hadded, hother]
  get?_written name hname form hform := by
    have hforms : ∀ name ∈ ["key", "ref", "class"], ∀ form ∈ Attribute.forms name,
        form ≠ "v-for" ∧ Attribute.namesType form = false := by decide
    obtain ⟨hloop, hplain⟩ := hforms name hname form hform
    have hne : ∀ {a : Attribute}, Attribute.namesType a.name = true → form ≠ a.name := by
      rintro a ha rfl
      exact Bool.false_ne_true (hplain.symm.trans ha)
    rw [hx.get?_written form hloop, hy.get?_written form hloop,
      Dict.get?_insert_of_ne _ (hne hadded), Dict.get?_insert_of_ne _ (hne hother)]

/-- On a web page a type decides what has to be a property only if it is `button`. -/
theorem isProp_eq (hx : x.IsPrepared source added) (hscope : scope.mustUseProp = Web.mustUseProp)
    (hbutton : x.written.get? "type" ≠ some "button") :
    x.isProp scope = Web.mustUseProp source.tag none := by
  have htag : x.tag = source.tag := by
    rw [hx.eq]
    rfl
  funext name
  rw [isProp, hscope, htag]
  unfold Web.mustUseProp
  split
  · rw [bne_iff_ne.mpr hbutton]
    rfl
  all_goals rfl

theorem isProp_plainType {value : String} (hx : x.IsPrepared source ⟨"type", value, none⟩)
    (hscope : scope.mustUseProp = Web.mustUseProp) (hvalue : value ≠ "button") :
    x.isProp scope = Web.mustUseProp source.tag none := by
  apply hx.isProp_eq hscope
  rw [hx.get?_written "type" (by decide), Dict.get?_insert_self]
  exact fun heq => hvalue (Option.some.inj heq)

theorem isProp_boundType {code : String} (hx : x.IsPrepared source ⟨":type", code, none⟩)
    (hscope : scope.mustUseProp = Web.mustUseProp)
    (hplain : "type" ∉ source.pending.map Attribute.name) :
    x.isProp scope = Web.mustUseProp source.tag none := by
  have hnone : source.copy.written.get? "type" = none :=
    Dict.get?_eq_none_iff.mpr
      (lacks_ofAttributes hplain source.tag source.parent).not_written
  apply hx.isProp_eq hscope
  rw [hx.get?_written "type" (by decide), Dict.get?_insert_of_ne _ (by simp), hnone]
  exact (Option.some_ne_none _).symm

/-- A copy has just the type that it was given exactly if nothing else names a
type. -/
theorem typeBindings_process_iff (hx : x.IsPrepared source added)
    (hadded : Attribute.namesType added.name = true) (scope : Scope) (n : Nat) :
    (x.process scope (moveClasses scope n)).value.typeBindings =
        (added.entries (x.isProp scope)).attributes ++ (added.entries (x.isProp scope)).properties ↔
      ∀ a ∈ (source.copy.take "v-for" false).2.pending, Attribute.namesType a.name = false :=
  Element.typeBindings_process_iff (by rw [hx.eq]; rfl) (by rw [hx.eq]; rfl)
    (by rw [hx.eq]) hadded scope n

end IsPrepared

/-! ## The types of the three branches -/

theorem filter_namesType_take {name : String} (hname : Attribute.namesType name = false)
    (e : Element) (forget : Bool) :
    (e.take name forget).2.pending.filter (fun a => Attribute.namesType a.name) =
      e.pending.filter fun a => Attribute.namesType a.name := by
  simp only [take]
  split_ifs
  · rw [Attribute.filter_eraseP_name, if_neg (by simp [hname])]
  · rfl

/-- Neither the conditions nor the loop name the type. -/
theorem filter_namesType_remainder (e : Element) :
    (e.takeConditions.2.copy.take "v-for" false).2.pending.filter
        (fun a => Attribute.namesType a.name) =
      e.pending.filter fun a => Attribute.namesType a.name := by
  have hfor : Attribute.namesType "v-for" = false := by decide
  have hcopy : e.takeConditions.2.copy.pending =
      (((e.take "v-if" true).2.take "v-else" true).2.take "v-else-if" true).2.pending := rfl
  rw [filter_namesType_take hfor, hcopy, filter_namesType_take (by decide),
    filter_namesType_take (by decide), filter_namesType_take (by decide)]

/-- The pending attributes that name the type are the bound forms that an expansion
takes. -/
def NamesNoOtherType (e : Element) : Prop :=
  ∀ a ∈ e.pending, Attribute.namesType a.name = true → a.name ∈ e.typeForms

instance (e : Element) : Decidable e.NamesNoOtherType :=
  inferInstanceAs (Decidable (∀ a ∈ e.pending, Attribute.namesType a.name = true →
    a.name ∈ e.typeForms))

/-- What is left of such an input names no type. -/
theorem Coherent.namesNoOtherType_iff (hcoherent : e.Coherent) :
    e.NamesNoOtherType ↔
      ∀ a ∈ (e.takeTypeBinding.2.takeConditions.2.copy.take "v-for" false).2.pending,
        Attribute.namesType a.name = false := by
  have hpending : e.takeTypeBinding.2.pending = e.pending.filter fun a => a.name ∉ e.typeForms := by
    rw [takeTypeBinding_eq_dropFirst, Attribute.dropFirst_of_nodup hcoherent.nodup]
  have hmem : ∀ a,
      (a ∈ (e.takeTypeBinding.2.takeConditions.2.copy.take "v-for" false).2.pending ∧
        Attribute.namesType a.name = true) ↔
      (a ∈ e.pending ∧ a.name ∉ e.typeForms) ∧ Attribute.namesType a.name = true := by
    intro a
    have heq := congrArg (a ∈ ·) e.takeTypeBinding.2.filter_namesType_remainder
    simpa only [hpending, List.mem_filter, decide_eq_true_eq, eq_iff_iff] using heq
  constructor
  · intro hnone a ha
    by_contra hname
    rw [Bool.not_eq_false] at hname
    obtain ⟨⟨ha, hother⟩, -⟩ := (hmem a).mp ⟨ha, hname⟩
    exact hother (hnone a ha hname)
  · intro hnone a ha hname
    by_contra hother
    have hleft := ((hmem a).mpr ⟨⟨ha, hother⟩, hname⟩).1
    rw [hnone a hleft] at hname
    exact Bool.false_ne_true hname

theorem entries_plainType (value : String) (isProp : String → Bool) :
    ((⟨"type", value, none⟩ : Attribute).entries isProp).attributes ++
      ((⟨"type", value, none⟩ : Attribute).entries isProp).properties =
        [⟨"type", quote value, false, none⟩] := by
  have hkind : AttributeKind.ofName "type" = .plain := by decide
  simp [Attribute.entries, hkind]

theorem entries_boundType (code : String) (isProp : String → Bool) :
    ((⟨":type", code, none⟩ : Attribute).entries isProp).attributes ++
      ((⟨":type", code, none⟩ : Attribute).entries isProp).properties =
        [⟨"type", Filter.compile code, false, none⟩] := by
  have hkind : AttributeKind.ofName ":type" = .bound "type" false [] := by decide
  simp only [Attribute.entries, hkind]
  split_ifs
  · rfl
  · rfl

end Element

/-- **Each branch has just its own type exactly if nothing else names one.**  Let an
input with coherent attributes be expanded by the modules of this library, in a tree
with room for three more nodes.  The only thing called `type` among the attributes
and properties of the first branch is the literal `checkbox`, in the second one the
literal `radio`, and in the third one the code that the conditions test, each if and
only if no attribute of the input names the type but those that the expansion takes
off it. -/
theorem branches_have_one_type_iff {t t' : Tree} {id a : NodeId} {e : Element} {o : Options}
    (hroom : t.nodes.length + 3 ≤ UInt32.size) (helement : t.element? id = some e)
    (hcoherent : e.Coherent)
    (hmodules : ∀ m ∈ o.modules, m = Module.classes ∨ m = Module.model)
    (hexpanded : (Module.model.preTransform o.host id t).value = (some a, t')) :
    ∃ (code : String) (b c : NodeId) (first second third : Element),
      e.resolvedType? = some code ∧ first.StartsChain e code a b c ∧
      t'.element? a = some first ∧ t'.element? b = some second ∧ t'.element? c = some third ∧
      (first.typeBindings = [⟨"type", quote "checkbox", false, none⟩] ↔ e.NamesNoOtherType) ∧
      (second.typeBindings = [⟨"type", quote "radio", false, none⟩] ↔ e.NamesNoOtherType) ∧
      (third.typeBindings = [⟨"type", Filter.compile code, false, none⟩] ↔
        e.NamesNoOtherType) := by
  obtain ⟨n, code, b, c, hcode, hfirst, hsecond, hthird⟩ :=
    Module.branches_of_preTransform_model hroom helement hmodules hexpanded
  have hprocess := Element.processedTo_process_moveClasses o.toScope n
  have hsource := Element.isRemainder_takeConditions hcoherent
  have hiff := hcoherent.namesNoOtherType_iff
  generalize e.takeTypeBinding.2.takeConditions.2 = source at hsource hiff hfirst hsecond hthird
  refine ⟨code, b, c, _, _, _, hcode, Element.startsChain_loopBranch hprocess hsource code a b c,
    hfirst, hsecond, hthird, ?_, ?_, ?_⟩
  · have hx := source.isPrepared_processLoop "type" "checkbox"
    rw [hiff, ← hx.typeBindings_process_iff (by decide) o.toScope n, Element.entries_plainType]
    rfl
  · have hx := source.isPrepared_take "type" "radio"
    rw [hiff, ← hx.typeBindings_process_iff (by decide) o.toScope n, Element.entries_plainType]
    rfl
  · have hx := source.isPrepared_take ":type" code
    have htype : Attribute.namesType ":type" = true := by decide
    rw [hiff, ← hx.typeBindings_process_iff htype o.toScope n, Element.entries_boundType]
    rfl

theorem branches_have_one_type_iff_boundTree :
    ∃ (t' : Tree) (first second third : Element),
      (Module.model.preTransform Web.baseOptions.host 1 boundTree).value = (some 2, t') ∧
      t'.element? 2 = some first ∧ t'.element? 3 = some second ∧ t'.element? 4 = some third ∧
      first.typeBindings = [⟨"type", "\"checkbox\"", false, none⟩] ∧
      second.typeBindings = [⟨"type", "\"radio\"", false, none⟩] ∧
      third.typeBindings = [⟨"type", "kind", false, none⟩] := by
  have hanchor : (Module.model.preTransform Web.baseOptions.host 1 boundTree).value.1 =
      some 2 := by
    decide +kernel
  have hblocks : ((Module.model.preTransform Web.baseOptions.host 1 boundTree).value.2.element?
      2).map (·.branches.map Branch.block) = some [2, 3, 4] := by
    decide +kernel
  obtain ⟨t', hexpanded⟩ : ∃ t', (Module.model.preTransform Web.baseOptions.host 1
      boundTree).value = (some 2, t') := ⟨_, Prod.ext hanchor rfl⟩
  rw [hexpanded] at hblocks
  have hcoherent : boundInput.Coherent := Element.coherent_ofAttributes (by decide) _ _
  have hcode : boundInput.resolvedType? = some "kind" := by decide
  have hother : boundInput.NamesNoOtherType := by decide +kernel
  obtain ⟨code, b, c, first, second, third, hresolved, hstarts, hfirst, hsecond, hthird, hcheckbox,
    hradio, hbound⟩ := branches_have_one_type_iff (t := boundTree) (e := boundInput)
      (o := Web.baseOptions) (by decide) rfl hcoherent
      (by simp [Web.baseOptions, Options.withModules]) hexpanded
  rw [hfirst, Option.map_some, hstarts.branches_eq] at hblocks
  obtain ⟨rfl, rfl⟩ : b = 3 ∧ c = 4 := by simpa using hblocks
  obtain rfl : code = "kind" := Option.some.inj (hresolved.symm.trans hcode)
  exact ⟨t', first, second, third, hexpanded, hfirst, hsecond, hthird, hcheckbox.mpr hother,
    hradio.mpr hother, hbound.mpr hother⟩

/-- An input with a plain type beside the one that is bound. -/
def twiceTypedInput : Element :=
  Element.ofAttributes "input"
    [⟨"v-model", "m", none⟩, ⟨":type", "b", none⟩, ⟨"type", "text", none⟩] none

/-- A tree that holds only this input. -/
def twiceTypedTree : Tree where
  nodes := [.element twiceTypedInput]

theorem branches_of_twiceTypedTree_have_two_types :
    (Module.model.preTransform Web.baseOptions.host 0 twiceTypedTree).value.1 = some 1 ∧
      ([1, 2, 3].map fun id => ((Module.model.preTransform Web.baseOptions.host 0
          twiceTypedTree).value.2.element? id).map Element.typeBindings) =
        [some [⟨"type", "\"text\"", false, none⟩, ⟨"type", "\"checkbox\"", false, none⟩],
          some [⟨"type", "\"text\"", false, none⟩, ⟨"type", "\"radio\"", false, none⟩],
          some [⟨"type", "\"text\"", false, none⟩, ⟨"type", "b", false, none⟩]] := by
  decide +kernel

/-! ## Everything but the type -/

/-- Becoming the start of a chain changes no binding. -/
theorem Element.BindsAlike.startChain {x y : Element} (h : x.BindsAlike y) (code : String)
    (chain : ChainConditions) (first second third : NodeId) :
    (x.startChain code chain first second third).BindsAlike y :=
  ⟨h.key_eq, h.reference_eq, h.staticClass_eq, h.classBinding_eq, h.events_eq, h.directives_eq,
    h.attributes_eq, h.properties_eq⟩

/-- **The three branches bind the same things, apart from the type.**  Let an input
without a plain `type` be expanded by the modules of this library and with the
properties of web pages, in a tree with room for three more nodes.  The three
branches have the same key, reference, classes, events and directives, and the
same attributes and properties under all names but `type`, in the same order and
at the same places of the source. -/
theorem branches_bind_alike {t t' : Tree} {id a : NodeId} {e : Element} {o : Options}
    (hroom : t.nodes.length + 3 ≤ UInt32.size) (helement : t.element? id = some e)
    (hplain : "type" ∉ e.pending.map Attribute.name)
    (hmodules : ∀ m ∈ o.modules, m = Module.classes ∨ m = Module.model)
    (hscope : o.mustUseProp = Web.mustUseProp)
    (hexpanded : (Module.model.preTransform o.host id t).value = (some a, t')) :
    ∃ (b c : NodeId) (first second third : Element),
      first.branches.map Branch.block = [a, b, c] ∧
      t'.element? a = some first ∧ t'.element? b = some second ∧ t'.element? c = some third ∧
      ∀ x ∈ [second, third], first.BindsAlike x := by
  obtain ⟨n, code, b, c, -, hfirst, hsecond, hthird⟩ :=
    Module.branches_of_preTransform_model hroom helement hmodules hexpanded
  have hprocess := Element.processedTo_process_moveClasses o.toScope n
  have hsublist : e.takeTypeBinding.2.takeConditions.2.pending.Sublist e.pending := by
    apply e.takeTypeBinding.2.pending_takeConditions_sublist.trans
    rw [Element.takeTypeBinding_eq_dropFirst]
    exact Attribute.dropFirst_sublist _ _
  generalize e.takeTypeBinding.2.takeConditions.2 = source at hsublist hfirst hsecond hthird
  have hunchained := Element.isUnchained_loopBranch hprocess source
  -- No branch is a button, so that all of them set the same properties.
  have hcheckbox := source.isPrepared_processLoop "type" "checkbox"
  have hcheckboxProp := hcheckbox.isProp_plainType hscope (by decide)
  have hradio := source.isPrepared_take "type" "radio"
  have hradioProp := hradio.isProp_plainType hscope (by decide)
  have hbound := source.isPrepared_take ":type" code
  have hboundProp := hbound.isProp_boundType hscope fun hmem =>
    hplain ((hsublist.map _).subset hmem)
  have htype : Attribute.namesType ":type" = true := by decide
  have hsecondAlike := (hcheckbox.alike hradio (by decide) (by decide)).bindsAlike_process
    (hcheckboxProp.trans hradioProp.symm) n
  have hthirdAlike := (hcheckbox.alike hbound (by decide) htype).bindsAlike_process
    (hcheckboxProp.trans hboundProp.symm) n
  refine ⟨b, c, _, _, _, ?_, hfirst, hsecond, hthird, ?_⟩
  · simp [Element.startChain, hunchained.branches_eq]
  · simp only [List.forall_mem_cons, List.not_mem_nil, false_implies, implies_true, and_true]
    exact ⟨hsecondAlike.startChain _ _ _ _ _, hthirdAlike.startChain _ _ _ _ _⟩

/-- An input in a loop with attributes of all kinds. -/
def laden : Element :=
  Element.ofAttributes "input"
    [⟨"v-model", "data", none⟩, ⟨":type", "kind", none⟩, ⟨"v-for", "x in xs", none⟩,
      ⟨":key", "x", none⟩, ⟨"class", "a", none⟩, ⟨"@input", "go", none⟩, ⟨":value", "v", none⟩] none

/-- A tree that holds only this input. -/
def ladenTree : Tree where
  nodes := [.element laden]

theorem branches_bind_alike_ladenTree :
    ∃ (t' : Tree) (first second third : Element),
      (Module.model.preTransform Web.baseOptions.host 0 ladenTree).value = (some 1, t') ∧
      t'.element? 1 = some first ∧ t'.element? 2 = some second ∧ t'.element? 3 = some third ∧
      (∀ x ∈ [second, third], first.BindsAlike x) ∧
      third.key = some "x" ∧ third.staticClass = some "\"a\"" ∧
      third.events = [⟨"input", "go", [], false, none⟩] := by
  have hrun : (Module.model.preTransform Web.baseOptions.host 0 ladenTree).value.1 = some 1 ∧
      ((Module.model.preTransform Web.baseOptions.host 0 ladenTree).value.2.element? 1).map
        (fun e => (e.branches.map Branch.block, e.key, e.staticClass, e.events)) =
        some ([1, 2, 3], some "x", some "\"a\"", [⟨"input", "go", [], false, none⟩]) := by
    decide +kernel
  obtain ⟨hanchor, hfields⟩ := hrun
  obtain ⟨t', hexpanded⟩ : ∃ t', (Module.model.preTransform Web.baseOptions.host 0
      ladenTree).value = (some 1, t') := ⟨_, Prod.ext hanchor rfl⟩
  rw [hexpanded] at hfields
  obtain ⟨b, c, first, second, third, hblocks, hfirst, hsecond, hthird, hsame⟩ :=
    branches_bind_alike (t := ladenTree) (e := laden) (o := Web.baseOptions) (by decide) rfl
      (by decide) (by simp [Web.baseOptions, Options.withModules]) rfl hexpanded
  rw [hfirst, Option.map_some, hblocks] at hfields
  simp only [Option.some.injEq, Prod.mk.injEq, List.cons.injEq, true_and, and_true] at hfields
  obtain ⟨⟨rfl, rfl⟩, hkey, hclass, hevents⟩ := hfields
  have hlast := hsame third (by simp)
  exact ⟨t', first, second, third, hexpanded, hfirst, hsecond, hthird, hsame,
    hlast.key_eq.symm.trans hkey, hlast.staticClass_eq.symm.trans hclass,
    hlast.events_eq.symm.trans hevents⟩

end Stencil
