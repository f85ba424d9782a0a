import Mathlib.Data.List.Forall2
import Stencil.Proofs.Directive.Name
import Stencil.Web

/-!
# What attributes become

Processing an element takes a few attributes off its list and makes an entry of
one of four lists of each attribute that is left.

* `Entry` is such an entry, and `Element.append` adds entries to their lists.
* A name that was written in parts gives one entry, which has these parts
  (`written_names_decode`).
* `Attribute.Becomes` says which entry an attribute gets by how its name starts,
  and `Element.Classifies` that no attribute is lost or doubled on the way, that
  all lists keep the order of the source, and that nothing else changes
  (`processElement_classifies`).
-/

namespace Stencil

open Text

/-! ## Entries -/

/-- An entry of one of the four lists that processing fills. -/
inductive Entry where
  | attr (b : Binding)
  | prop (b : Binding)
  | event (b : EventBinding)
  | directive (b : DirectiveBinding)

namespace Entry

def attr? : Entry → Option Binding
  | attr b => some b
  | _ => none

def prop? : Entry → Option Binding
  | prop b => some b
  | _ => none

def event? : Entry → Option EventBinding
  | event b => some b
  | _ => none

def directive? : Entry → Option DirectiveBinding
  | directive b => some b
  | _ => none

end Entry

namespace Entries

/-- Entries of all lists as one list. -/
def toList (entries : Entries) : List Entry :=
  entries.attributes.map .attr ++ entries.properties.map .prop ++ entries.events.map .event ++
    entries.directives.map .directive

variable (entries : Entries)

theorem filterMap_attr?_toList : entries.toList.filterMap Entry.attr? = entries.attributes := by
  simp [toList, Entry.attr?, List.filterMap_map, Function.comp_def]

theorem filterMap_prop?_toList : entries.toList.filterMap Entry.prop? = entries.properties := by
  simp [toList, Entry.prop?, List.filterMap_map, Function.comp_def]

theorem filterMap_event?_toList : entries.toList.filterMap Entry.event? = entries.events := by
  simp [toList, Entry.event?, List.filterMap_map, Function.comp_def]

theorem filterMap_directive?_toList :
    entries.toList.filterMap Entry.directive? = entries.directives := by
  simp [toList, Entry.directive?, List.filterMap_map, Function.comp_def]

end Entries

/-- Adds entries to the ends of their lists. -/
def Element.append (e : Element) (entries : List Entry) : Element :=
  { e with
    attributes := e.attributes ++ entries.filterMap Entry.attr?
    properties := e.properties ++ entries.filterMap Entry.prop?
    events := e.events ++ entries.filterMap Entry.event?
    directives := e.directives ++ entries.filterMap Entry.directive? }

/-- Each pending attribute adds its own entries. -/
theorem Element.value_processAttributes_eq_append (e : Element) (scope : Scope) :
    (e.processAttributes scope).value =
      { e.append (e.pending.flatMap fun a => (a.entries (e.isProp scope)).toList) with
        hasBindings := e.hasBindings || e.pending.any fun a => isDirective a.name } := by
  rw [value_processAttributes]
  simp only [append, List.filterMap_flatMap, Entries.filterMap_attr?_toList,
    Entries.filterMap_prop?_toList, Entries.filterMap_event?_toList,
    Entries.filterMap_directive?_toList]

/-! ## Written names -/

/-- The entry of an attribute whose name is written in parts. -/
def WrittenName.entry (w : WrittenName) (isProp : String → Bool) (value : String)
    (span : Option Span) : Entry :=
  match w.parts with
  | .bound _ target =>
    let binding : Binding := ⟨target.contents, Filter.compile value, target.isDynamic, span⟩
    if w.modifiers.contains "prop" || isProp target.contents then .prop binding else .attr binding
  | .event _ target => .event ⟨target.contents, value, w.modifiers, target.isDynamic, span⟩
  | .directive word argument =>
    .directive ⟨word, w.text, value, argument.map Target.contents, argument.any Target.isDynamic,
      w.modifiers, span⟩

theorem WrittenName.toList_entries {w : WrittenName} (hlegible : w.Legible)
    (isProp : String → Bool) (value : String) (span : Option Span) :
    ((⟨w.text, value, span⟩ : Attribute).entries isProp).toList = [w.entry isProp value span] := by
  have hkind := ofName_text hlegible
  cases hparts : w.parts with
  | bound spelling target =>
      rw [hparts] at hkind
      simp only [Attribute.entries, hkind, NameParts.kind, entry, hparts]
      split_ifs
      · rfl
      · rfl
  | event spelling target =>
      rw [hparts] at hkind
      simp only [Attribute.entries, hkind, NameParts.kind, entry, hparts]
      rfl
  | directive word argument =>
      rw [hparts] at hkind
      simp only [Attribute.entries, hkind, NameParts.kind, entry, hparts]
      rfl

/-- **Names decode to what they encode.**  Let an attribute have a name that was
written in parts: the start of a bound attribute, of an event or of a directive,
a target or a word with or without an argument, and modifiers.  Wherever it stands
among the pending attributes, processing makes one entry of it, and this entry has
the same target, word, argument and modifiers.  Code in brackets is kept as it is
and marked as dynamic. -/
theorem written_names_decode {e : Element} {scope : Scope} {before after : List Attribute}
    {w : WrittenName} {value : String} {span : Option Span} (hlegible : w.Legible)
    (hpending : e.pending = before ++ ⟨w.text, value, span⟩ :: after) :
    (e.processAttributes scope).value =
      { e.append
          (before.flatMap (fun a => (a.entries (e.isProp scope)).toList) ++
            w.entry (e.isProp scope) value span ::
            after.flatMap fun a => (a.entries (e.isProp scope)).toList) with
        hasBindings := true } := by
  have hbindings : (e.hasBindings || e.pending.any fun a => isDirective a.name) = true := by
    simp [hpending, w.isDirective_text]
  rw [Element.value_processAttributes_eq_append, hbindings, hpending, List.flatMap_append,
    List.flatMap_cons, WrittenName.toList_entries hlegible, List.singleton_append]

/-- A bound name with code in brackets that holds everything that divides names. -/
def cellName : WrittenName where
  parts := .bound .long (.dynamic "row[i].key:x")
  modifiers := ["prop", "sync"]

/-- An element with this name between others. -/
def cell : Element :=
  .ofAttributes "td" [⟨"title", "t", none⟩, ⟨"v-bind:[row[i].key:x].prop.sync", "a | f", none⟩,
    ⟨"@click.stop", "go", none⟩] none

theorem written_names_decode_cell :
    cellName.Legible ∧ cellName.text = "v-bind:[row[i].key:x].prop.sync" ∧
      (cell.processAttributes {}).value.properties =
        [⟨"row[i].key:x", "_f(\"f\")(a)", true, none⟩] := by
  have hlegible : cellName.Legible := by
    refine ⟨trivial, fun modifier hmodifier => ?_⟩
    rcases List.mem_pair.mp hmodifier with rfl | rfl
    · exact ⟨by decide, by decide, by decide⟩
    · exact ⟨by decide, by decide, by decide⟩
  have htext : cellName.text = "v-bind:[row[i].key:x].prop.sync" := by decide
  have hpending : cell.pending = [⟨"title", "t", none⟩] ++
      ⟨cellName.text, "a | f", none⟩ :: [⟨"@click.stop", "go", none⟩] := by
    rw [htext]
    rfl
  refine ⟨hlegible, htext, ?_⟩
  rw [written_names_decode hlegible hpending]
  decide +kernel

/-! ## Taken attributes -/

/-- The names under which processing may take an attribute. -/
def Attribute.takenNames : List String :=
  ["key", "ref", "class"].flatMap Attribute.forms

namespace Element

theorem lookedForms_sublist (e : Element) (name : String) :
    (e.lookedForms name true).Sublist (Attribute.forms name) := by
  unfold lookedForms Attribute.forms
  split_ifs
  · simp
  · simp
  · exact List.Sublist.refl _

theorem lookedForms_sublist_of_not_plain (e : Element) (name : String) :
    (e.lookedForms name false).Sublist [":" ++ name, "v-bind:" ++ name] := by
  unfold lookedForms
  split_ifs with hshort hlong
  · simp
  · exact List.Sublist.refl _
  · simp at hlong

/-- Where classes are moved at most once, no name is taken twice. -/
theorem nodup_processedForms (e : Element) {n : Nat} (hn : n ≤ 1) :
    (e.processedForms n).Nodup ∧ e.processedForms n ⊆ Attribute.takenNames := by
  have hkey : (e.takenForms "key" true).Sublist (Attribute.forms "key") :=
    List.filter_sublist.trans (e.lookedForms_sublist "key")
  have hreference : (e.takenForms "ref" true).Sublist (Attribute.forms "ref") :=
    List.filter_sublist.trans (e.lookedForms_sublist "ref")
  have hclass : e.classForms.Sublist ["class", ":class", "v-bind:class"] :=
    List.filter_sublist.append
      (List.filter_sublist.trans (e.lookedForms_sublist_of_not_plain "class"))
  have hclasses : (List.replicate n e.classForms).flatten.Sublist
      ["class", ":class", "v-bind:class"] := by
    obtain rfl | rfl : n = 0 ∨ n = 1 := by omega
    · exact List.nil_sublist _
    · simpa using hclass
  have hall := (hkey.append hreference).append hclasses
  exact ⟨List.Nodup.sublist hall (by decide), fun name hname =>
    (show ∀ name ∈ _, name ∈ Attribute.takenNames by decide) name (hall.subset hname)⟩

end Element

/-! ## Entries of attributes -/

/-- The entry that an attribute gets.  How its name starts decides on the list, and
the entry has the value and the span of the attribute. -/
inductive Attribute.Becomes (a : Attribute) : Entry → Prop
  | plain (hplain : isDirective a.name = false) :
      a.Becomes (.attr ⟨a.name, quote a.value, false, a.span⟩)
  | attr (hbound : isBound a.name = true) {b : Binding} (hvalue : b.value = Filter.compile a.value)
      (hspan : b.span = a.span) : a.Becomes (.attr b)
  | prop (hbound : isBound a.name = true) {b : Binding} (hvalue : b.value = Filter.compile a.value)
      (hspan : b.span = a.span) : a.Becomes (.prop b)
  | event (hevent : isEvent a.name = true) {b : EventBinding} (hvalue : b.value = a.value)
      (hspan : b.span = a.span) : a.Becomes (.event b)
  | directive (hdirective : isDirective a.name = true) (hbound : isBound a.name = false)
      (hevent : isEvent a.name = false) {b : DirectiveBinding} (hname : b.rawName = a.name)
      (hvalue : b.value = a.value) (hspan : b.span = a.span) : a.Becomes (.directive b)

/-- The second entry of an attribute `muted` that has to be set as a property. -/
def Attribute.mutedEntry (isProp : String → Bool) (a : Attribute) : List Entry :=
  if a.name = "muted" ∧ isProp "muted" = true then [.prop ⟨"muted", "true", false, a.span⟩] else []

/-- The entries that an attribute gets: one, and that of `muted`. -/
def Attribute.Yields (isProp : String → Bool) (a : Attribute) (entries : List Entry) : Prop :=
  ∃ entry, a.Becomes entry ∧ entries = entry :: a.mutedEntry isProp

/-- Only a plain attribute has a second entry. -/
theorem Attribute.mutedEntry_of_isDirective {a : Attribute} (hdirective : isDirective a.name = true)
    (isProp : String → Bool) : a.mutedEntry isProp = [] := by
  rw [mutedEntry, if_neg]
  rintro ⟨hmuted, -⟩
  rw [hmuted] at hdirective
  exact absurd hdirective (by decide)

theorem Attribute.yields_entries (isProp : String → Bool) (a : Attribute) :
    a.Yields isProp (a.entries isProp).toList := by
  rcases ofName_cases a.name with ⟨hplain, hkind⟩ |
    ⟨hdirective, hbound, target, dynamic, modifiers, hkind⟩ |
    ⟨hdirective, -, hevent, target, dynamic, modifiers, hkind⟩ |
    ⟨hdirective, hbound, hevent, word, argument, dynamic, modifiers, hkind⟩
  · refine ⟨_, .plain hplain, ?_⟩
    simp only [entries, hkind, mutedEntry]
    by_cases hmuted : a.name = "muted"
    · cases hprop : isProp "muted" with
      | true => simp [hmuted, hprop, Entries.toList]
      | false => simp [hmuted, hprop, Entries.toList]
    · simp [hmuted, Entries.toList]
  · let b : Binding := ⟨target, Filter.compile a.value, dynamic, a.span⟩
    simp only [Yields, entries, hkind, mutedEntry_of_isDirective hdirective]
    split_ifs
    · exact ⟨.prop b, .prop hbound rfl rfl, rfl⟩
    · exact ⟨.attr b, .attr hbound rfl rfl, rfl⟩
  · let b : EventBinding := ⟨target, a.value, modifiers, dynamic, a.span⟩
    refine ⟨.event b, .event hevent rfl rfl, ?_⟩
    simp only [entries, hkind, mutedEntry_of_isDirective hdirective]
    rfl
  · let b : DirectiveBinding := ⟨word, a.name, a.value, argument, dynamic, modifiers, a.span⟩
    refine ⟨.directive b, .directive hdirective hbound hevent rfl rfl rfl, ?_⟩
    simp only [entries, hkind, mutedEntry_of_isDirective hdirective]
    rfl

/-! ## Processed elements -/

/-- An element with its attributes sorted into entries.  `isProp` says what has to be
set as a property. -/
structure Element.Classifies (isProp : String → Bool) (e e' : Element) : Prop where
  /-- Under each form of the key, the reference and the class at most the first
  attribute is taken. -/
  taken : ∃ names, names.Nodup ∧ names ⊆ Attribute.takenNames ∧
    e'.pending = Attribute.dropFirst names e.pending
  /-- Each attribute that is left gets its entries, in their order. -/
  entries : ∃ groups, List.Forall₂ (Attribute.Yields isProp) e'.pending groups ∧
    e'.attributes = e.attributes ++ groups.flatten.filterMap Entry.attr? ∧
    e'.properties = e.properties ++ groups.flatten.filterMap Entry.prop? ∧
    e'.events = e.events ++ groups.flatten.filterMap Entry.event? ∧
    e'.directives = e.directives ++ groups.flatten.filterMap Entry.directive?
  hasBindings_iff : e'.hasBindings = true ↔
    e.hasBindings = true ∨ ∃ a ∈ e'.pending, isDirective a.name = true
  /-- What is neither an entry nor a field for something taken stays as it is. -/
  outline_eq : e'.outline = e.outline

theorem Element.classifies_process (e : Element) (scope : Scope) {n : Nat} (hn : n ≤ 1) :
    e.Classifies (e.isProp scope) (e.process scope (moveClasses scope n)).value := by
  have houtline := (processedTo_process_moveClasses scope n e).outline_eq
  obtain ⟨hnodup, hnames⟩ := e.nodup_processedForms hn
  rw [value_process] at houtline ⊢
  refine ⟨⟨e.processedForms n, hnodup, hnames, rfl⟩,
    ⟨(e.leftover n).map fun a => (a.entries (e.isProp scope)).toList, ?_, ?_⟩, ?_, houtline⟩
  · rw [List.forall₂_map_right_iff, List.forall₂_same]
    exact fun a _ => a.yields_entries (e.isProp scope)
  · simp only [← List.flatMap_def, List.filterMap_flatMap, Entries.filterMap_attr?_toList,
      Entries.filterMap_prop?_toList, Entries.filterMap_event?_toList,
      Entries.filterMap_directive?_toList, and_self]
  · simp only [Bool.or_eq_true, List.any_eq_true]

/-- **Attributes are classified once each.**  Let an element of a tree be processed
under options whose modules are among those of this library, each at most once.  Then
nothing but this element changes.  Of its pending attributes at most the first one
under each form of `key`, `ref` and `class` is taken.  Each attribute that is left
gets one entry, in the list that its name calls for, with its value and its span and
in the order of the source; only a plain `muted` that has to be a property gets a
second one.  The element has bindings if it had some or if one of the names that are
left is that of a directive.  Its tag, its written attributes and their sources, its
place in the tree and in the source, its loop and its conditions stay as they are. -/
theorem processElement_classifies {t : Tree} {id : NodeId} {e : Element} {o : Options}
    (helement : t.element? id = some e)
    (hmodules : ∀ m ∈ o.modules, m = Module.classes ∨ m = Module.model)
    (honce : o.modules.Nodup) :
    ∃ e', (t.processElement o.host id).value = (t.modifyElement id fun _ => e') ∧
      e.Classifies (o.mustUseProp e.tag (e.written.get? "type")) e' := by
  obtain ⟨n, -, hn, htransform⟩ := Module.exists_transformAll_eq hmodules o.toScope
  refine ⟨(e.process o.toScope (Element.moveClasses o.toScope n)).value, ?_,
    e.classifies_process o.toScope (hn honce)⟩
  rw [Tree.processElement_eq_updateElement htransform, Tree.updateElement_of_element? helement]
  rfl

/-- An element with attributes of all kinds, two of them under one name. -/
def player : Element :=
  .ofAttributes "video" [⟨":key", "k", none⟩, ⟨"class", "a", none⟩, ⟨"class", "b", none⟩,
    ⟨"muted", "", some ⟨3, 5⟩⟩, ⟨":src", "file", none⟩, ⟨"@play.once", "go", none⟩,
    ⟨"v-focus:[x].lazy", "", none⟩] none

/-- A tree that holds only this element. -/
def playerTree : Tree where
  nodes := [.element player]

theorem processElement_classifies_player :
    (∀ m ∈ Web.baseOptions.modules, m = Module.classes ∨ m = Module.model) ∧
      Web.baseOptions.modules.Nodup ∧ playerTree.element? 0 = some player ∧
      ∃ e', (playerTree.processElement Web.baseOptions.host 0).value =
          (playerTree.modifyElement 0 fun _ => e') ∧
        player.Classifies (Web.mustUseProp "video" none) e' ∧
        e'.pending.map Attribute.name =
          ["class", "muted", ":src", "@play.once", "v-focus:[x].lazy"] ∧
        e'.properties = [⟨"muted", "true", false, some ⟨3, 5⟩⟩] := by
  have hmodules : ∀ m ∈ Web.baseOptions.modules, m = Module.classes ∨ m = Module.model := by
    simp [Web.baseOptions, Options.withModules]
  have honce : Web.baseOptions.modules.Nodup := by
    have hne : Module.classes ≠ Module.model := fun heq =>
      absurd (congrArg Module.staticKeys heq) (by decide)
    simp [Web.baseOptions, Options.withModules, hne]
  have helement : playerTree.element? 0 = some player := rfl
  obtain ⟨e', hvalue, hclassifies⟩ := processElement_classifies helement hmodules honce
  have hfields : ((playerTree.processElement Web.baseOptions.host 0).value.element? 0).map
      (fun e => (e.pending.map Attribute.name, e.properties)) =
      some (["class", "muted", ":src", "@play.once", "v-focus:[x].lazy"],
        [⟨"muted", "true", false, some ⟨3, 5⟩⟩]) := by
    decide +kernel
  rw [hvalue, Tree.element?_modifyElement helement, Option.map_some] at hfields
  obtain ⟨hpending, hproperties⟩ := Prod.mk.inj (Option.some.inj hfields)
  exact ⟨hmodules, honce, helement, e', hvalue, hclassifies, hpending, hproperties⟩

end Stencil
