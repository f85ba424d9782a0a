import Stencil.Proofs.Bindings

/-!
# The type among the attributes

An attribute can name the type of an element in many forms (`Attribute.namesType`):
`type`, `:type`, `v-bind:type.prop` and so on.  What an element has under the name
`type` when it is processed comes from such attributes, and everything else comes
from the others.  So processing can be followed for either kind alone:

* `typeBindings_process_iff`: an attribute that comes last gives an element its only
  type exactly if no other one names the type;
* `Alike.bindsAlike_process`: two elements that differ only in attributes that name
  the type are processed to the same keys, classes, events and so on.
-/

namespace Stencil

/-! ## Attributes that name the type -/

namespace Attribute

variable {a : Attribute} {isProp : String → Bool}

/-- Whether an attribute gives an element its type: plain or bound, and bound in
whatever form. -/
def namesType (name : String) : Bool :=
  match AttributeKind.ofName name with
  | .plain => name == "type"
  | .bound target _ _ => target == "type"
  | .event _ _ _ => false
  | .directive _ _ _ _ => false

/-- What is made of an attribute is called `type` just if the attribute names the
type. -/
theorem beq_name_of_mem_entries {b : Binding}
    (hb : b ∈ (a.entries isProp).attributes ++ (a.entries isProp).properties) :
    (b.name == "type") = namesType a.name := by
  unfold entries at hb
  unfold namesType
  cases hkind : AttributeKind.ofName a.name with
  | plain =>
      rw [hkind] at hb
      have hname : b.name = a.name := by
        rcases List.mem_append.mp hb with hb | hb
        · rw [List.mem_singleton.mp hb]
        · dsimp only at hb
          split_ifs at hb
          · rw [List.mem_singleton.mp hb]
          · exact absurd hb List.not_mem_nil
      rw [hname]
  | bound name dynamic modifiers =>
      rw [hkind] at hb
      have hname : b.name = name := by
        dsimp only at hb
        split_ifs at hb
        · rw [List.mem_singleton.mp hb]
        · rw [List.mem_singleton.mp hb]
      rw [hname]
  | event name dynamic modifiers =>
      rw [hkind] at hb
      exact absurd hb List.not_mem_nil
  | directive name argument dynamic modifiers =>
      rw [hkind] at hb
      exact absurd hb List.not_mem_nil

/-- An attribute that names the type becomes one attribute or property, and
nothing else. -/
theorem entries_of_namesType (hname : namesType a.name = true) (isProp : String → Bool) :
    ((a.entries isProp).attributes ++ (a.entries isProp).properties).length = 1 ∧
      (a.entries isProp).events = [] ∧ (a.entries isProp).directives = [] := by
  unfold namesType at hname
  unfold entries
  cases hkind : AttributeKind.ofName a.name with
  | plain =>
      rw [hkind] at hname
      have hmuted : (a.name == "muted") = false := by
        rw [beq_iff_eq.mp hname]
        rfl
      simp [hmuted]
  | bound name dynamic modifiers =>
      dsimp only
      split_ifs
      · simp
      · simp
  | event name dynamic modifiers =>
      rw [hkind] at hname
      exact absurd hname Bool.false_ne_true
  | directive name argument dynamic modifiers =>
      rw [hkind] at hname
      exact absurd hname Bool.false_ne_true

end Attribute

theorem filter_flatMap_of_forall {α β : Type} {p : β → Bool} {q : α → Bool} {f : α → List β}
    (hmem : ∀ a, ∀ b ∈ f a, p b = q a) (xs : List α) :
    (xs.flatMap f).filter p = (xs.filter q).flatMap f := by
  induction xs with
  | nil => rfl
  | cons a xs ih =>
      rw [List.flatMap_cons, List.filter_append, ih]
      cases hq : q a with
      | true =>
          rw [List.filter_cons_of_pos hq, List.flatMap_cons, List.filter_eq_self.mpr]
          intro b hb
          rw [hmem a b hb, hq]
      | false =>
          rw [List.filter_cons_of_neg (by simp [hq]), List.filter_eq_nil_iff.mpr, List.nil_append]
          intro b hb
          rw [hmem a b hb, hq]
          simp

theorem flatMap_filter_of_eq_nil {α β : Type} {q : α → Bool} {f : α → List β}
    (hnil : ∀ a, q a = false → f a = []) (xs : List α) :
    (xs.filter q).flatMap f = xs.flatMap f := by
  induction xs with
  | nil => rfl
  | cons a xs ih =>
      rw [List.flatMap_cons, ← ih]
      cases hq : q a with
      | true => rw [List.filter_cons_of_pos hq, List.flatMap_cons]
      | false => rw [List.filter_cons_of_neg (by simp [hq]), hnil a hq, List.nil_append]

namespace Element

variable {x y : Element} {scope : Scope}

/-- What an element has under the name `type`. -/
def typeBindings (e : Element) : List Binding :=
  (e.attributes ++ e.properties).filter (·.name == "type")

theorem exists_of_mem_processedForms {n : Nat} {form : String} (hform : form ∈ x.processedForms n) :
    ∃ name ∈ ["key", "ref", "class"], form ∈ Attribute.forms name := by
  rcases List.mem_append.mp hform with hform | hform
  · rcases List.mem_append.mp hform with hform | hform
    · exact ⟨"key", by simp, x.takenForms_subset _ _ hform⟩
    · exact ⟨"ref", by simp, x.takenForms_subset _ _ hform⟩
  · obtain ⟨forms, hforms, hform⟩ := List.mem_flatten.mp hform
    rw [List.eq_of_mem_replicate hforms] at hform
    refine ⟨"class", by simp, ?_⟩
    rcases List.mem_append.mp hform with hform | hform
    · rw [List.mem_singleton.mp (List.mem_filter.mp hform).1]
      simp [Attribute.forms]
    · exact x.takenForms_subset _ _ hform

/-- Keys, references and classes do not name the type. -/
theorem namesType_of_mem_processedForms {n : Nat} {form : String}
    (hform : form ∈ x.processedForms n) : Attribute.namesType form = false := by
  obtain ⟨name, hname, hform⟩ := exists_of_mem_processedForms hform
  have hforms : ∀ name ∈ ["key", "ref", "class"], ∀ form ∈ Attribute.forms name,
      Attribute.namesType form = false := by decide
  exact hforms name hname form hform

/-- No attribute that names the type is taken. -/
theorem filter_namesType_leftover (x : Element) (n : Nat) :
    (x.leftover n).filter (fun a => Attribute.namesType a.name) =
      x.pending.filter fun a => Attribute.namesType a.name := by
  have hnone : (x.processedForms n).filter Attribute.namesType = [] := by
    rw [List.filter_eq_nil_iff]
    intro form hform
    simp [namesType_of_mem_processedForms hform]
  rw [leftover, Attribute.filter_dropFirst, hnone]
  rfl

theorem filter_not_namesType_leftover (x : Element) (n : Nat) :
    (x.leftover n).filter (fun a => !Attribute.namesType a.name) =
      Attribute.dropFirst (x.processedForms n)
        (x.pending.filter fun a => !Attribute.namesType a.name) := by
  have hall : (x.processedForms n).filter (fun form => !Attribute.namesType form) =
      x.processedForms n := by
    rw [List.filter_eq_self]
    intro form hform
    rw [namesType_of_mem_processedForms hform]
    rfl
  have hfilter := Attribute.filter_dropFirst (fun form => !Attribute.namesType form)
    (x.processedForms n) x.pending
  rw [hall] at hfilter
  exact hfilter

/-! ## The type that processing gives an element -/

/-- What is called `type` in the end comes from the pending attributes that name
the type. -/
theorem typeBindings_process (hattributes : x.attributes = []) (hproperties : x.properties = [])
    (scope : Scope) (n : Nat) :
    (x.process scope (moveClasses scope n)).value.typeBindings =
      (x.pending.filter fun a => Attribute.namesType a.name).flatMap
          (fun a => (a.entries (x.isProp scope)).attributes) ++
        (x.pending.filter fun a => Attribute.namesType a.name).flatMap
          (fun a => (a.entries (x.isProp scope)).properties) := by
  have hnamed : ∀ part : Entries → List Binding,
      (∀ entries : Entries, part entries ⊆ entries.attributes ++ entries.properties) →
      ((x.leftover n).flatMap fun a => part (a.entries (x.isProp scope))).filter
          (·.name == "type") =
        (x.pending.filter fun a => Attribute.namesType a.name).flatMap
          fun a => part (a.entries (x.isProp scope)) := by
    intro part hpart
    rw [filter_flatMap_of_forall (q := fun a : Attribute => Attribute.namesType a.name),
      filter_namesType_leftover]
    intro a b hb
    exact Attribute.beq_name_of_mem_entries (hpart _ hb)
  rw [typeBindings, value_process, List.filter_append, hattributes, hproperties, List.nil_append,
    List.nil_append, hnamed Entries.attributes (fun _ => List.subset_append_left _ _),
    hnamed Entries.properties (fun _ => List.subset_append_right _ _)]

theorem length_flatMap_entries {attributes : List Attribute}
    (hnames : ∀ a ∈ attributes, Attribute.namesType a.name = true) (isProp : String → Bool) :
    (attributes.flatMap (fun a => (a.entries isProp).attributes) ++
      attributes.flatMap (fun a => (a.entries isProp).properties)).length = attributes.length := by
  induction attributes with
  | nil => rfl
  | cons a attributes ih =>
      obtain ⟨ha, hnames⟩ := List.forall_mem_cons.mp hnames
      have hone := (Attribute.entries_of_namesType ha isProp).1
      have hrest := ih hnames
      simp only [List.flatMap_cons, List.length_append, List.length_cons] at hone hrest ⊢
      omega

/-- If an attribute that names the type comes last, its entry is the only one called
`type` exactly if it is the only attribute that names the type. -/
theorem typeBindings_process_iff {others : List Attribute} {last : Attribute}
    (hattributes : x.attributes = []) (hproperties : x.properties = [])
    (hpending : x.pending = others ++ [last]) (hlast : Attribute.namesType last.name = true)
    (scope : Scope) (n : Nat) :
    (x.process scope (moveClasses scope n)).value.typeBindings =
        (last.entries (x.isProp scope)).attributes ++ (last.entries (x.isProp scope)).properties ↔
      ∀ a ∈ others, Attribute.namesType a.name = false := by
  have htyped : x.pending.filter (fun a => Attribute.namesType a.name) =
      others.filter (fun a => Attribute.namesType a.name) ++ [last] := by
    simp [hpending, hlast]
  rw [typeBindings_process hattributes hproperties, htyped]
  constructor
  · intro heq a ha
    by_contra hname
    rw [Bool.not_eq_false] at hname
    have hlength := congrArg List.length heq
    rw [length_flatMap_entries, (Attribute.entries_of_namesType hlast _).1, List.length_append]
      at hlength
    · have hmem : a ∈ others.filter fun a => Attribute.namesType a.name :=
        List.mem_filter.mpr ⟨ha, hname⟩
      have hpos := List.length_pos_of_mem hmem
      simp only [List.length_singleton] at hlength
      omega
    · intro b hb
      rcases List.mem_append.mp hb with hb | hb
      · exact (List.mem_filter.mp hb).2
      · rw [List.mem_singleton.mp hb]
        exact hlast
  · intro hnone
    have hempty : others.filter (fun a => Attribute.namesType a.name) = [] := by
      rw [List.filter_eq_nil_iff]
      intro a ha
      simp [hnone a ha]
    simp only [hempty, List.nil_append, List.flatMap_cons, List.flatMap_nil, List.append_nil]

/-! ## Everything but the type -/

/-- Two elements bind the same things, apart from the type. -/
structure BindsAlike (x y : Element) : Prop where
  key_eq : x.key = y.key
  reference_eq : x.reference = y.reference
  staticClass_eq : x.staticClass = y.staticClass
  classBinding_eq : x.classBinding = y.classBinding
  events_eq : x.events = y.events
  directives_eq : x.directives = y.directives
  attributes_eq : x.attributes.filter (·.name != "type") = y.attributes.filter (·.name != "type")
  properties_eq : x.properties.filter (·.name != "type") = y.properties.filter (·.name != "type")

/-- Two elements that processing sees alike, apart from what names the type. -/
structure Alike (x y : Element) : Prop extends BindsAlike x y where
  pending_eq : x.pending.filter (fun a => !Attribute.namesType a.name) =
    y.pending.filter fun a => !Attribute.namesType a.name
  get?_written : ∀ name ∈ ["key", "ref", "class"], ∀ form ∈ Attribute.forms name,
    x.written.get? form = y.written.get? form

namespace Alike

variable {n : Nat}

theorem processedForms_eq (h : x.Alike y) : x.processedForms n = y.processedForms n := by
  have hkey := takenForms_congr (h.get?_written "key" (by simp)) true
  have href := takenForms_congr (h.get?_written "ref" (by simp)) true
  have hclass := takenForms_congr (h.get?_written "class" (by simp)) false
  have hplain := h.get?_written "class" (by simp) "class" (by simp [Attribute.forms])
  have hclasses : x.classForms = y.classForms := by
    unfold classForms
    rw [hclass]
    congr 1
    apply List.filter_congr
    intro form hform
    rw [List.mem_singleton.mp hform, hplain]
  unfold processedForms
  rw [hkey, href, hclasses]

/-- The attributes that are left are the same, apart from those that name the
type. -/
theorem leftover_eq (h : x.Alike y) :
    (x.leftover n).filter (fun a => !Attribute.namesType a.name) =
      (y.leftover n).filter fun a => !Attribute.namesType a.name := by
  rw [filter_not_namesType_leftover, filter_not_namesType_leftover, h.processedForms_eq,
    h.pending_eq]

theorem bindings_eq (h : x.Alike y) (isProp : String → Bool) {part : Entries → List Binding}
    (hpart : ∀ entries : Entries, part entries ⊆ entries.attributes ++ entries.properties) :
    ((x.leftover n).flatMap fun a => part (a.entries isProp)).filter (·.name != "type") =
      ((y.leftover n).flatMap fun a => part (a.entries isProp)).filter (·.name != "type") := by
  have hnamed : ∀ a, ∀ b ∈ part (Attribute.entries isProp a),
      (b.name != "type") = !Attribute.namesType a.name := by
    intro a b hb
    rw [bne, Attribute.beq_name_of_mem_entries (hpart _ hb)]
  rw [filter_flatMap_of_forall hnamed, filter_flatMap_of_forall hnamed, h.leftover_eq]

/-- Processing keeps elements alike. -/
theorem bindsAlike_process (h : x.Alike y) {scope : Scope} (hprop : x.isProp scope = y.isProp scope)
    (n : Nat) :
    (x.process scope (moveClasses scope n)).value.BindsAlike
      (y.process scope (moveClasses scope n)).value := by
  have hkey := takeBinding_fst_congr (h.get?_written "key" (by simp)) true
  have href := takeBinding_fst_congr (h.get?_written "ref" (by simp)) true
  have hclass := takeBinding_fst_congr (h.get?_written "class" (by simp)) false
  have hplain := h.get?_written "class" (by simp) "class" (by simp [Attribute.forms])
  have hothers : ∀ {β : Type} (part : Entries → List β),
      (∀ a : Attribute, Attribute.namesType a.name = true →
        part (a.entries (y.isProp scope)) = []) →
      ((x.leftover n).flatMap fun a => part (a.entries (y.isProp scope))) =
        (y.leftover n).flatMap fun a => part (a.entries (y.isProp scope)) := by
    intro β part hpart
    have hnil : ∀ a : Attribute, (!Attribute.namesType a.name) = false →
        part (a.entries (y.isProp scope)) = [] := by
      intro a ha
      exact hpart a (by simpa using ha)
    rw [← flatMap_filter_of_eq_nil hnil (x.leftover n), h.leftover_eq,
      flatMap_filter_of_eq_nil hnil]
  rw [value_process, value_process, hprop]
  constructor
  · simp only [givenKey?, hkey, h.key_eq]
  · simp only [givenReference?, href, h.reference_eq]
  · simp only [Dict.nonEmpty?, hplain, h.staticClass_eq]
  · simp only [givenClassBinding?, hclass, h.classBinding_eq]
  · dsimp only
    rw [h.events_eq, hothers Entries.events]
    exact fun a ha => (Attribute.entries_of_namesType ha _).2.1
  · dsimp only
    rw [h.directives_eq, hothers Entries.directives]
    exact fun a ha => (Attribute.entries_of_namesType ha _).2.2
  · dsimp only
    rw [List.filter_append, List.filter_append, h.attributes_eq,
      h.bindings_eq _ fun _ => List.subset_append_left _ _]
  · dsimp only
    rw [List.filter_append, List.filter_append, h.properties_eq,
      h.bindings_eq _ fun _ => List.subset_append_right _ _]

end Alike

end Element

end Stencil
