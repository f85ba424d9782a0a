import Stencil.Proofs.Dict
import Stencil.Tree.Element

/-!
# Taking attributes off an element

An element keeps an attribute twice, in the list of pending ones and in the
dictionary of written ones.  `Element.Coherent` says that the two agree, as they
do on a new element with distinct attribute names.  On a coherent element an
attribute that was taken is gone from the list, and all others stay.
-/

namespace Stencil.Element

variable {e : Element} {name other : String}

/-- The text of a pending attribute. -/
def pendingText? (e : Element) (name : String) : Option String :=
  (e.pending.map fun a => (a.name, a.value)).lookup name

/-- Pending attributes have distinct names, and all of them are written with
their values. -/
structure Coherent (e : Element) : Prop where
  nodup : (e.pending.map Attribute.name).Nodup
  get?_written : ∀ a ∈ e.pending, e.written.get? a.name = some a.value

/-- An attribute is neither pending nor written. -/
structure Lacks (e : Element) (name : String) : Prop where
  not_pending : name ∉ e.pending.map Attribute.name
  not_written : name ∉ e.written.names

theorem exists_of_pendingText? {text : String} (htext : e.pendingText? name = some text) :
    ∃ a ∈ e.pending, a.name = name ∧ a.value = text := by
  obtain ⟨before, after, hsplit, -⟩ := List.lookup_eq_some_iff.mp htext
  have hmem : (name, text) ∈ e.pending.map fun a => (a.name, a.value) := by
    rw [hsplit]
    exact List.mem_append_right _ (List.mem_cons_self ..)
  obtain ⟨a, ha, hpair⟩ := List.mem_map.mp hmem
  obtain ⟨hname, hvalue⟩ := Prod.mk.inj hpair
  exact ⟨a, ha, hname, hvalue⟩

/-! ## New elements -/

theorem get?_written_ofAttributes {attributes : List Attribute}
    (hnodup : (attributes.map Attribute.name).Nodup) (tag : String) (parent : Option NodeId)
    (name : String) :
    (ofAttributes tag attributes parent).written.get? name =
      (attributes.map fun a => (a.name, a.value)).lookup name := by
  refine Dict.get?_ofList ?_ name
  rwa [List.map_map]

theorem coherent_ofAttributes {attributes : List Attribute}
    (hnodup : (attributes.map Attribute.name).Nodup) (tag : String) (parent : Option NodeId) :
    (ofAttributes tag attributes parent).Coherent where
  nodup := hnodup
  get?_written a ha := by
    have hpair : (a.name, a.value) ∈ attributes.map fun a => (a.name, a.value) :=
      List.mem_map_of_mem ha
    rw [get?_written_ofAttributes hnodup]
    refine Dict.lookup_of_mem ?_ hpair
    rwa [List.map_map]

/-- A new element has no attribute other than the given ones. -/
theorem lacks_ofAttributes {attributes : List Attribute}
    (hname : name ∉ attributes.map Attribute.name) (tag : String) (parent : Option NodeId) :
    (ofAttributes tag attributes parent).Lacks name where
  not_pending := hname
  not_written := by
    change name ∉ (Dict.ofList _).names
    rw [Dict.mem_names_ofList, List.map_map]
    exact hname

/-! ## Taking one attribute -/

theorem pending_take_sublist (e : Element) (name : String) (forget : Bool) :
    (e.take name forget).2.pending.Sublist e.pending := by
  simp only [take]
  split_ifs
  · exact List.eraseP_sublist
  · exact List.Sublist.refl _

/-- Attributes with other names keep their texts. -/
theorem pendingText?_take_of_ne (hne : other ≠ name) (forget : Bool) :
    (e.take name forget).2.pendingText? other = e.pendingText? other := by
  simp only [pendingText?, take]
  split_ifs
  · rw [← Dict.lookup_eraseP_of_ne hne (e.pending.map _), List.eraseP_map]
    rfl
  · rfl

theorem get?_written_take_of_ne (hne : other ≠ name) (forget : Bool) :
    (e.take name forget).2.written.get? other = e.written.get? other := by
  cases forget with
  | false => rfl
  | true => exact Dict.get?_erase_of_ne e.written hne

/-- An attribute that was taken is no longer pending. -/
theorem Coherent.not_mem_pending_take (hcoherent : e.Coherent) (name : String) (forget : Bool) :
    name ∉ (e.take name forget).2.pending.map Attribute.name := by
  have herase : (e.pending.eraseP (·.name == name)).map Attribute.name =
      (e.pending.map Attribute.name).erase name := by
    rw [List.erase_eq_eraseP', List.eraseP_map]
    rfl
  simp only [take]
  split_ifs with hwritten
  · rw [herase]
    exact hcoherent.nodup.not_mem_erase
  · intro hmem
    obtain ⟨a, ha, rfl⟩ := List.mem_map.mp hmem
    simp [hcoherent.get?_written a ha] at hwritten

theorem Coherent.take (hcoherent : e.Coherent) (name : String) (forget : Bool) :
    (e.take name forget).2.Coherent where
  nodup := hcoherent.nodup.sublist ((pending_take_sublist e name forget).map _)
  get?_written a ha := by
    have hne : a.name ≠ name := by
      rintro rfl
      exact hcoherent.not_mem_pending_take a.name forget (List.mem_map_of_mem ha)
    rw [get?_written_take_of_ne hne]
    exact hcoherent.get?_written a ((pending_take_sublist e name forget).subset ha)

theorem Lacks.take (hlacks : e.Lacks name) (taken : String) (forget : Bool) :
    (e.take taken forget).2.Lacks name where
  not_pending hmem :=
    hlacks.not_pending (((pending_take_sublist e taken forget).map _).subset hmem)
  not_written hmem := by
    cases forget with
    | false => exact hlacks.not_written hmem
    | true => exact hlacks.not_written ((Dict.names_erase_sublist e.written taken).subset hmem)

/-- A coherent element lacks what it was made to forget. -/
theorem Coherent.lacks_take (hcoherent : e.Coherent) (hwritten : e.written.names.Nodup)
    (name : String) : (e.take name true).2.Lacks name where
  not_pending := hcoherent.not_mem_pending_take name true
  not_written hmem := ((Dict.mem_names_erase hwritten).mp hmem).2 rfl

/-! ## Taking attributes that may be bound -/

/-- The colon form wins unless it is empty, then the long form, then the plain
one. -/
theorem takeBinding_fst (e : Element) (name : String) (plain : Bool) :
    (e.takeBinding name plain).1 =
      (((e.written.nonEmpty? (":" ++ name)).or (e.written.get? ("v-bind:" ++ name))).map
        Filter.compile).or (if plain then (e.written.get? name).map Text.quote else none) := by
  have hshort : (e.take (":" ++ name) false).1.filter (fun value => !value.isEmpty) =
      e.written.nonEmpty? (":" ++ name) := rfl
  have hlong : ((e.take (":" ++ name) false).2.take ("v-bind:" ++ name) false).1 =
      e.written.get? ("v-bind:" ++ name) := rfl
  simp only [takeBinding, hshort, hlong]
  cases e.written.nonEmpty? (":" ++ name) with
  | some code => rfl
  | none =>
      cases e.written.get? ("v-bind:" ++ name) with
      | some code => rfl
      | none => cases plain <;> rfl

/-- What is kept when the forms of a bound attribute are taken is kept by looking
for it. -/
theorem takeBinding_induction {P : Element → Prop} (hstart : P e)
    (htake : ∀ e, P e → ∀ form ∈ [":" ++ name, "v-bind:" ++ name, name], P (e.take form false).2)
    (plain : Bool) : P (e.takeBinding name plain).2 := by
  have hshort : P (e.take (":" ++ name) false).2 := htake e hstart _ (by simp)
  have hlong := htake _ hshort ("v-bind:" ++ name) (by simp)
  have hplain := htake _ hlong name (by simp)
  simp only [takeBinding]
  split
  · exact hshort
  · split
    · exact hlong
    · split_ifs
      · exact hplain
      · exact hlong

/-- Looking for a bound attribute changes nothing but the list of pending ones. -/
theorem takeBinding_snd_eq (e : Element) (name : String) (plain : Bool) :
    (e.takeBinding name plain).2 = { e with pending := (e.takeBinding name plain).2.pending } := by
  refine takeBinding_induction (P := fun taken => taken = { e with pending := taken.pending }) rfl
    (fun taken htaken form _ => ?_) plain
  rw [htaken]
  rfl

/-! ## Adding an attribute -/

theorem Lacks.addAttribute (hlacks : e.Lacks name) (hne : name ≠ other) (value : String) :
    (e.addAttribute other value).Lacks name where
  not_pending := by
    change name ∉ (e.pending ++ [_]).map Attribute.name
    rw [List.map_append, List.mem_append]
    rintro (hmem | hmem)
    · exact hlacks.not_pending hmem
    · exact hne (List.mem_singleton.mp hmem)
  not_written hmem := by
    rcases Dict.mem_names_insert.mp hmem with heq | hmem
    · exact hne heq
    · exact hlacks.not_written hmem

end Stencil.Element
