import Stencil.Proofs.Tree.Taking

/-!
# Any number of accesses to attributes

Passes take attributes off an element, look for bound ones and add new ones.
This file follows a whole sequence of such accesses.  Three facts about a single
one carry over to the sequence:

* an element that was coherent stays so, as long as nothing is added that is
  still pending (`Coherent.access`);
* the pending attributes are then those that the access did not ask for, in their
  order, and behind them what it added (`Coherent.pending_access`);
* the texts of names that it did not ask for stay, on any element
  (`get?_written_access`).

What an access asks for is `asked`: looking for a bound attribute asks for the
forms that it looks at, which depends on the texts that the element has at that
time.
-/

namespace Stencil

/-- What a pass does with the attributes of an element. -/
inductive Access where
  /-- Takes an attribute; with `forget` it is no longer written either. -/
  | take (name : String) (forget : Bool)
  /-- Takes an attribute that may be bound. -/
  | takeBinding (name : String) (plain : Bool)
  /-- Adds an attribute. -/
  | add (name value : String)

namespace Element

/-- The element after an access. -/
def access (e : Element) : Access → Element
  | .take name forget => (e.take name forget).2
  | .takeBinding name plain => (e.takeBinding name plain).2
  | .add name value => e.addAttribute name value

/-- The element after some accesses. -/
def accessAll (e : Element) (accesses : List Access) : Element :=
  accesses.foldl access e

/-- The names that an access asks for. -/
def asked (e : Element) : Access → List String
  | .take name _ => [name]
  | .takeBinding name plain => e.lookedForms name plain
  | .add name _ => [name]

/-- The names that some accesses ask for, each on the element that it meets. -/
def askedAll : Element → List Access → List String
  | _, [] => []
  | e, access :: accesses => e.asked access ++ askedAll (e.access access) accesses

/-- An access does not add what is pending. -/
def Admits (e : Element) : Access → Prop
  | .add name _ => name ∉ e.pending.map Attribute.name
  | _ => True

/-- None of some accesses adds what is pending at that time. -/
def AdmitsAll : Element → List Access → Prop
  | _, [] => True
  | e, access :: accesses => e.Admits access ∧ AdmitsAll (e.access access) accesses

instance decidableAdmits (e : Element) (access : Access) : Decidable (e.Admits access) :=
  match access with
  | .take _ _ | .takeBinding _ _ => .isTrue trivial
  | .add name _ => inferInstanceAs (Decidable (name ∉ e.pending.map Attribute.name))

instance decidableAdmitsAll : (e : Element) → (accesses : List Access) →
    Decidable (e.AdmitsAll accesses)
  | _, [] => .isTrue trivial
  | e, access :: accesses =>
    have := decidableAdmitsAll (e.access access) accesses
    inferInstanceAs (Decidable (e.Admits access ∧ AdmitsAll (e.access access) accesses))

variable {e : Element}

theorem admitsAll_append {accesses more : List Access} :
    e.AdmitsAll (accesses ++ more) ↔
      e.AdmitsAll accesses ∧ (e.accessAll accesses).AdmitsAll more := by
  induction accesses generalizing e with
  | nil => exact (true_and _).symm.to_iff
  | cons access accesses ih => exact (and_congr_right fun _ => ih).trans and_assoc.symm

/-! ## Coherence -/

theorem Coherent.takeBinding (hcoherent : e.Coherent) (name : String) (plain : Bool) :
    (e.takeBinding name plain).2.Coherent :=
  takeBinding_induction hcoherent (fun _ htaken form _ => htaken.take form false) plain

theorem Coherent.addAttribute (hcoherent : e.Coherent) {name : String}
    (hnew : name ∉ e.pending.map Attribute.name) (value : String) :
    (e.addAttribute name value).Coherent where
  nodup := by
    change ((e.pending ++ [_]).map Attribute.name).Nodup
    rw [List.map_append, List.nodup_append]
    refine ⟨hcoherent.nodup, List.nodup_singleton _, ?_⟩
    rintro other hother added hadded rfl
    obtain rfl : other = name := List.mem_singleton.mp hadded
    exact hnew hother
  get?_written a ha := by
    change (e.written.insert name value).get? a.name = some a.value
    rcases List.mem_append.mp ha with ha | ha
    · have hne : a.name ≠ name := fun heq => hnew (heq ▸ List.mem_map_of_mem ha)
      rw [Dict.get?_insert_of_ne _ hne, hcoherent.get?_written a ha]
    · rw [List.mem_singleton.mp ha, Dict.get?_insert_self]

theorem Coherent.access (hcoherent : e.Coherent) {access : Access} (hadmits : e.Admits access) :
    (e.access access).Coherent := by
  cases access with
  | take name forget => exact hcoherent.take name forget
  | takeBinding name plain => exact hcoherent.takeBinding name plain
  | add name value => exact hcoherent.addAttribute hadmits value

theorem Coherent.accessAll (hcoherent : e.Coherent) {accesses : List Access}
    (hadmits : e.AdmitsAll accesses) : (e.accessAll accesses).Coherent := by
  induction accesses generalizing e with
  | nil => exact hcoherent
  | cons access accesses ih => exact ih (hcoherent.access hadmits.1) hadmits.2

/-! ## What is pending afterwards -/

/-- On a coherent element, taking an attribute leaves those with other names. -/
theorem Coherent.pending_take (hcoherent : e.Coherent) (name : String) (forget : Bool) :
    (e.take name forget).2.pending = e.pending.filter fun a => a.name ≠ name := by
  simp only [Element.take]
  split_ifs with hwritten
  · exact Attribute.eraseP_of_nodup hcoherent.nodup name
  · rw [eq_comm, List.filter_eq_self]
    intro a ha
    apply decide_eq_true
    -- What is pending is written.
    rintro rfl
    rw [hcoherent.get?_written a ha] at hwritten
    exact hwritten rfl

/-- Looking for a bound attribute leaves those whose names it does not look at. -/
theorem Coherent.pending_takeBinding (hcoherent : e.Coherent) (name : String) (plain : Bool) :
    (e.takeBinding name plain).2.pending =
      e.pending.filter fun a => a.name ∉ e.lookedForms name plain := by
  rw [takeBinding_snd]
  change Attribute.dropFirst _ _ = _
  rw [Attribute.dropFirst_of_nodup hcoherent.nodup]
  apply List.filter_congr
  intro a ha
  have hwritten : (e.written.get? a.name).isSome := by
    rw [hcoherent.get?_written a ha]
    rfl
  simp [takenForms, hwritten]

theorem Coherent.pending_access (hcoherent : e.Coherent) {access : Access}
    (hadmits : e.Admits access) :
    ∃ added, (e.access access).pending =
        (e.pending.filter fun a => a.name ∉ e.asked access) ++ added ∧
      ∀ a ∈ added, a.name ∈ e.asked access := by
  cases access with
  | take name forget =>
      refine ⟨[], ?_, nofun⟩
      simpa [Element.access, asked] using hcoherent.pending_take name forget
  | takeBinding name plain =>
      refine ⟨[], ?_, nofun⟩
      rw [List.append_nil]
      exact hcoherent.pending_takeBinding name plain
  | add name value =>
      have hothers : (e.pending.filter fun a => a.name ∉ [name]) = e.pending := by
        rw [List.filter_eq_self]
        intro a ha
        have hne : a.name ≠ name := fun heq => hadmits (heq ▸ List.mem_map_of_mem ha)
        simpa using hne
      refine ⟨[{ name, value }], ?_, by simp [asked]⟩
      change e.pending ++ _ = (e.pending.filter fun a => a.name ∉ [name]) ++ _
      rw [hothers]

theorem Coherent.pending_accessAll (hcoherent : e.Coherent) {accesses : List Access}
    (hadmits : e.AdmitsAll accesses) :
    ∃ added, (e.accessAll accesses).pending =
        (e.pending.filter fun a => a.name ∉ e.askedAll accesses) ++ added ∧
      ∀ a ∈ added, a.name ∈ e.askedAll accesses := by
  induction accesses generalizing e with
  | nil => exact ⟨[], by simp [Element.accessAll, askedAll], nofun⟩
  | cons access accesses ih =>
      obtain ⟨added, hpending, hadded⟩ := hcoherent.pending_access hadmits.1
      obtain ⟨more, hlater, hmore⟩ := ih (hcoherent.access hadmits.1) hadmits.2
      -- Of what was added now, the later accesses may take some again.
      refine ⟨(added.filter fun a => a.name ∉ (e.access access).askedAll accesses) ++ more, ?_,
        fun a ha => ?_⟩
      · change ((e.access access).accessAll accesses).pending = _
        rw [hlater, hpending, List.filter_append, List.filter_filter, List.append_assoc]
        congr 1
        apply List.filter_congr
        intro a _
        simp [askedAll, Bool.and_comm]
      · rcases List.mem_append.mp ha with ha | ha
        · exact List.mem_append_left _ (hadded a (List.mem_filter.mp ha).1)
        · exact List.mem_append_right _ (hmore a ha)

/-! ## Texts that are not asked for -/

theorem get?_written_access {name : String} {access : Access} (hout : name ∉ e.asked access) :
    (e.access access).written.get? name = e.written.get? name := by
  cases access with
  | take taken forget => exact get?_written_take_of_ne (by simpa [asked] using hout) forget
  | takeBinding taken plain => rw [Element.access, takeBinding_snd]
  | add added value => exact Dict.get?_insert_of_ne _ (by simpa [asked] using hout) value

theorem get?_written_accessAll {name : String} {accesses : List Access}
    (hout : name ∉ e.askedAll accesses) :
    (e.accessAll accesses).written.get? name = e.written.get? name := by
  induction accesses generalizing e with
  | nil => rfl
  | cons access accesses ih =>
      have hlater := ih fun hname => hout (List.mem_append_right _ hname)
      exact hlater.trans (get?_written_access fun hname => hout (List.mem_append_left _ hname))

/-- **List and dictionary of attributes stay coherent.**  After any accesses to a
new element with distinct attribute names that add nothing still pending, pending
attributes have distinct names and are written with their values, so that a removal
gives the value in the list.  What is then taken is no longer pending, and neither
is any form of a bound attribute that was looked at.  Attributes that the later
ones of the accesses do not ask for keep their places in the list, before all that
was added, and their texts in the dictionary. -/
theorem accesses_keep_attributes_coherent {attributes : List Attribute}
    (hnodup : (attributes.map Attribute.name).Nodup) (tag : String) (parent : Option NodeId)
    (earlier later : List Access)
    (hadmits : (ofAttributes tag attributes parent).AdmitsAll (earlier ++ later)) :
    let middle := (ofAttributes tag attributes parent).accessAll earlier
    let e := middle.accessAll later
    (e.pending.map Attribute.name).Nodup ∧
    (∀ a ∈ e.pending, e.written.get? a.name = some a.value) ∧
    (∀ a ∈ e.pending, ∀ forget, (e.take a.name forget).1 = some a.value) ∧
    (∀ name forget, name ∉ (e.take name forget).2.pending.map Attribute.name) ∧
    (∀ name plain, ∀ form ∈ e.lookedForms name plain,
      form ∉ (e.takeBinding name plain).2.pending.map Attribute.name) ∧
    (∃ added, e.pending =
        (middle.pending.filter fun a => a.name ∉ middle.askedAll later) ++ added ∧
      ∀ a ∈ added, a.name ∈ middle.askedAll later) ∧
    ∀ name, name ∉ middle.askedAll later → e.written.get? name = middle.written.get? name := by
  intro middle e
  have hstart := coherent_ofAttributes hnodup tag parent
  obtain ⟨hearlier, hlater⟩ := admitsAll_append.mp hadmits
  have hmiddle : middle.Coherent := hstart.accessAll hearlier
  have he : e.Coherent := hmiddle.accessAll hlater
  refine ⟨he.nodup, he.get?_written, fun a ha _ => he.get?_written a ha, he.not_mem_pending_take,
    fun name plain form hform hmem => ?_, hmiddle.pending_accessAll hlater,
    fun name => get?_written_accessAll⟩
  rw [he.pending_takeBinding] at hmem
  obtain ⟨a, ha, rfl⟩ := List.mem_map.mp hmem
  exact of_decide_eq_true (List.mem_filter.mp ha).2 hform

/-- An empty colon form and a long one are taken, the title is forgotten and added
again behind the other two attributes, which keep their places. -/
theorem accesses_keep_attributes_coherent_readded :
    let attributes : List Attribute :=
      [⟨"id", "a", none⟩, ⟨":type", "", none⟩, ⟨"title", "t", none⟩, ⟨"v-bind:type", "b", none⟩,
        ⟨"type", "c", none⟩]
    let accesses : List Access := [.takeBinding "type" true, .take "title" true, .add "title" "u"]
    let e := (ofAttributes "p" attributes none).accessAll accesses
    (ofAttributes "p" attributes none).AdmitsAll accesses ∧
    e.pending.map Attribute.name = ["id", "type", "title"] ∧
    ∀ a ∈ e.pending, e.written.get? a.name = some a.value := by
  intro attributes accesses e
  have hadmits : (ofAttributes "p" attributes none).AdmitsAll ([] ++ accesses) :=
    by decide +kernel
  have hkept := accesses_keep_attributes_coherent (by decide) "p" none [] accesses hadmits
  exact ⟨hadmits, by decide +kernel, hkept.2.1⟩

end Element

end Stencil
