import Stencil.Proofs.Tree.Attributes

/-!
# Which attributes are taken

Looking for an attribute that may be bound takes those forms of it off the list
that it looks at, as far as the element has them: `Element.takenForms` names them.
So a look-up drops the first attribute under each of some names, and what a
whole series of look-ups leaves behind is `Attribute.dropFirst` of all the names.
-/

namespace Stencil

/-! ## Dropping attributes by name -/

namespace Attribute

/-- Some attributes without the first one under each of some names. -/
def dropFirst (names : List String) (attributes : List Attribute) : List Attribute :=
  names.foldl (fun attributes name => attributes.eraseP (·.name == name)) attributes

variable {names : List String} {attributes : List Attribute}

theorem dropFirst_append (names more : List String) (attributes : List Attribute) :
    dropFirst (names ++ more) attributes = dropFirst more (dropFirst names attributes) :=
  List.foldl_append

theorem dropFirst_sublist (names : List String) (attributes : List Attribute) :
    (dropFirst names attributes).Sublist attributes := by
  induction names generalizing attributes with
  | nil => exact List.Sublist.refl _
  | cons name names ih => exact (ih _).trans List.eraseP_sublist

/-- All attributes stay exactly if none has one of the names. -/
theorem dropFirst_eq_self_iff :
    dropFirst names attributes = attributes ↔ ∀ a ∈ attributes, a.name ∉ names := by
  induction names with
  | nil => simp [dropFirst]
  | cons name names ih =>
      have hcons : dropFirst (name :: names) attributes =
          dropFirst names (attributes.eraseP (·.name == name)) := rfl
      constructor
      · intro hself
        -- What one name drops does not come back, so that name dropped nothing.
        have hkept : attributes.eraseP (·.name == name) = attributes := by
          apply List.eraseP_sublist.antisymm
          nth_rewrite 1 [← hself]
          exact dropFirst_sublist names _
        rw [hcons, hkept] at hself
        intro a ha hmem
        rcases List.mem_cons.mp hmem with hname | hmem
        · exact List.eraseP_eq_self_iff.mp hkept a ha (beq_iff_eq.mpr hname)
        · exact ih.mp hself a ha hmem
      · intro hnone
        have hkept : attributes.eraseP (·.name == name) = attributes := by
          apply List.eraseP_of_forall_not
          intro a ha hname
          exact hnone a ha (List.mem_cons.mpr (.inl (beq_iff_eq.mp hname)))
        rw [hcons, hkept]
        exact ih.mpr fun a ha hmem => hnone a ha (List.mem_cons_of_mem _ hmem)

theorem filter_eraseP_name (selects : String → Bool) (name : String)
    (attributes : List Attribute) :
    (attributes.eraseP (·.name == name)).filter (fun a => selects a.name) =
      if selects name then (attributes.filter fun a => selects a.name).eraseP (·.name == name)
      else attributes.filter fun a => selects a.name := by
  induction attributes with
  | nil => simp
  | cons a attributes ih =>
      by_cases ha : a.name = name
      · subst ha
        cases hname : selects a.name with
        | true => simp [hname]
        | false => simp [hname]
      · rw [List.eraseP_cons_of_neg (by simp [ha])]
        cases hname : selects a.name with
        | true =>
            simp only [List.filter_cons, hname, if_true, ih]
            split_ifs
            · rw [List.eraseP_cons_of_neg (by simp [ha])]
            · rfl
        | false => simp only [List.filter_cons, hname, Bool.false_eq_true, if_false, ih]

/-- Among the attributes with names of one class, only names of this class drop
any. -/
theorem filter_dropFirst (selects : String → Bool) (names : List String)
    (attributes : List Attribute) :
    (dropFirst names attributes).filter (fun a => selects a.name) =
      dropFirst (names.filter selects) (attributes.filter fun a => selects a.name) := by
  induction names generalizing attributes with
  | nil => rfl
  | cons name names ih =>
      have hcons : dropFirst (name :: names) attributes =
          dropFirst names (attributes.eraseP (·.name == name)) := rfl
      rw [hcons, ih, filter_eraseP_name, List.filter_cons]
      split_ifs
      · rfl
      · rfl

theorem eraseP_of_nodup (hnodup : (attributes.map Attribute.name).Nodup) (name : String) :
    attributes.eraseP (·.name == name) = attributes.filter fun a => a.name ≠ name := by
  induction attributes with
  | nil => rfl
  | cons a attributes ih =>
      obtain ⟨hfresh, hnodup⟩ := List.nodup_cons.mp hnodup
      by_cases ha : a.name = name
      · subst ha
        have hothers : ∀ b ∈ attributes, b.name ≠ a.name := by
          intro b hb hname
          exact hfresh (List.mem_map.mpr ⟨b, hb, hname⟩)
        rw [List.eraseP_cons_of_pos (by simp), List.filter_cons_of_neg (by simp), eq_comm,
          List.filter_eq_self]
        simpa using hothers
      · rw [List.eraseP_cons_of_neg (by simp [ha]), List.filter_cons_of_pos (by simp [ha]),
          ih hnodup]

/-- If names are distinct, no attribute under one of the names is left. -/
theorem dropFirst_of_nodup (hnodup : (attributes.map Attribute.name).Nodup)
    (names : List String) :
    dropFirst names attributes = attributes.filter fun a => a.name ∉ names := by
  induction names generalizing attributes with
  | nil => simp [dropFirst]
  | cons name names ih =>
      have hnodup' : ((attributes.eraseP (·.name == name)).map Attribute.name).Nodup :=
        hnodup.sublist (List.eraseP_sublist.map _)
      change dropFirst names (attributes.eraseP (·.name == name)) = _
      rw [ih hnodup', eraseP_of_nodup hnodup, List.filter_filter]
      apply List.filter_congr
      intro a _
      simp [Bool.and_comm]

/-- The three forms of the name of an attribute that may be bound. -/
def forms (name : String) : List String :=
  [":" ++ name, "v-bind:" ++ name, name]

end Attribute

/-! ## Taking is dropping -/

namespace Element

variable {e x y : Element} {name : String} {plain : Bool}

/-- Taking some attributes one after another drops the first one under each name
that is written. -/
theorem foldl_take (e : Element) (names : List String) :
    names.foldl (fun e name => (e.take name false).2) e =
      { e with
        pending := Attribute.dropFirst (names.filter fun name => (e.written.get? name).isSome)
          e.pending } := by
  induction names generalizing e with
  | nil => rfl
  | cons name names ih =>
      rw [List.foldl_cons, ih]
      cases hname : (e.written.get? name).isSome with
      | true =>
          simp only [take, hname, if_true, List.filter_cons]
          rfl
      | false => simp only [take, hname, Bool.false_eq_true, if_false, List.filter_cons]

/-- The forms that are looked at: the colon form alone unless it is empty, then the
long one too, and the plain one if it is asked for and there is no long one. -/
def lookedForms (e : Element) (name : String) (plain : Bool) : List String :=
  if (e.written.nonEmpty? (":" ++ name)).isSome then [":" ++ name]
  else if (e.written.get? ("v-bind:" ++ name)).isSome || !plain then
    [":" ++ name, "v-bind:" ++ name]
  else Attribute.forms name

/-- The forms that looking for an attribute takes. -/
def takenForms (e : Element) (name : String) (plain : Bool) : List String :=
  (e.lookedForms name plain).filter fun form => (e.written.get? form).isSome

theorem takeBinding_snd (e : Element) (name : String) (plain : Bool) :
    (e.takeBinding name plain).2 =
      { e with pending := Attribute.dropFirst (e.takenForms name plain) e.pending } := by
  have hshort : (e.take (":" ++ name) false).1.filter (fun value => !value.isEmpty) =
      e.written.nonEmpty? (":" ++ name) := rfl
  have hlong : ((e.take (":" ++ name) false).2.take ("v-bind:" ++ name) false).1 =
      e.written.get? ("v-bind:" ++ name) := rfl
  simp only [takeBinding, takenForms, lookedForms, hshort, hlong]
  cases e.written.nonEmpty? (":" ++ name) with
  | some code => exact foldl_take e [":" ++ name]
  | none =>
      cases e.written.get? ("v-bind:" ++ name) with
      | some code => exact foldl_take e [":" ++ name, "v-bind:" ++ name]
      | none =>
          cases plain with
          | true => exact foldl_take e (Attribute.forms name)
          | false => exact foldl_take e [":" ++ name, "v-bind:" ++ name]

theorem lookedForms_subset (e : Element) (name : String) (plain : Bool) :
    e.lookedForms name plain ⊆ Attribute.forms name := by
  unfold lookedForms
  split_ifs
  · simp [Attribute.forms]
  · simp [Attribute.forms]
  · exact List.Subset.refl _

theorem takenForms_subset (e : Element) (name : String) (plain : Bool) :
    e.takenForms name plain ⊆ Attribute.forms name := by
  intro form hform
  exact e.lookedForms_subset name plain (List.mem_filter.mp hform).1

/-- Which forms are taken depends on the texts of the three forms only. -/
theorem takenForms_congr
    (hforms : ∀ form ∈ Attribute.forms name, x.written.get? form = y.written.get? form)
    (plain : Bool) :
    x.takenForms name plain = y.takenForms name plain := by
  have hshort := hforms (":" ++ name) (by simp [Attribute.forms])
  have hlong := hforms ("v-bind:" ++ name) (by simp [Attribute.forms])
  have hlooked : x.lookedForms name plain = y.lookedForms name plain := by
    rw [lookedForms, lookedForms, Dict.nonEmpty?, Dict.nonEmpty?, hshort, hlong]
  unfold takenForms
  rw [hlooked]
  apply List.filter_congr
  intro form hform
  rw [hforms form (y.lookedForms_subset name plain hform)]

/-- So does what is found. -/
theorem takeBinding_fst_congr
    (hforms : ∀ form ∈ Attribute.forms name, x.written.get? form = y.written.get? form)
    (plain : Bool) :
    (x.takeBinding name plain).1 = (y.takeBinding name plain).1 := by
  rw [takeBinding_fst, takeBinding_fst, Dict.nonEmpty?, Dict.nonEmpty?,
    hforms (":" ++ name) (by simp [Attribute.forms]),
    hforms ("v-bind:" ++ name) (by simp [Attribute.forms]),
    hforms name (by simp [Attribute.forms])]

end Element

end Stencil
