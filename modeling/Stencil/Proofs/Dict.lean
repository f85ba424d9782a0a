import Mathlib.Data.List.Nodup
import Stencil.Dict

/-!
# Look-ups in dictionaries

What `get?` finds after each operation.  Inserting changes the value of one
name; erasing a name forgets it as long as names are distinct; and a dictionary
made from pairs with distinct names has just these pairs, in their order.
-/

namespace Stencil.Dict

variable {α : Type}

@[simp] theorem get?_nil (name : String) : (⟨[]⟩ : Dict α).get? name = none := rfl

theorem lookup_cons_eq_ite (key other : String) (value : α) (entries : List (String × α)) :
    ((key, value) :: entries).lookup other =
      if other = key then some value else entries.lookup other := by
  rw [List.lookup_cons]
  by_cases hother : other = key
  · simp [hother]
  · rw [beq_false_of_ne hother, if_neg hother]

/-- If names are distinct, a pair is found under its name. -/
theorem lookup_of_mem {entries : List (String × α)} (hnodup : (entries.map Prod.fst).Nodup)
    {name : String} {value : α} (hentry : (name, value) ∈ entries) :
    entries.lookup name = some value := by
  induction entries with
  | nil => exact absurd hentry List.not_mem_nil
  | cons entry entries ih =>
      obtain ⟨key, old⟩ := entry
      obtain ⟨hfresh, hnodup⟩ := List.nodup_cons.mp hnodup
      rw [lookup_cons_eq_ite]
      rcases List.mem_cons.mp hentry with heq | htail
      · obtain ⟨rfl, rfl⟩ := Prod.mk.inj heq
        rw [if_pos rfl]
      · rw [if_neg, ih hnodup htail]
        rintro rfl
        exact hfresh (List.mem_map.mpr ⟨_, htail, rfl⟩)

theorem mem_of_lookup {entries : List (String × α)} {name : String} {value : α}
    (hlookup : entries.lookup name = some value) : (name, value) ∈ entries := by
  obtain ⟨before, after, rfl, -⟩ := List.lookup_eq_some_iff.mp hlookup
  exact List.mem_append_cons_self

theorem lookup_insertEntry (name other : String) (value : α) (entries : List (String × α)) :
    (insertEntry name value entries).lookup other =
      if other = name then some value else entries.lookup other := by
  induction entries with
  | nil => rw [insertEntry, lookup_cons_eq_ite]
  | cons entry entries ih =>
      obtain ⟨key, old⟩ := entry
      by_cases hkey : key = name
      · rw [insertEntry, if_pos hkey, lookup_cons_eq_ite, lookup_cons_eq_ite, hkey]
        split_ifs <;> rfl
      · rw [insertEntry, if_neg hkey, lookup_cons_eq_ite, lookup_cons_eq_ite, ih]
        by_cases hother : other = key
        · rw [if_pos hother, if_pos hother, if_neg fun hname => hkey (hother.symm.trans hname)]
        · rw [if_neg hother, if_neg hother]

theorem get?_insert (d : Dict α) (name other : String) (value : α) :
    (d.insert name value).get? other = if other = name then some value else d.get? other :=
  lookup_insertEntry name other value d.entries

@[simp] theorem get?_insert_self (d : Dict α) (name : String) (value : α) :
    (d.insert name value).get? name = some value := by
  rw [get?_insert, if_pos rfl]

theorem get?_insert_of_ne (d : Dict α) {name other : String} (hne : other ≠ name) (value : α) :
    (d.insert name value).get? other = d.get? other := by
  rw [get?_insert, if_neg hne]

/-- A name has no value exactly if it is not among the names. -/
theorem get?_eq_none_iff {d : Dict α} {name : String} : d.get? name = none ↔ name ∉ d.names := by
  obtain ⟨entries⟩ := d
  induction entries with
  | nil => simp [names]
  | cons entry entries ih =>
      obtain ⟨key, value⟩ := entry
      change ((key, value) :: entries).lookup name = none ↔
        name ∉ ((key, value) :: entries).map Prod.fst
      rw [lookup_cons_eq_ite, List.map_cons, List.mem_cons, not_or]
      split_ifs with hname
      · simp [hname]
      · simp only [hname, not_false_eq_true, true_and]
        exact ih

/-- If names are distinct, look-ups do not depend on the order of the entries. -/
theorem get?_eq_of_perm {first second : Dict α} (hperm : first.entries.Perm second.entries)
    (hnodup : second.names.Nodup) (name : String) : first.get? name = second.get? name := by
  have hnames : first.names.Perm second.names := hperm.map Prod.fst
  cases hget : first.get? name with
  | none =>
      rw [get?_eq_none_iff, hnames.mem_iff, ← get?_eq_none_iff] at hget
      exact hget.symm
  | some value =>
      exact (lookup_of_mem hnodup (hperm.mem_iff.mp (mem_of_lookup hget))).symm

theorem mem_names_iff {d : Dict α} {name : String} : name ∈ d.names ↔ d.get? name ≠ none := by
  rw [ne_eq, get?_eq_none_iff, not_not]

/-! ## Erasing -/

theorem lookup_eraseP_of_ne {name other : String} (hne : other ≠ name)
    (entries : List (String × α)) :
    (entries.eraseP fun entry => entry.1 == name).lookup other = entries.lookup other := by
  induction entries with
  | nil => rfl
  | cons entry entries ih =>
      obtain ⟨key, value⟩ := entry
      rw [List.eraseP_cons, lookup_cons_eq_ite]
      by_cases hkey : key = name
      · subst hkey
        rw [beq_self_eq_true, cond_true, if_neg hne]
      · rw [beq_false_of_ne hkey, cond_false, lookup_cons_eq_ite, ih]

theorem get?_erase_of_ne (d : Dict α) {name other : String} (hne : other ≠ name) :
    (d.erase name).get? other = d.get? other :=
  lookup_eraseP_of_ne hne d.entries

theorem names_erase_sublist (d : Dict α) (name : String) :
    (d.erase name).names.Sublist d.names :=
  List.eraseP_sublist.map _

theorem names_erase (d : Dict α) (name : String) :
    (d.erase name).names = d.names.erase name := by
  rw [names, names, erase, List.erase_eq_eraseP', List.eraseP_map]
  rfl

/-- The names of a dictionary after erasing one are the names without it. -/
theorem mem_names_erase {d : Dict α} (hnodup : d.names.Nodup) {name other : String} :
    other ∈ (d.erase name).names ↔ other ∈ d.names ∧ other ≠ name := by
  rw [names_erase, hnodup.mem_erase_iff, and_comm]

/-! ## Dictionaries made from pairs -/

theorem mem_names_insert {d : Dict α} {name other : String} {value : α} :
    other ∈ (d.insert name value).names ↔ other = name ∨ other ∈ d.names :=
  mem_insertEntry_names

theorem mem_names_insertAll {d : Dict α} {pairs : List (String × α)} {name : String} :
    name ∈ (d.insertAll pairs).names ↔ name ∈ d.names ∨ name ∈ pairs.map Prod.fst := by
  induction pairs generalizing d with
  | nil => simp [insertAll]
  | cons pair pairs ih =>
      change name ∈ ((d.insert pair.1 pair.2).insertAll pairs).names ↔ _
      rw [ih, mem_names_insert, List.map_cons, List.mem_cons]
      tauto

theorem nodup_names_insertAll {d : Dict α} (hnodup : d.names.Nodup) (pairs : List (String × α)) :
    (d.insertAll pairs).names.Nodup := by
  induction pairs generalizing d with
  | nil => exact hnodup
  | cons pair pairs ih => exact ih (nodup_insertEntry hnodup)

theorem get?_insertAll_of_not_mem {d : Dict α} {pairs : List (String × α)} {name : String}
    (hfresh : name ∉ pairs.map Prod.fst) : (d.insertAll pairs).get? name = d.get? name := by
  induction pairs generalizing d with
  | nil => rfl
  | cons pair pairs ih =>
      rw [List.map_cons, List.mem_cons, not_or] at hfresh
      change ((d.insert pair.1 pair.2).insertAll pairs).get? name = _
      rw [ih hfresh.2, get?_insert_of_ne d hfresh.1]

/-- Names whose values do not depend on their places have these values, however
often and in whatever order they are inserted. -/
theorem get?_insertAll_map (d : Dict α) (keys : List String) (f : String → α) (name : String) :
    (d.insertAll (keys.map fun key => (key, f key))).get? name =
      if name ∈ keys then some (f name) else d.get? name := by
  induction keys generalizing d with
  | nil => rfl
  | cons key keys ih =>
      change ((d.insert key (f key)).insertAll (keys.map fun key => (key, f key))).get? name = _
      rw [ih, get?_insert]
      by_cases hkey : name = key
      · simp [hkey]
      · simp [hkey]

/-- Of some pairs, the last one with a name gives its value; the dictionary is
asked for names that they lack. -/
theorem get?_insertAll (d : Dict α) (pairs : List (String × α)) (name : String) :
    (d.insertAll pairs).get? name = ((ofList pairs).get? name).or (d.get? name) := by
  induction pairs generalizing d with
  | nil => rfl
  | cons pair pairs ih =>
      change ((d.insert pair.1 pair.2).insertAll pairs).get? name =
        (((empty.insert pair.1 pair.2).insertAll pairs).get? name).or _
      rw [ih, ih (empty.insert _ _), get?_insert, get?_insert, Option.or_assoc]
      split_ifs
      · rfl
      · rfl

theorem get?_ofList_append (first second : List (String × α)) (name : String) :
    (ofList (first ++ second)).get? name =
      ((ofList second).get? name).or ((ofList first).get? name) := by
  rw [← get?_insertAll, ofList, insertAll, List.foldl_append]
  rfl

@[simp] theorem mem_names_ofList {pairs : List (String × α)} {name : String} :
    name ∈ (ofList pairs).names ↔ name ∈ pairs.map Prod.fst := by
  rw [ofList, mem_names_insertAll]
  simp [empty, names]

theorem nodup_names_ofList (pairs : List (String × α)) : (ofList pairs).names.Nodup :=
  nodup_names_insertAll (d := empty) List.nodup_nil pairs

/-- A name that is new comes last. -/
theorem insertEntry_of_not_mem {name : String} {value : α} {entries : List (String × α)}
    (hfresh : name ∉ entries.map Prod.fst) :
    insertEntry name value entries = entries ++ [(name, value)] := by
  induction entries with
  | nil => rfl
  | cons entry entries ih =>
      rw [List.map_cons, List.mem_cons, not_or] at hfresh
      rw [insertEntry, if_neg (Ne.symm hfresh.1), ih hfresh.2, List.cons_append]

theorem insertAll_of_nodup {d : Dict α} {pairs : List (String × α)}
    (hnodup : (d.names ++ pairs.map Prod.fst).Nodup) :
    d.insertAll pairs = ⟨d.entries ++ pairs⟩ := by
  induction pairs generalizing d with
  | nil => rw [List.append_nil]; rfl
  | cons pair pairs ih =>
      have hfresh : pair.1 ∉ d.entries.map Prod.fst := fun hmem =>
        (List.nodup_append.mp hnodup).2.2 _ hmem _ List.mem_cons_self rfl
      have hinsert : d.insert pair.1 pair.2 = ⟨d.entries ++ [pair]⟩ := by
        rw [insert, insertEntry_of_not_mem hfresh]
      change (d.insert pair.1 pair.2).insertAll pairs = _
      rw [hinsert, ih, List.append_assoc, List.singleton_append]
      simpa [names] using hnodup

/-- A dictionary with distinct names is made from its own entries. -/
theorem ofList_entries {d : Dict α} (hnodup : d.names.Nodup) : ofList d.entries = d := by
  rw [ofList, insertAll_of_nodup]
  · rfl
  · exact hnodup

/-- If names are distinct, looking up in the dictionary is looking up among the
pairs. -/
theorem get?_ofList {pairs : List (String × α)} (hnodup : (pairs.map Prod.fst).Nodup)
    (name : String) : (ofList pairs).get? name = pairs.lookup name := by
  suffices h : ∀ d : Dict α, (d.insertAll pairs).get? name = (pairs.lookup name).or (d.get? name) by
    rw [ofList, h, empty, get?_nil, Option.or_none]
  induction pairs with
  | nil => exact fun d => rfl
  | cons pair pairs ih =>
      intro d
      obtain ⟨key, value⟩ := pair
      obtain ⟨hfresh, hnodup⟩ := List.nodup_cons.mp hnodup
      change ((d.insert key value).insertAll pairs).get? name = _
      rw [lookup_cons_eq_ite]
      split_ifs with hname
      · subst hname
        rw [get?_insertAll_of_not_mem hfresh, get?_insert_self, Option.some_or]
      · rw [ih hnodup, get?_insert_of_ne d hname]

end Stencil.Dict
