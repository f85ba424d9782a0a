import Mathlib.Data.List.Basic
import Stencil.Proofs.Dict
import Stencil.Toml.Basic

/-!
# Layers of configuration values

Layers are laid over one another entry by entry, from the lowest to the highest.
Here the entries of all layers stand in one list, the highest first, and
`merged` is the table that they make.  What it has under a name is then read off
the list (`lookup_merged`): the first entry with the name decides.  If that is a
table, its entries and those of the tables below it make up the table that is
found, down to the first value that is not a table (`under`).
-/

namespace Stencil.Toml

variable {entries above below : List (String × Toml)} {name : String}

/-- The table that some entries make, the highest entry first. -/
def merged (entries : List (String × Toml)) : List (String × Toml) :=
  layerEntries [] entries.reverse

/-- The entries of the tables under a name, the highest first.  A value that is
not a table hides all that is below it. -/
def under (name : String) : List (String × Toml) → List (String × Toml)
  | [] => []
  | (key, value) :: below =>
    if key = name then
      match value with
      | .table entries => entries.reverse ++ under name below
      | _ => []
    else under name below

/-- The value of a name: the highest one, or the table that it makes with those
below it. -/
def highest? (entries : List (String × Toml)) (name : String) : Option Toml :=
  match entries.lookup name with
  | some (.table _) => some (.table (merged (under name entries)))
  | value => value

/-! ## Laying entries over others -/

theorem layerEntries_append (base first second : List (String × Toml)) :
    layerEntries base (first ++ second) = layerEntries (layerEntries base first) second := by
  induction first generalizing base with
  | nil => rw [List.nil_append, layerEntries]
  | cons entry first ih =>
      obtain ⟨key, value⟩ := entry
      rw [List.cons_append, layerEntries, layerEntries, ih]

theorem foldl_layerEntries (base : List (String × Toml)) (layers : List (List (String × Toml))) :
    layers.foldl layerEntries base = layerEntries base layers.flatten := by
  induction layers generalizing base with
  | nil => rw [List.flatten_nil, layerEntries, List.foldl_nil]
  | cons layer layers ih => rw [List.foldl_cons, ih, List.flatten_cons, layerEntries_append]

theorem merged_append (above below : List (String × Toml)) :
    merged (above ++ below) = layerEntries (merged below) above.reverse := by
  rw [merged, List.reverse_append, layerEntries_append, merged]

theorem merged_cons (key : String) (value : Toml) (below : List (String × Toml)) :
    merged ((key, value) :: below) =
      Dict.insertEntry key (layer ((merged below).lookup key) value) (merged below) := by
  rw [← List.singleton_append, merged_append, List.reverse_singleton, layerEntries, layerEntries]

theorem nodup_layerEntries (base entries : List (String × Toml))
    (hbase : (base.map Prod.fst).Nodup) : ((layerEntries base entries).map Prod.fst).Nodup := by
  induction entries generalizing base with
  | nil => rwa [layerEntries]
  | cons entry entries ih =>
      obtain ⟨key, value⟩ := entry
      rw [layerEntries]
      exact ih _ (Dict.nodup_insertEntry hbase)

theorem nodup_merged (entries : List (String × Toml)) : ((merged entries).map Prod.fst).Nodup :=
  nodup_layerEntries [] _ List.nodup_nil

theorem mem_names_merged : name ∈ (merged entries).map Prod.fst ↔ name ∈ entries.map Prod.fst := by
  induction entries with
  | nil => rw [merged, List.reverse_nil, layerEntries]
  | cons entry below ih =>
      obtain ⟨key, value⟩ := entry
      rw [merged_cons, Dict.mem_insertEntry_names, ih, List.map_cons, List.mem_cons]

/-- The table has a single entry if all entries have one name. -/
theorem merged_eq_singleton_iff :
    (∃ value, merged entries = [(name, value)]) ↔
      entries ≠ [] ∧ ∀ entry ∈ entries, entry.1 = name := by
  constructor
  · rintro ⟨value, hmerged⟩
    have hnames (other : String) : other ∈ entries.map Prod.fst ↔ other = name := by
      rw [← mem_names_merged, hmerged, List.map_singleton, List.mem_singleton]
    refine ⟨?_, fun entry hentry => (hnames _).mp (List.mem_map_of_mem hentry)⟩
    rintro rfl
    exact List.not_mem_nil ((hnames name).mpr rfl)
  · rintro ⟨hne, hall⟩
    have hname : ∀ entry ∈ merged entries, entry.1 = name := by
      intro entry hentry
      obtain ⟨other, hother, heq⟩ :=
        List.mem_map.mp (mem_names_merged.mp (List.mem_map_of_mem hentry))
      exact heq ▸ hall other hother
    have hnodup := nodup_merged entries
    cases hmerged : merged entries with
    | nil =>
        obtain ⟨entry, hentry⟩ := List.exists_mem_of_ne_nil _ hne
        have hmem := mem_names_merged.mpr (List.mem_map_of_mem (f := Prod.fst) hentry)
        rw [hmerged] at hmem
        exact absurd hmem List.not_mem_nil
    | cons first rest =>
        rw [hmerged] at hname hnodup
        obtain rfl := hname first List.mem_cons_self
        cases rest with
        | nil => exact ⟨first.2, rfl⟩
        | cons second rest =>
            have hsecond := hname second (List.mem_cons_of_mem _ List.mem_cons_self)
            simp [hsecond] at hnodup

/-! ## Look-ups -/

theorem under_cons_of_ne {key : String} (hne : key ≠ name) (value : Toml) :
    under name ((key, value) :: below) = under name below := by
  rw [under.eq_def]
  exact if_neg hne

theorem under_cons_table (name : String) (entries below : List (String × Toml)) :
    under name ((name, .table entries) :: below) = entries.reverse ++ under name below := by
  rw [under, if_pos rfl]

/-- There are no tables under a name whose highest value is not a table. -/
theorem under_eq_nil (hlookup : ∀ inner, entries.lookup name ≠ some (.table inner)) :
    under name entries = [] := by
  induction entries with
  | nil => rfl
  | cons entry below ih =>
      obtain ⟨key, value⟩ := entry
      rw [Dict.lookup_cons_eq_ite] at hlookup
      by_cases hkey : key = name
      · rw [if_pos hkey.symm] at hlookup
        unfold under
        rw [if_pos hkey]
        cases value with
        | table inner => exact absurd rfl (hlookup inner)
        | _ => rfl
      · rw [if_neg (Ne.symm hkey)] at hlookup
        rw [under_cons_of_ne hkey, ih hlookup]

theorem highest?_of_table {inner : List (String × Toml)}
    (hlookup : entries.lookup name = some (.table inner)) :
    highest? entries name = some (.table (merged (under name entries))) := by
  rw [highest?, hlookup]

theorem highest?_of_not_table (hlookup : ∀ inner, entries.lookup name ≠ some (.table inner)) :
    highest? entries name = entries.lookup name := by
  unfold highest?
  split
  · next inner hinner => exact absurd hinner (hlookup inner)
  · rfl

/-- A table is laid over what the tables below it make. -/
theorem layer_highest?_table (name : String) (entries below : List (String × Toml)) :
    layer (highest? below name) (.table entries) =
      .table (merged (entries.reverse ++ under name below)) := by
  rw [merged_append, List.reverse_reverse]
  by_cases htable : ∃ inner, below.lookup name = some (.table inner)
  · obtain ⟨inner, hinner⟩ := htable
    rw [highest?_of_table hinner, layer]
  · push Not at htable
    rw [under_eq_nil htable, highest?_of_not_table htable, layer]
    · rfl
    · exact htable

/-- What the table has under a name. -/
theorem lookup_merged (entries : List (String × Toml)) (name : String) :
    (merged entries).lookup name = highest? entries name := by
  induction entries with
  | nil => rw [merged, List.reverse_nil, layerEntries]; rfl
  | cons entry below ih =>
      obtain ⟨key, value⟩ := entry
      -- The highest entry is laid over what the others have under its name.
      rw [merged_cons, Dict.lookup_insertEntry]
      by_cases hname : name = key
      · subst hname
        have hlookup : ((name, value) :: below).lookup name = some value := by
          rw [Dict.lookup_cons_eq_ite, if_pos rfl]
        rw [if_pos rfl, ih]
        cases value with
        | table inner => rw [layer_highest?_table, ← under_cons_table, highest?_of_table hlookup]
        | _ => rw [layer, highest?, hlookup]
      · rw [if_neg hname, ih]
        unfold highest?
        rw [Dict.lookup_cons_eq_ite, if_neg hname, under_cons_of_ne (Ne.symm hname)]

/-! ## Tables under a name -/

/-- Wherever a name occurs, its value is a table. -/
def OnlyTables (entries : List (String × Toml)) (name : String) : Prop :=
  ∀ value, (name, value) ∈ entries → ∃ inner, value = .table inner

/-- Tables that nothing hides are put together. -/
theorem under_append (htables : OnlyTables above name)
    (below : List (String × Toml)) :
    under name (above ++ below) = under name above ++ under name below := by
  induction above with
  | nil => rfl
  | cons entry above ih =>
      obtain ⟨key, value⟩ := entry
      have hrest := ih fun value hvalue => htables value (List.mem_cons_of_mem _ hvalue)
      rw [List.cons_append]
      by_cases hkey : key = name
      · subst hkey
        obtain ⟨inner, rfl⟩ := htables value List.mem_cons_self
        rw [under_cons_table, under_cons_table, hrest, List.append_assoc]
      · rw [under_cons_of_ne hkey, under_cons_of_ne hkey, hrest]

theorem OnlyTables.append (habove : OnlyTables above name) (hbelow : OnlyTables below name) :
    OnlyTables (above ++ below) name := by
  intro value hvalue
  rcases List.mem_append.mp hvalue with hvalue | hvalue
  · exact habove value hvalue
  · exact hbelow value hvalue

end Stencil.Toml
