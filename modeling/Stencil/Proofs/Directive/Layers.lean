import Mathlib.Data.List.Infix
import Stencil.Proofs.Dict.History
import Stencil.Proofs.Options

/-!
# Layers of directives

A map of directives is a chain of layers, and each layer is made by inserting
some pairs.  `DirectiveMap.chain` builds such a chain, of whatever depth, and this
file says what is found in it.

* A name has the value that was inserted last under it into the innermost layer
  that has the name (`FoundIn`).
* The names listed are those that are found, in increasing order and each once.
  Every layer puts its own names among those of the layers below, where many may
  be there already.
* The maps below an overlay are the chains without its inner layers, whatever was
  inserted above them.
-/

namespace Stencil

/-! ## Names in increasing order -/

theorem mem_insertName {name other : String} {names : List String} :
    other ∈ insertName name names ↔ other = name ∨ other ∈ names := by
  induction names with
  | nil => simp [insertName]
  | cons n names ih =>
      rw [insertName]
      split_ifs with hlt heq
      · rw [List.mem_cons]
      · subst heq
        simp
      · rw [List.mem_cons, ih, List.mem_cons, or_left_comm]

theorem pairwise_insertName {names : List String} (hnames : names.Pairwise (· < ·))
    (name : String) : (insertName name names).Pairwise (· < ·) := by
  induction names with
  | nil => exact List.pairwise_singleton _ _
  | cons n names ih =>
      obtain ⟨hleast, hrest⟩ := List.pairwise_cons.mp hnames
      rw [insertName]
      split_ifs with hlt heq
      · refine List.pairwise_cons.mpr ⟨fun other hother => ?_, hnames⟩
        rcases List.mem_cons.mp hother with rfl | hother
        · exact hlt
        · exact String.lt_trans hlt (hleast other hother)
      · exact hnames
      · have hgreater : n < name :=
          ((Std.lt_trichotomy name n).resolve_left hlt).resolve_left heq
        refine List.pairwise_cons.mpr ⟨fun other hother => ?_, ih hrest⟩
        rcases mem_insertName.mp hother with rfl | hother
        · exact hgreater
        · exact hleast other hother

theorem mem_foldr_insertName {added names : List String} {name : String} :
    name ∈ added.foldr insertName names ↔ name ∈ added ∨ name ∈ names := by
  induction added with
  | nil => simp
  | cons first added ih => rw [List.foldr_cons, mem_insertName, ih, List.mem_cons, or_assoc]

theorem pairwise_foldr_insertName {names : List String} (hnames : names.Pairwise (· < ·))
    (added : List String) : (added.foldr insertName names).Pairwise (· < ·) := by
  induction added with
  | nil => exact hnames
  | cons first added ih => exact pairwise_insertName ih first

namespace DirectiveMap

variable {α : Type}

theorem pairwise_names (m : DirectiveMap α) : m.names.Pairwise (· < ·) := by
  induction m with
  | flat own => exact pairwise_foldr_insertName List.Pairwise.nil own.names
  | layered own base ih => exact pairwise_foldr_insertName ih own.names

/-- The names listed are those that are found. -/
theorem mem_names_iff (m : DirectiveMap α) (name : String) :
    name ∈ m.names ↔ (m.get? name).isSome := by
  induction m with
  | flat own =>
      rw [names, mem_foldr_insertName, own.mem_names_iff_isSome, get?,
        or_iff_left List.not_mem_nil]
  | layered own base ih =>
      rw [names, mem_foldr_insertName, own.mem_names_iff_isSome, ih, get?, Option.isSome_or,
        Bool.or_eq_true]

/-! ## Chains of layers -/

/-- A map after some pairs were inserted one after another. -/
def fill (m : DirectiveMap α) (pairs : List (String × α)) : DirectiveMap α :=
  pairs.foldl (fun map entry => map.insert entry.1 entry.2) m

/-- The map made of a bottom layer and of overlays over it, the innermost one first. -/
def chain (bottom : List (String × α)) : List (List (String × α)) → DirectiveMap α
  | [] => empty.fill bottom
  | layer :: layers => (chain bottom layers).overlay.fill layer

/-- A value was inserted last under a name into the innermost of some layers that
have the name. -/
def FoundIn (layers : List (List (String × α))) (name : String) (value : α) : Prop :=
  ∃ inner layer outer, layers = inner ++ layer :: outer ∧
    (∀ other ∈ inner, name ∉ other.map Prod.fst) ∧
    Dict.LastInserts (Dict.insertions layer) name value

theorem not_foundIn_nil (name : String) (value : α) : ¬ FoundIn [] name value := by
  rintro ⟨inner, layer, outer, hsplit, -⟩
  simp at hsplit

theorem foundIn_cons {layer : List (String × α)} {layers : List (List (String × α))}
    {name : String} {value : α} :
    FoundIn (layer :: layers) name value ↔
      Dict.LastInserts (Dict.insertions layer) name value ∨
        name ∉ layer.map Prod.fst ∧ FoundIn layers name value := by
  constructor
  · rintro ⟨inner, found, outer, hsplit, hinner, hlast⟩
    cases inner with
    | nil =>
        obtain ⟨rfl, -⟩ := List.cons.inj hsplit
        exact .inl hlast
    | cons first inner =>
        obtain ⟨rfl, rfl⟩ := List.cons.inj hsplit
        exact .inr ⟨hinner layer (by simp), inner, found, outer, rfl,
          fun other hother => hinner other (List.mem_cons_of_mem _ hother), hlast⟩
  · rintro (hlast | ⟨hlacks, inner, found, outer, rfl, hinner, hlast⟩)
    · exact ⟨[], layer, layers, rfl, nofun, hlast⟩
    · refine ⟨layer :: inner, found, outer, rfl, fun other hother => ?_, hlast⟩
      rcases List.mem_cons.mp hother with rfl | hother
      · exact hlacks
      · exact hinner other hother

theorem FoundIn.exists_mem {layers : List (List (String × α))} {name : String} {value : α}
    (hfound : FoundIn layers name value) :
    ∃ layer ∈ layers, (name, value) ∈ layer := by
  obtain ⟨inner, layer, outer, rfl, -, before, after, hsplit, -⟩ := hfound
  have hmem : .insert name value ∈ Dict.insertions layer := by
    rw [hsplit]
    exact List.mem_append_cons_self
  obtain ⟨⟨key, found⟩, hpair, hinsert⟩ := List.mem_map.mp hmem
  obtain ⟨rfl, rfl⟩ := Dict.Operation.insert.inj hinsert
  exact ⟨layer, List.mem_append_cons_self, hpair⟩

/-- What is inserted into a map hides what was there under the same names. -/
theorem get?_fill_eq_some_iff (m : DirectiveMap α) {pairs : List (String × α)} {name : String}
    {value : α} :
    (m.fill pairs).get? name = some value ↔
      Dict.LastInserts (Dict.insertions pairs) name value ∨
        name ∉ pairs.map Prod.fst ∧ m.get? name = some value := by
  rw [fill, get?_insertAll, Option.or_eq_some_iff, (Dict.follows_ofList pairs).get?_iff,
    Dict.get?_eq_none_iff, Dict.mem_names_ofList]

theorem get?_overlay (base : DirectiveMap α) (name : String) :
    base.overlay.get? name = base.get? name := rfl

theorem get?_chain_eq_some_iff {bottom : List (String × α)} {layers : List (List (String × α))}
    {name : String} {value : α} :
    (chain bottom layers).get? name = some value ↔ FoundIn (layers ++ [bottom]) name value := by
  induction layers with
  | nil =>
      have hnone : (empty : DirectiveMap α).get? name ≠ some value := nofun
      rw [chain, get?_fill_eq_some_iff, List.nil_append, foundIn_cons]
      simp only [hnone, not_foundIn_nil]
  | cons layer layers ih =>
      rw [chain, get?_fill_eq_some_iff, get?_overlay, ih, List.cons_append, foundIn_cons]

/-! ## The maps below -/

/-- The maps that a map lies over, the nearest one first. -/
def bases : DirectiveMap α → List (DirectiveMap α)
  | flat _ => []
  | layered _ base => base :: base.bases

theorem bases_insert (m : DirectiveMap α) (name : String) (value : α) :
    (m.insert name value).bases = m.bases := by
  cases m <;> rfl

theorem bases_fill (m : DirectiveMap α) (pairs : List (String × α)) :
    (m.fill pairs).bases = m.bases := by
  induction pairs generalizing m with
  | nil => rfl
  | cons pair pairs ih => exact (ih _).trans (m.bases_insert pair.1 pair.2)

/-- The maps below a chain are the chains of its outer layers. -/
theorem bases_chain (bottom : List (String × α)) (layers : List (List (String × α))) :
    (chain bottom layers).bases = layers.tails.tail.map (chain bottom) := by
  induction layers with
  | nil => exact bases_fill empty bottom
  | cons layer layers ih =>
      have htails : layers.tails = layers :: layers.tails.tail := by cases layers <;> rfl
      rw [chain, bases_fill, overlay, bases, ih, List.tails_cons, List.tail_cons,
        ← List.map_cons, ← htails]

/-- **Layers of directives are searched from the innermost.**  In a chain of any
depth, names are listed in increasing order and are those under which something
is found, which is what was inserted last under the name into the innermost layer
that has it.  The maps below are the chains of the outer layers, and inserting
into the innermost layer leaves all of them as they are. -/
theorem chain_searched_from_innermost (bottom : List (String × α))
    (layers : List (List (String × α))) :
    (chain bottom layers).names.Pairwise (· < ·) ∧
    (∀ name, name ∈ (chain bottom layers).names ↔ ((chain bottom layers).get? name).isSome) ∧
    (∀ name value, (chain bottom layers).get? name = some value ↔
      FoundIn (layers ++ [bottom]) name value) ∧
    (chain bottom layers).bases = layers.tails.tail.map (chain bottom) ∧
    ∀ name value,
      ((chain bottom layers).insert name value).bases = (chain bottom layers).bases :=
  ⟨pairwise_names _, mem_names_iff _, fun _ _ => get?_chain_eq_some_iff, bases_chain bottom layers,
    bases_insert _⟩

end DirectiveMap

end Stencil
