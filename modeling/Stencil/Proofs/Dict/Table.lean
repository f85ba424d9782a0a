import Stencil.Proofs.Dict
import Stencil.Table

/-!
# The order of a hash table is invisible to look-ups

A dictionary in the order of a hash table has the entries of the same dictionary
in the order of insertion, at other places (`perm_entries_scatter`).  Its names
are distinct, so a look-up finds the same value in both (`get?_scatter`).
-/

namespace Stencil

variable {α : Type}

namespace Table

/-- Putting an entry into a slot moves the other ones only. -/
theorem perm_put (slot : Nat) (entry : String × α) (used : List (Nat × String × α)) :
    (put slot entry used).Perm ((slot, entry) :: used) := by
  induction used with
  | nil => exact .refl _
  | cons first rest ih =>
      rw [put]
      split_ifs
      · exact .refl _
      · exact (ih.cons first).trans (.swap ..)

theorem perm_foldl_put (slots : Nat) (used : List (Nat × String × α))
    (entries : List (String × α)) :
    ((entries.foldl (fun used entry => put (freeSlot slots used entry.1) entry used) used).map
      Prod.snd).Perm (used.map Prod.snd ++ entries) := by
  induction entries generalizing used with
  | nil => rw [List.foldl_nil, List.append_nil]
  | cons entry entries ih =>
      have hput := (perm_put (freeSlot slots used entry.1) entry used).map Prod.snd
      exact (ih _).trans ((hput.append_right entries).trans List.perm_middle.symm)

end Table

namespace Dict

/-- A hash table holds the entries of a dictionary, maybe in another order. -/
theorem perm_entries_scatter (pairs : List (String × α)) :
    (scatter pairs).entries.Perm (ofList pairs).entries :=
  Table.perm_foldl_put (Table.slotCount pairs.length) [] (ofList pairs).entries

theorem nodup_names_scatter (pairs : List (String × α)) : (scatter pairs).names.Nodup :=
  ((perm_entries_scatter pairs).map Prod.fst).nodup_iff.mpr (nodup_names_ofList pairs)

theorem get?_scatter (pairs : List (String × α)) (name : String) :
    (scatter pairs).get? name = (ofList pairs).get? name :=
  get?_eq_of_perm (perm_entries_scatter pairs) (nodup_names_ofList pairs) name

/-- A dictionary is only reordered when its entries are put into a table again. -/
theorem perm_entries_scatter_entries {d : Dict α} (hnodup : d.names.Nodup) :
    (scatter d.entries).entries.Perm d.entries := by
  have hperm := perm_entries_scatter d.entries
  rwa [ofList_entries hnodup] at hperm

end Dict

end Stencil
