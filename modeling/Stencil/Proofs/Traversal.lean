import Mathlib.Data.List.Forall2

/-!
# Passes over a list that may fail

`List.mapM` asks a partial function about each item in turn and answers if all
of them have an answer.  The answers then stand in the order of the items.
-/

namespace Stencil

variable {α β : Type}

/-- Two steps give a result if the second gives it for the value of the first. -/
theorem bind_eq_some_of {x : Option α} {f : α → Option β} {a : α} {b : β} (hrest : f a = some b)
    (hx : x = some a) : x.bind f = some b := by
  rw [hx, Option.bind_some, hrest]

/-- A pass over a list answers when it answers for each item. -/
theorem mapM_eq_some_iff {f : α → Option β} {xs : List α} {ys : List β} :
    xs.mapM f = some ys ↔ List.Forall₂ (fun x y => f x = some y) xs ys := by
  induction xs generalizing ys with
  | nil => simp [eq_comm]
  | cons x xs ih =>
      rw [List.mapM_cons, List.forall₂_cons_left_iff]
      constructor
      · intro hsome
        obtain ⟨y, hy, hsome⟩ := Option.bind_eq_some_iff.mp hsome
        obtain ⟨rest, hrest, hsome⟩ := Option.bind_eq_some_iff.mp hsome
        exact ⟨y, rest, hy, ih.mp hrest, (Option.some.inj hsome).symm⟩
      · rintro ⟨y, rest, hy, hrest, rfl⟩
        rw [hy, ih.mpr hrest]
        rfl

theorem mapM_isSome (f : α → Option β) (xs : List α)
    (hall : ∀ x ∈ xs, (f x).isSome = true) : ∃ ys, xs.mapM f = some ys := by
  induction xs with
  | nil => exact ⟨[], rfl⟩
  | cons x xs ih =>
      obtain ⟨y, hy⟩ := Option.isSome_iff_exists.mp (hall x (List.mem_cons_self ..))
      obtain ⟨ys, hys⟩ := ih fun z hz => hall z (List.mem_cons_of_mem _ hz)
      refine ⟨y :: ys, ?_⟩
      rw [List.mapM_cons, hy, hys]
      rfl

/-- A pass undoes a map whose values it undoes. -/
theorem mapM_map_eq_some {f : α → Option β} {g : β → α} {ys : List β}
    (hinverse : ∀ y ∈ ys, f (g y) = some y) : (ys.map g).mapM f = some ys := by
  rw [mapM_eq_some_iff, List.forall₂_map_left_iff, List.forall₂_same]
  exact hinverse

/-- Of two lists related item by item, each item of the second is related to one
of the first. -/
theorem exists_mem_of_forall₂ {R : α → β → Prop} {xs : List α} {ys : List β}
    (hrelated : List.Forall₂ R xs ys) {y : β} (hy : y ∈ ys) : ∃ x ∈ xs, R x y := by
  induction hrelated with
  | nil => exact absurd hy List.not_mem_nil
  | cons hx _ ih =>
      rcases List.mem_cons.mp hy with rfl | hy
      · exact ⟨_, List.mem_cons_self, hx⟩
      · obtain ⟨x, hmem, hx⟩ := ih hy
        exact ⟨x, List.mem_cons_of_mem _ hmem, hx⟩

end Stencil
