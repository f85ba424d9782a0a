import Mathlib.Data.List.Basic
import Stencil.Text.Blank

/-!
# Where a text is cut

What `dropStart?`, `splitFirst?` and `splitAtChar` find, said with the parts that
they cut a text into.
-/

namespace Stencil.Text

theorem dropStart?_eq_some_iff {start text rest : List Char} :
    dropStart? start text = some rest ↔ text = start ++ rest := by
  induction start generalizing text with
  | nil => simp [dropStart?]
  | cons p start ih =>
      cases text with
      | nil => simp [dropStart?]
      | cons c text =>
          rw [dropStart?]
          split_ifs with hpc
          · rw [ih, hpc, List.cons_append, List.cons.injEq, eq_self, true_and]
          · simp [Ne.symm hpc]

/-- A part at the start of a text that does not hold a character lies before it. -/
theorem exists_eq_append_of_not_mem {c : Char} {before after start rest : List Char}
    (htext : before ++ c :: after = start ++ rest) (hstart : c ∉ start) :
    ∃ more, before = start ++ more := by
  rcases List.append_eq_append_iff.mp htext with ⟨more, rfl, hrest⟩ | ⟨more, rfl, -⟩
  · cases more with
    | nil => exact ⟨[], by simp⟩
    | cons d more =>
        obtain ⟨rfl, -⟩ := List.cons.inj hrest
        exact absurd (by simp) hstart
  · exact ⟨more, rfl⟩

/-- The first part of a text that is cut at a character does not hold it. -/
theorem splitFirst?_eq_some_iff {separator : Char} {text before after : List Char} :
    splitFirst? separator text = some (before, after) ↔
      text = before ++ separator :: after ∧ separator ∉ before := by
  induction text generalizing before with
  | nil => simp [splitFirst?]
  | cons c text ih =>
      rw [splitFirst?]
      split_ifs with hc
      · subst hc
        cases before with
        | nil => simp [eq_comm]
        | cons d before => simp +contextual
      · rw [Option.map_eq_some_iff]
        constructor
        · rintro ⟨⟨first, second⟩, hsplit, heq⟩
          obtain ⟨rfl, rfl⟩ := Prod.mk.inj heq
          obtain ⟨rfl, hfirst⟩ := ih.mp hsplit
          exact ⟨rfl, List.not_mem_cons_of_ne_of_not_mem (Ne.symm hc) hfirst⟩
        · rintro ⟨htext, hbefore⟩
          cases before with
          | nil => exact absurd (List.cons.inj htext).1 hc
          | cons d before =>
              obtain ⟨rfl, rfl⟩ := List.cons.inj htext
              exact ⟨(before, after), ih.mpr ⟨rfl, List.not_mem_of_not_mem_cons hbefore⟩, rfl⟩

theorem splitFirst?_eq_none_iff {separator : Char} {text : List Char} :
    splitFirst? separator text = none ↔ separator ∉ text := by
  rw [Option.eq_none_iff_forall_ne_some]
  constructor
  · intro hnone hmem
    obtain ⟨before, after, htext, hbefore⟩ := List.eq_append_cons_of_mem hmem
    exact hnone (before, after) (splitFirst?_eq_some_iff.mpr ⟨htext, hbefore⟩)
  · rintro hmem ⟨before, after⟩ hsplit
    obtain ⟨rfl, -⟩ := splitFirst?_eq_some_iff.mp hsplit
    exact hmem (by simp)

/-! ## Cutting at every occurrence -/

theorem splitAtChar_of_not_mem {separator : Char} {text : List Char} (htext : separator ∉ text) :
    splitAtChar separator text = [text] := by
  induction text with
  | nil => rfl
  | cons c text ih =>
      have hc : c ≠ separator := Ne.symm (List.ne_of_not_mem_cons htext)
      simp only [splitAtChar, ih (List.not_mem_of_not_mem_cons htext), if_neg hc]

/-- The first piece is what stands before the first occurrence. -/
theorem splitAtChar_eq_cons (separator : Char) (text : List Char) :
    ∃ piece rest pieces, splitAtChar separator text = piece :: pieces ∧ text = piece ++ rest ∧
      ∀ c ∈ rest.head?, c = separator := by
  induction text with
  | nil => exact ⟨[], [], [], rfl, rfl, by simp⟩
  | cons c text ih =>
      obtain ⟨piece, rest, pieces, hsplit, rfl, hrest⟩ := ih
      by_cases hc : c = separator
      · refine ⟨[], c :: (piece ++ rest), piece :: pieces, ?_, rfl, ?_⟩
        · simp only [splitAtChar, hsplit, if_pos hc]
        · exact fun d hd => Option.some.inj hd ▸ hc
      · refine ⟨c :: piece, rest, pieces, ?_, rfl, hrest⟩
        simp only [splitAtChar, hsplit, if_neg hc]

theorem splitAtChar_append {separator : Char} {piece : List Char} (hpiece : separator ∉ piece)
    (rest : List Char) :
    splitAtChar separator (piece ++ separator :: rest) = piece :: splitAtChar separator rest := by
  induction piece with
  | nil =>
      obtain ⟨first, -, pieces, hsplit, -⟩ := splitAtChar_eq_cons separator rest
      simp only [List.nil_append, splitAtChar, hsplit, if_true]
  | cons c piece ih =>
      have hc : c ≠ separator := Ne.symm (List.ne_of_not_mem_cons hpiece)
      simp only [List.cons_append, splitAtChar, ih (List.not_mem_of_not_mem_cons hpiece), if_neg hc]

end Stencil.Text
