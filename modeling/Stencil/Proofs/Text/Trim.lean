import Stencil.Text.Blank

/-!
# Trimming

A text is its trimmed form between blanks (`exists_trimChars`), no blank stands
at either end of a trimmed form (`trimmed_trimChars`), and blanks around a text
do not change it.
-/

namespace Stencil.Text

/-! ## The ends of a trimmed text -/

/-- No blank stands at either end of a text. -/
structure Trimmed (cs : List Char) : Prop where
  head : ∀ c, cs.head? = some c → isBlank c = false
  last : ∀ c, cs.getLast? = some c → isBlank c = false

theorem head?_trimStart (cs : List Char) (c : Char) (hhead : (trimStart cs).head? = some c) :
    isBlank c = false := by
  have hnot := List.head?_dropWhile_not isBlank cs
  rw [trimStart] at hhead
  rwa [hhead] at hnot

theorem trimStart_of_head? {cs : List Char}
    (hhead : ∀ c, cs.head? = some c → isBlank c = false) : trimStart cs = cs := by
  cases cs with
  | nil => rfl
  | cons c cs => exact List.dropWhile_cons_of_neg (by simp [hhead c rfl])

theorem exists_trimStart (cs : List Char) :
    ∃ lead, cs = lead ++ trimStart cs ∧ ∀ c ∈ lead, isBlank c = true :=
  ⟨cs.takeWhile isBlank, List.takeWhile_append_dropWhile.symm,
    List.all_eq_true.mp List.all_takeWhile⟩

theorem exists_trimEnd (cs : List Char) :
    ∃ trail, cs = trimEnd cs ++ trail ∧ ∀ c ∈ trail, isBlank c = true := by
  obtain ⟨trail, htrail, hblank⟩ := exists_trimStart cs.reverse
  refine ⟨trail.reverse, ?_, fun c hc => hblank c (List.mem_reverse.mp hc)⟩
  rw [trimEnd, ← List.reverse_append, ← htrail, List.reverse_reverse]

/-- A text is its trimmed form between blanks. -/
theorem exists_trimChars (cs : List Char) :
    ∃ lead trail, cs = lead ++ trimChars cs ++ trail ∧ (∀ c ∈ lead, isBlank c = true) ∧
      ∀ c ∈ trail, isBlank c = true := by
  obtain ⟨lead, hlead, hblank⟩ := exists_trimStart cs
  obtain ⟨trail, htrail, hblank'⟩ := exists_trimEnd (trimStart cs)
  refine ⟨lead, trail, ?_, hblank, hblank'⟩
  rw [List.append_assoc, trimChars, ← htrail, ← hlead]

theorem trimmed_trimChars (cs : List Char) : Trimmed (trimChars cs) where
  head := by
    intro c hhead
    obtain ⟨trail, htrail, -⟩ := exists_trimEnd (trimStart cs)
    refine head?_trimStart cs c ?_
    rw [htrail, List.head?_append, ← trimChars, hhead, Option.some_or]
  last := by
    intro c hlast
    rw [trimChars, trimEnd, List.getLast?_reverse] at hlast
    exact head?_trimStart _ c hlast

theorem Trimmed.trimChars_eq {cs : List Char} (h : Trimmed cs) : trimChars cs = cs := by
  have hreverse : trimStart cs.reverse = cs.reverse :=
    trimStart_of_head? fun c hc => h.last c (by rwa [List.head?_reverse] at hc)
  rw [trimChars, trimStart_of_head? h.head, trimEnd, hreverse, List.reverse_reverse]

/-! ## Blanks at the ends are ignored -/

theorem trimEnd_concat_of_isBlank {c : Char} (hblank : isBlank c = true) (cs : List Char) :
    trimEnd (cs ++ [c]) = trimEnd cs := by
  simp [trimEnd, trimStart, hblank]

theorem trimChars_concat_of_isBlank {c : Char} (hblank : isBlank c = true) (cs : List Char) :
    trimChars (cs ++ [c]) = trimChars cs := by
  rw [trimChars, trimChars, trimStart, trimStart, List.dropWhile_append]
  by_cases hempty : (cs.dropWhile isBlank).isEmpty = true
  · rw [if_pos hempty, List.isEmpty_iff.mp hempty, List.dropWhile_cons_of_pos hblank,
      List.dropWhile_nil]
  · rw [if_neg hempty]
    exact trimEnd_concat_of_isBlank hblank _

theorem trimChars_cons_of_isBlank {c : Char} (hblank : isBlank c = true) (cs : List Char) :
    trimChars (c :: cs) = trimChars cs := by
  rw [trimChars, trimStart, List.dropWhile_cons_of_pos hblank, ← trimStart, ← trimChars]

/-- Only blanks are trimmed to nothing. -/
theorem trimChars_eq_nil_iff {cs : List Char} :
    trimChars cs = [] ↔ ∀ c ∈ cs, isBlank c = true := by
  constructor
  · intro hnil c hc
    obtain ⟨lead, trail, heq, hlead, htrail⟩ := exists_trimChars cs
    rw [hnil, List.append_nil] at heq
    rw [heq] at hc
    rcases List.mem_append.mp hc with hc | hc
    · exact hlead c hc
    · exact htrail c hc
  · intro hblank
    induction cs with
    | nil => rfl
    | cons c cs ih =>
        obtain ⟨hc, hcs⟩ := List.forall_mem_cons.mp hblank
        rw [trimChars_cons_of_isBlank hc, ih hcs]

theorem trim_append_blank (s : String) : trim (s ++ " ") = trim s := by
  rw [trim, trim, String.toList_append]
  exact congrArg String.ofList (trimChars_concat_of_isBlank (by decide) _)

theorem trim_blank_append (s : String) : trim (" " ++ s) = trim s := by
  rw [trim, trim, String.toList_append]
  exact congrArg String.ofList (trimChars_cons_of_isBlank (by decide) _)

end Stencil.Text
