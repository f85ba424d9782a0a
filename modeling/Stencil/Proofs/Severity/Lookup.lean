import Mathlib.Data.List.MinMax
import Stencil.Proofs.Dict
import Stencil.Severity

/-!
# The entry that decides a severity

The severity of a code is looked up by its longest start.  The table is gone
through entry by entry with the best entry so far, so what is found could depend
on the order of the entries.  It does not, since a code has only one start of
each length: `IsLongest` determines the entry (`IsLongest.unique`), and
`severity_of_longest_pattern` says that it is the one that decides.
-/

namespace Stencil.SeverityTable

open Text

variable {table : SeverityTable} {patterns : List String} {code pattern other : String}

/-- A pattern is one of those that a code starts with, and none of these is longer. -/
structure IsLongest (patterns : List String) (code pattern : String) : Prop where
  mem : pattern ∈ patterns
  starts : pattern.toList <+: code.toList
  longest : ∀ other ∈ patterns, other.toList <+: code.toList → other.length ≤ pattern.length

/-! ## Starts of one code -/

theorem hasStart_iff : hasStart code pattern = true ↔ pattern.toList <+: code.toList :=
  List.isPrefixOf_iff_prefix

/-- Of two starts of a code the shorter one is a start of the longer one. -/
theorem starts_of_length_le (hpattern : pattern.toList <+: code.toList)
    (hother : other.toList <+: code.toList) (hlength : pattern.length ≤ other.length) :
    pattern.toList <+: other.toList :=
  List.prefix_of_prefix_length_le hpattern hother
    (by rwa [String.length_toList, String.length_toList])

theorem eq_of_starts (hpattern : pattern.toList <+: code.toList)
    (hother : other.toList <+: code.toList) (hlength : pattern.length = other.length) :
    pattern = other := by
  have hstarts := starts_of_length_le hpattern hother hlength.le
  apply String.toList_injective
  apply hstarts.eq_of_length
  rw [String.length_toList, String.length_toList, hlength]

theorem IsLongest.unique (hpattern : IsLongest patterns code pattern)
    (hother : IsLongest patterns code other) : pattern = other :=
  eq_of_starts hpattern.starts hother.starts
    (Nat.le_antisymm (hother.longest _ hpattern.mem hpattern.starts)
      (hpattern.longest _ hother.mem hother.starts))

theorem exists_isLongest (hstart : ∃ pattern ∈ patterns, pattern.toList <+: code.toList) :
    ∃ pattern, IsLongest patterns code pattern := by
  have hstarts {pattern : String} :
      pattern ∈ patterns.filter (hasStart code) ↔
        pattern ∈ patterns ∧ pattern.toList <+: code.toList := by
    rw [List.mem_filter, hasStart_iff]
  cases hmax : (patterns.filter (hasStart code)).argmax String.length with
  | none =>
      obtain ⟨pattern, hpattern⟩ := hstart
      rw [List.argmax_eq_none] at hmax
      exact absurd (hstarts.mpr hpattern) (hmax ▸ List.not_mem_nil)
  | some pattern =>
      obtain ⟨hmem, hpattern⟩ := hstarts.mp (List.argmax_mem hmax)
      exact ⟨pattern, hmem, hpattern, fun other hother hstart =>
        List.le_of_mem_argmax (hstarts.mpr ⟨hother, hstart⟩) hmax⟩

/-! ## The best entry of a table -/

theorem longestMatch?_eq_argmax (table : SeverityTable) (code : String) :
    table.longestMatch? code =
      (table.entries.filter fun entry => hasStart code entry.1).argmax fun entry =>
        entry.1.length := by
  unfold longestMatch? List.argmax
  congr 1
  funext best entry
  cases best <;> rfl

theorem longestMatch?_eq_none_iff :
    table.longestMatch? code = none ↔ ∀ pattern ∈ table.names, ¬pattern.toList <+: code.toList := by
  rw [longestMatch?_eq_argmax, List.argmax_eq_none, List.filter_eq_nil_iff]
  simp [Dict.names, hasStart_iff]

theorem isLongest_of_longestMatch? {entry : String × Severity}
    (hmatch : table.longestMatch? code = some entry) : IsLongest table.names code entry.1 := by
  rw [longestMatch?_eq_argmax] at hmatch
  obtain ⟨hentry, hstart⟩ := List.mem_filter.mp (List.argmax_mem hmatch)
  refine ⟨List.mem_map_of_mem hentry, hasStart_iff.mp hstart, fun other hother hstarts => ?_⟩
  obtain ⟨entry, hentry, rfl⟩ := List.mem_map.mp hother
  have hmem : entry ∈ table.entries.filter fun entry => hasStart code entry.1 :=
    List.mem_filter.mpr ⟨hentry, hasStart_iff.mpr hstarts⟩
  have hle := List.le_of_mem_argmax hmem hmatch
  exact hle

/-- The best entry is the one that is found under its name: an entry with the
same name behind it is not longer. -/
theorem get?_of_longestMatch? {entry : String × Severity}
    (hmatch : table.longestMatch? code = some entry) : table.get? entry.1 = some entry.2 := by
  have hstart := (isLongest_of_longestMatch? hmatch).starts
  rw [longestMatch?_eq_argmax] at hmatch
  obtain ⟨entries⟩ := table
  change entries.lookup entry.1 = some entry.2
  induction entries with
  | nil => cases hmatch
  | cons first entries ih =>
      rw [Dict.lookup_cons_eq_ite]
      by_cases hfirst : hasStart code first.1 = true
      · rw [List.filter_cons_of_pos (by exact hfirst), List.argmax_cons] at hmatch
        cases hrest : (entries.filter fun entry => hasStart code entry.1).argmax
            fun entry => entry.1.length with
        | none =>
            rw [hrest] at hmatch
            obtain rfl := Option.some.inj hmatch
            rw [if_pos rfl]
        | some best =>
            simp only [hrest] at hmatch
            split_ifs at hmatch with hlonger
            -- What stands behind wins only if it is longer, so it has another name.
            · obtain rfl := Option.some.inj hmatch
              have hne : best.1 ≠ first.1 := fun heq =>
                hlonger.ne (congrArg String.length heq.symm)
              rw [if_neg hne, ih hrest]
            · obtain rfl := Option.some.inj hmatch
              rw [if_pos rfl]
      · have hne : entry.1 ≠ first.1 := fun heq => hfirst (heq ▸ hasStart_iff.mpr hstart)
        rw [List.filter_cons_of_neg (by exact hfirst)] at hmatch
        rw [if_neg hne, ih hmatch]

/-! ## The severity of a code -/

/-- The longest start of a code decides. -/
theorem get?_of_isLongest (hpattern : IsLongest table.names code pattern) :
    table.get? pattern = some (table.severity code) := by
  unfold severity
  cases hmatch : table.longestMatch? code with
  | none => exact absurd hpattern.starts (longestMatch?_eq_none_iff.mp hmatch _ hpattern.mem)
  | some entry =>
      rw [hpattern.unique (isLongest_of_longestMatch? hmatch), get?_of_longestMatch? hmatch]

theorem severity_of_not_starts (hnone : ∀ pattern ∈ table.names, ¬pattern.toList <+: code.toList) :
    table.severity code = .error := by
  rw [severity, longestMatch?_eq_none_iff.mpr hnone]

/-- A severity depends on what a table has under each name only. -/
theorem severity_congr {first second : SeverityTable}
    (hget : ∀ name, first.get? name = second.get? name) (code : String) :
    first.severity code = second.severity code := by
  have hnames (name : String) : name ∈ first.names ↔ name ∈ second.names := by
    rw [← not_iff_not, ← Dict.get?_eq_none_iff, ← Dict.get?_eq_none_iff, hget]
  by_cases hstart : ∃ pattern ∈ first.names, pattern.toList <+: code.toList
  · obtain ⟨pattern, hmem, hstarts, hlongest⟩ := exists_isLongest hstart
    have hsecond : IsLongest second.names code pattern :=
      ⟨(hnames _).mp hmem, hstarts, fun other hother => hlongest other ((hnames _).mpr hother)⟩
    have hfirst := get?_of_isLongest ⟨hmem, hstarts, hlongest⟩
    exact Option.some.inj (hfirst.symm.trans ((hget _).trans (get?_of_isLongest hsecond)))
  · push Not at hstart
    rw [severity_of_not_starts hstart, severity_of_not_starts fun pattern hpattern =>
      hstart pattern ((hnames _).mpr hpattern)]

/-- The severity of a code is that of the longest pattern of the table that the
code starts with.  A code that starts with none is an error.  The order in which
the entries are visited does not matter. -/
theorem severity_of_longest_pattern (table : SeverityTable) (hnodup : table.names.Nodup)
    (code : String) :
    ((∃ pattern, IsLongest table.names code pattern ∧
        table.get? pattern = some (table.severity code)) ∨
      (∀ pattern ∈ table.names, ¬pattern.toList <+: code.toList) ∧
        table.severity code = .error) ∧
    ∀ visited : List (String × Severity), visited.Perm table.entries →
      severity ⟨visited⟩ code = table.severity code := by
  refine ⟨?_, fun visited hvisited => severity_congr (Dict.get?_eq_of_perm hvisited hnodup) code⟩
  by_cases hstart : ∃ pattern ∈ table.names, pattern.toList <+: code.toList
  · obtain ⟨pattern, hpattern⟩ := exists_isLongest hstart
    exact Or.inl ⟨pattern, hpattern, get?_of_isLongest hpattern⟩
  · push Not at hstart
    exact Or.inr ⟨hstart, severity_of_not_starts hstart⟩

theorem severity_of_three_patterns :
    (⟨[("T", .warning), ("T1", .off), ("T10", .hint)]⟩ : SeverityTable).names.Nodup ∧
      severity ⟨[("T10", .hint), ("T", .warning), ("T1", .off)]⟩ "T100" =
        severity ⟨[("T", .warning), ("T1", .off), ("T10", .hint)]⟩ "T100" ∧
      severity ⟨[("T", .warning), ("T1", .off), ("T10", .hint)]⟩ "T100" = .hint :=
  ⟨by decide,
    (severity_of_longest_pattern ⟨[("T", .warning), ("T1", .off), ("T10", .hint)]⟩
      (by decide) "T100").2 [("T10", .hint), ("T", .warning), ("T1", .off)] (by decide),
    by decide⟩

end Stencil.SeverityTable
