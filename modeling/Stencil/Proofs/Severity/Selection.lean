import Stencil.Proofs.Severity.Lookup

/-!
# What a selection shows

A selection replaces the table: only selected codes and starts of codes have a
severity, all others are off.  Ignored ones are put into the table last.  Both
are read back by their longest start, so an ignored entry turns off a selected
code unless a longer entry selects it (`selection_shows_iff`).

A selected entry gets the severity that the table has for the entry itself.  A
longer pattern of the table, which decides the codes below it, is lost with the
rest of the table (`selection_forgets_longer_pattern`).  So a selection keeps the
severity of a code if the entry that selects it is at least as long as what
decides the code in the table (`selection_keeps_severity_iff`).
-/

namespace Stencil.SeverityTable

open Text

variable {table : SeverityTable} {select ignore : List String} {code entry name : String}

/-! ## The table after a selection -/

theorem get?_selected (table : SeverityTable) (select : List String) (name : String) :
    (table.selected select).get? name =
      if name = "" then some .off
      else if name ∈ select then some (table.selectedSeverity name) else none := by
  rw [selected, Dict.get?_insert, Dict.ofList, Dict.get?_insertAll_map]
  rfl

theorem get?_withSelection (hselect : select ≠ []) (name : String) :
    (table.withSelection select ignore).get? name =
      if name ∈ ignore then some .off
      else if name = "" then some .off
      else if name ∈ select then some (table.selectedSeverity name) else none := by
  have hempty : ¬select.isEmpty = true := by simpa using hselect
  rw [withSelection, if_neg hempty, Dict.get?_insertAll_map, get?_selected]

theorem get?_withSelection_nil (name : String) :
    (table.withSelection [] ignore).get? name =
      if name ∈ ignore then some .off else table.get? name :=
  Dict.get?_insertAll_map table ignore (fun _ => .off) name

theorem mem_names_withSelection (hselect : select ≠ []) :
    name ∈ (table.withSelection select ignore).names ↔
      name ∈ ignore ∨ name = "" ∨ name ∈ select := by
  rw [Dict.mem_names_iff, get?_withSelection hselect]
  split_ifs <;> simp_all

theorem mem_names_withSelection_nil :
    name ∈ (table.withSelection [] ignore).names ↔ name ∈ ignore ∨ name ∈ table.names := by
  rw [Dict.mem_names_iff, get?_withSelection_nil, Dict.mem_names_iff]
  split_ifs with hignored
  · simp [hignored]
  · simp [hignored]

/-- A selected entry keeps its severity, unless it would be off. -/
theorem selectedSeverity_eq_ite (table : SeverityTable) (code : String) :
    table.selectedSeverity code =
      if table.severity code = .off then .error else table.severity code := by
  unfold selectedSeverity
  cases table.severity code <;> rfl

theorem selectedSeverity_ne_off (table : SeverityTable) (code : String) :
    table.selectedSeverity code ≠ .off := by
  rw [selectedSeverity_eq_ite]
  split_ifs with hoff
  · decide
  · exact hoff

/-! ## Codes that are selected -/

/-- The longest selected entry decides, if it is longer than every ignored one. -/
theorem severity_withSelection_of_isLongest (table : SeverityTable)
    (hentry : IsLongest (select.filter (· ≠ "")) code entry)
    (hignore : ∀ other ∈ ignore, other.toList <+: code.toList → other.length < entry.length) :
    (table.withSelection select ignore).severity code = table.selectedSeverity entry := by
  obtain ⟨hmem, hne⟩ : entry ∈ select ∧ entry ≠ "" := by simpa using hentry.mem
  have hselect : select ≠ [] := List.ne_nil_of_mem hmem
  have hlongest : IsLongest (table.withSelection select ignore).names code entry := by
    refine ⟨(mem_names_withSelection hselect).mpr (Or.inr (Or.inr hmem)), hentry.starts, ?_⟩
    intro other hother hstarts
    rcases (mem_names_withSelection hselect).mp hother with hignored | rfl | hselected
    · exact (hignore other hignored hstarts).le
    · exact Nat.zero_le _
    · by_cases hempty : other = ""
      · exact hempty ▸ Nat.zero_le _
      · exact hentry.longest other (by simpa using ⟨hselected, hempty⟩) hstarts
  have hkept : entry ∉ ignore := fun hignored =>
    lt_irrefl _ (hignore entry hignored hentry.starts)
  have hget := get?_of_isLongest hlongest
  rw [get?_withSelection hselect, if_neg hkept, if_neg hne, if_pos hmem] at hget
  exact (Option.some.inj hget).symm

/-- A code is off if an ignored entry is at least as long as the longest selected
one, or if there is no selected one. -/
theorem severity_withSelection_eq_off (hselect : select ≠ [])
    (hignore : ∀ entry, IsLongest (select.filter (· ≠ "")) code entry →
      ∃ other ∈ ignore, other.toList <+: code.toList ∧ entry.length ≤ other.length) :
    (table.withSelection select ignore).severity code = .off := by
  have hempty : "" ∈ (table.withSelection select ignore).names :=
    (mem_names_withSelection hselect).mpr (Or.inr (Or.inl rfl))
  obtain ⟨pattern, hpattern⟩ := exists_isLongest ⟨"", hempty, List.nil_prefix⟩
  have hget := get?_of_isLongest hpattern
  rw [get?_withSelection hselect] at hget
  split_ifs at hget with hignored hne hselected
  · exact (Option.some.inj hget).symm
  · exact (Option.some.inj hget).symm
  -- An entry that is selected only: the ignored one that beats it would be it.
  · have hentry : IsLongest (select.filter (· ≠ "")) code pattern := by
      refine ⟨by simpa using ⟨hselected, hne⟩, hpattern.starts, fun other hother => ?_⟩
      have hother : other ∈ select := (List.mem_filter.mp hother).1
      exact hpattern.longest other ((mem_names_withSelection hselect).mpr (by simp [hother]))
    obtain ⟨other, hother, hstarts, hle⟩ := hignore pattern hentry
    have hge := hpattern.longest other
      ((mem_names_withSelection hselect).mpr (Or.inl hother)) hstarts
    have heq := eq_of_starts hpattern.starts hstarts (Nat.le_antisymm hle hge)
    exact absurd (heq ▸ hother) hignored

/-! ## Codes that are only ignored -/

/-- An ignored entry that no pattern of the table is longer than turns a code
off. -/
theorem severity_withSelection_nil_eq_off {other : String} (hother : other ∈ ignore)
    (hstarts : other.toList <+: code.toList)
    (hlongest : ∀ pattern ∈ table.names, pattern.toList <+: code.toList →
      pattern.length ≤ other.length) :
    (table.withSelection [] ignore).severity code = .off := by
  have hmem : other ∈ (table.withSelection [] ignore).names :=
    mem_names_withSelection_nil.mpr (Or.inl hother)
  obtain ⟨pattern, hpattern⟩ := exists_isLongest ⟨other, hmem, hstarts⟩
  have hignored : pattern ∈ ignore := by
    rcases mem_names_withSelection_nil.mp hpattern.mem with hignored | htable
    · exact hignored
    · have hle := hlongest pattern htable hpattern.starts
      have hge := hpattern.longest other hmem hstarts
      exact eq_of_starts hpattern.starts hstarts (Nat.le_antisymm hle hge) ▸ hother
  have hget := get?_of_isLongest hpattern
  rw [get?_withSelection_nil, if_pos hignored] at hget
  exact (Option.some.inj hget).symm

/-- Without such an entry a code keeps its severity. -/
theorem severity_withSelection_nil_of_longer
    (hlonger : ∀ other ∈ ignore, other.toList <+: code.toList →
      ∃ pattern ∈ table.names, pattern.toList <+: code.toList ∧ other.length < pattern.length) :
    (table.withSelection [] ignore).severity code = table.severity code := by
  by_cases hstart : ∃ pattern ∈ table.names, pattern.toList <+: code.toList
  · obtain ⟨pattern, hpattern⟩ := exists_isLongest hstart
    have hshorter : ∀ other ∈ ignore, other.toList <+: code.toList →
        other.length < pattern.length := by
      intro other hother hstarts
      obtain ⟨longer, hlonger, hstarts, hlt⟩ := hlonger other hother hstarts
      exact hlt.trans_le (hpattern.longest longer hlonger hstarts)
    have hlongest : IsLongest (table.withSelection [] ignore).names code pattern := by
      refine ⟨mem_names_withSelection_nil.mpr (Or.inr hpattern.mem), hpattern.starts, ?_⟩
      intro other hother hstarts
      rcases mem_names_withSelection_nil.mp hother with hignored | htable
      · exact (hshorter other hignored hstarts).le
      · exact hpattern.longest other htable hstarts
    have hkept : pattern ∉ ignore := fun hignored =>
      lt_irrefl _ (hshorter pattern hignored hpattern.starts)
    have hget := get?_of_isLongest hlongest
    rw [get?_withSelection_nil, if_neg hkept, get?_of_isLongest hpattern] at hget
    exact (Option.some.inj hget).symm
  · push Not at hstart
    rw [severity_of_not_starts hstart]
    apply severity_of_not_starts
    intro name hname hstarts
    rcases mem_names_withSelection_nil.mp hname with hignored | htable
    · obtain ⟨pattern, hpattern, hbelow, -⟩ := hlonger name hignored hstarts
      exact hstart pattern hpattern hbelow
    · exact hstart name htable hstarts

/-! ## The selection as a whole -/

theorem enabled_iff : table.enabled code = true ↔ table.severity code ≠ .off := by
  simp [enabled]

/-- With a selection a code is shown exactly if its longest selected entry is
longer than every ignored entry that the code starts with; the empty entry does
not count as selected.  Its severity is then that of the entry, or error if that
is off.  Without a selection a code is off if an ignored entry that it starts
with is at least as long as every such pattern of the table, and keeps its
severity otherwise. -/
theorem selection_shows_iff (table : SeverityTable) (select ignore : List String)
    (code : String) :
    (select ≠ [] →
      ((table.withSelection select ignore).enabled code = true ↔
        ∃ entry, IsLongest (select.filter (· ≠ "")) code entry ∧
          ∀ other ∈ ignore, other.toList <+: code.toList → other.length < entry.length) ∧
      ((table.withSelection select ignore).enabled code = true →
        ∀ entry, IsLongest (select.filter (· ≠ "")) code entry →
          (table.withSelection select ignore).severity code =
            if table.severity entry = .off then .error else table.severity entry)) ∧
    (select = [] →
      ((∃ other ∈ ignore, other.toList <+: code.toList ∧
          ∀ pattern ∈ table.names, pattern.toList <+: code.toList →
            pattern.length ≤ other.length) →
        (table.withSelection select ignore).severity code = .off) ∧
      ((¬∃ other ∈ ignore, other.toList <+: code.toList ∧
          ∀ pattern ∈ table.names, pattern.toList <+: code.toList →
            pattern.length ≤ other.length) →
        (table.withSelection select ignore).severity code = table.severity code)) := by
  refine ⟨fun hselect => ?_, ?_⟩
  · have hshown : (table.withSelection select ignore).enabled code = true ↔
        ∃ entry, IsLongest (select.filter (· ≠ "")) code entry ∧
          ∀ other ∈ ignore, other.toList <+: code.toList → other.length < entry.length := by
      rw [enabled_iff]
      constructor
      · intro hon
        by_contra hnone
        push Not at hnone
        exact hon (severity_withSelection_eq_off hselect hnone)
      · rintro ⟨entry, hentry, hignore⟩
        rw [severity_withSelection_of_isLongest table hentry hignore]
        exact selectedSeverity_ne_off table entry
    refine ⟨hshown, fun hon entry hentry => ?_⟩
    obtain ⟨chosen, hchosen, hignore⟩ := hshown.mp hon
    obtain rfl := hentry.unique hchosen
    rw [severity_withSelection_of_isLongest table hentry hignore, selectedSeverity_eq_ite]
  · rintro rfl
    refine ⟨?_, fun hnone => ?_⟩
    · rintro ⟨other, hother, hstarts, hlongest⟩
      exact severity_withSelection_nil_eq_off hother hstarts hlongest
    · push Not at hnone
      exact severity_withSelection_nil_of_longer hnone

/-- The longer of two selected entries shows its code, also if an entry between
them is ignored.  That entry turns off the codes of the shorter one, and says
nothing about a code with a longer pattern if nothing is selected. -/
theorem selection_shows_longer_entry :
    (withSelection ⟨[("T", .off), ("T105", .info)]⟩ ["T", "", "T105", "T"] ["T10"]).severity
        "T105" = .info ∧
      (withSelection ⟨[("T", .off), ("T105", .info)]⟩ ["T", "", "T105", "T"] ["T10"]).enabled
        "T100" ≠ true ∧
      (withSelection ⟨[("T", .off), ("T105", .info)]⟩ [] ["T10"]).severity "T105" = .info := by
  refine ⟨?_, ?_, ?_⟩
  · have hlongest : IsLongest (["T", "", "T105", "T"].filter (· ≠ "")) "T105" "T105" :=
      ⟨by decide, by decide, by decide⟩
    obtain ⟨hshown, hseverity⟩ := (selection_shows_iff ⟨[("T", .off), ("T105", .info)]⟩
      ["T", "", "T105", "T"] ["T10"] "T105").1 (by decide)
    exact (hseverity (hshown.mpr ⟨"T105", hlongest, by decide⟩) "T105" hlongest).trans (by decide)
  · have hlongest : IsLongest (["T", "", "T105", "T"].filter (· ≠ "")) "T100" "T" :=
      ⟨by decide, by decide, by decide⟩
    intro hon
    obtain ⟨entry, hentry, hignore⟩ := ((selection_shows_iff ⟨[("T", .off), ("T105", .info)]⟩
      ["T", "", "T105", "T"] ["T10"] "T100").1 (by decide)).1.mp hon
    obtain rfl := hentry.unique hlongest
    exact absurd (hignore "T10" (by decide) (by decide)) (by decide)
  · refine (((selection_shows_iff ⟨[("T", .off), ("T105", .info)]⟩ [] ["T10"] "T105").2 rfl).2
      ?_).trans (by decide)
    rintro ⟨other, hother, -, hlongest⟩
    obtain rfl := List.mem_singleton.mp hother
    exact absurd (hlongest "T105" (by decide) (by decide)) (by decide)

/-! ## Severities that a selection keeps -/

/-- A start of a code has the severity of the code, unless a longer pattern
decides the code. -/
theorem severity_of_start (hentry : entry.toList <+: code.toList)
    (hlongest : ∀ pattern ∈ table.names, pattern.toList <+: code.toList →
      pattern.length ≤ entry.length) :
    table.severity entry = table.severity code := by
  by_cases hstart : ∃ pattern ∈ table.names, pattern.toList <+: code.toList
  · obtain ⟨pattern, hpattern⟩ := exists_isLongest hstart
    have hle := hlongest pattern hpattern.mem hpattern.starts
    have hdecides : IsLongest table.names entry pattern :=
      ⟨hpattern.mem, starts_of_length_le hpattern.starts hentry hle,
        fun other hother hstarts => hpattern.longest other hother (hstarts.trans hentry)⟩
    exact Option.some.inj ((get?_of_isLongest hdecides).symm.trans (get?_of_isLongest hpattern))
  · push Not at hstart
    rw [severity_of_not_starts hstart]
    exact severity_of_not_starts fun pattern hpattern hstarts =>
      hstart pattern hpattern (hstarts.trans hentry)

/-- A selection keeps the severity of a code that it shows exactly if the longest
selected entry has the same severity, or would be off while the code is an error.
That is so if no pattern of the table that the code starts with is longer than
the entry. -/
theorem selection_keeps_severity_iff (table : SeverityTable) (select ignore : List String)
    (hentry : IsLongest (select.filter (· ≠ "")) code entry)
    (hignore : ∀ other ∈ ignore, ¬other.toList <+: code.toList)
    (hon : table.severity code ≠ .off) :
    ((table.withSelection select ignore).severity code = table.severity code ↔
      table.severity entry = table.severity code ∨
        table.severity entry = .off ∧ table.severity code = .error) ∧
    ((∀ pattern ∈ table.names, pattern.toList <+: code.toList → pattern.length ≤ entry.length) →
      (table.withSelection select ignore).severity code = table.severity code) := by
  have hseverity := severity_withSelection_of_isLongest table hentry
    fun other hother hstarts => absurd hstarts (hignore other hother)
  have hkept : (table.withSelection select ignore).severity code = table.severity code ↔
      table.severity entry = table.severity code ∨
        table.severity entry = .off ∧ table.severity code = .error := by
    rw [hseverity, selectedSeverity_eq_ite]
    split_ifs with hoff
    · rw [hoff, eq_comm]
      simp [hon.symm]
    · simp [hoff]
  exact ⟨hkept, fun hlongest => hkept.mpr (Or.inl (severity_of_start hentry.starts hlongest))⟩

theorem selection_keeps_severity_of_T100 :
    (withSelection ⟨[("T", .warning), ("T105", .info)]⟩ ["T", "T10"] ["T2"]).severity "T100" =
      .warning := by
  have hlongest : IsLongest (["T", "T10"].filter (· ≠ "")) "T100" "T10" :=
    ⟨by decide, by decide, by decide⟩
  have hkeeps := (selection_keeps_severity_iff ⟨[("T", .warning), ("T105", .info)]⟩ ["T", "T10"]
    ["T2"] hlongest (by decide) (by decide)).2 (by decide)
  exact hkeeps.trans (by decide)

/-- A code that is a warning becomes an error when all codes that start like it
are selected. -/
theorem selection_forgets_longer_pattern :
    "T" ≠ "" ∧ "T".toList <+: "T100".toList ∧
      severity ⟨[("T100", .warning)]⟩ "T100" = .warning ∧
      (withSelection ⟨[("T100", .warning)]⟩ ["T"] []).severity "T100" = .error := by
  decide

end Stencil.SeverityTable
