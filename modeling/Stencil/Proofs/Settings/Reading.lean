import Stencil.Proofs.Toml.Layers
import Stencil.Proofs.Traversal
import Stencil.Settings

/-!
# Settings that entries ask for

`Follows` says which settings some entries ask for, the highest entry first.  A
setting is what the highest entry with its name says, and has its default if
there is none (`Given`).  The severities are put together from tables: the section
on diagnostics, the table of severities in it, and each code there may stand in
several of them (`GivenInside`).

The entries make one table, and the settings are read from that.  Three facts tie
the two together: settings that are read are those that the entries ask for
(`follows_of_ofEntries_eq_ok`); there are some unless a value cannot be read or a
delimiter is empty (`ofEntries_merged_eq_ok_iff`); and empty delimiters are
reported only if all values can be read (`ofEntries_merged_eq_error_iff`).
-/

namespace Stencil.Settings

open Toml

variable {α : Type} {entries : List (String × Toml)} {name code : String}
  {default a : α} {read? : Toml → Option α} {Inside : List (String × Toml) → α → Prop}
  {table : SeverityTable} {settings : Settings}

/-! ## What entries ask for -/

/-- The value of a setting: what the highest entry with its name says, or a
default if there is none. -/
def Given (entries : List (String × Toml)) (name : String) (default : α)
    (read? : Toml → Option α) (a : α) : Prop :=
  match entries.lookup name with
  | none => a = default
  | some value => read? value = some a

/-- The value of a setting that may be written as a table.  If the highest entry
is one, the value is read from all tables under the name. -/
def GivenInside (entries : List (String × Toml)) (name : String) (default : α)
    (read? : Toml → Option α) (Inside : List (String × Toml) → α → Prop) (a : α) : Prop :=
  match entries.lookup name with
  | none => a = default
  | some (.table _) => Inside (under name entries) a
  | some value => read? value = some a

/-- Entries name a severity if all of them have its word for a name. -/
def NamesSeverity (entries : List (String × Toml)) (found : Option Severity) : Prop :=
  ∃ word severity, entries ≠ [] ∧ (∀ entry ∈ entries, entry.1 = word) ∧
    Severity.ofWord? word = some severity ∧ found = some severity

/-- The severity of a code, if it has one. -/
def CodeGiven (entries : List (String × Toml)) (code : String) (found : Option Severity) : Prop :=
  GivenInside entries code none (fun value => value.severity?.map some) NamesSeverity found

/-- The severities of the section on diagnostics: each code has its own. -/
def SeveritiesGiven (entries : List (String × Toml)) (table : SeverityTable) : Prop :=
  GivenInside entries "severity" {} severities?
    (fun inner table => ∀ code, CodeGiven inner code (table.get? code)) table

/-- The severities. -/
def DiagnosticsGiven (entries : List (String × Toml)) (table : SeverityTable) : Prop :=
  GivenInside entries "diagnostics" {} diagnostics? SeveritiesGiven table

/-- Settings are those that some entries ask for, the highest entry first. -/
structure Follows (entries : List (String × Toml)) (settings : Settings) : Prop where
  debug : Given entries "debug" false flag? settings.debug
  delimiters : Given entries "delimiters" none (fun value => value.delimiters?.map some)
    settings.delimiters
  outputSourceRange : Given entries "output_source_range" false flag? settings.outputSourceRange
  optimize : Given entries "optimize" true flag? settings.optimize
  preserveWhitespace : Given entries "preserve_whitespace" true flag? settings.preserveWhitespace
  comments : Given entries "comments" false flag? settings.comments
  allowRuntimeCompilation : Given entries "allow_runtime_compilation" true flag?
    settings.allowRuntimeCompilation
  severity : DiagnosticsGiven entries settings.severity

/-- One of two delimiters is empty. -/
def HasEmpty (pair : Delimiters) : Prop :=
  pair.openText = "" ∨ pair.closeText = ""

/-! ## The table that entries make -/

/-- A setting that is not written as a table is the same in the table. -/
theorem given_merged_iff (hread : ∀ inner, read? (.table inner) = none) :
    Given (merged entries) name default read? a ↔ Given entries name default read? a := by
  unfold Given
  rw [lookup_merged]
  by_cases htable : ∃ inner, entries.lookup name = some (.table inner)
  · obtain ⟨inner, hinner⟩ := htable
    simp only [highest?_of_table hinner, hinner, hread]
  · push Not at htable
    rw [highest?_of_not_table htable]

theorem givenInside_of_merged
    (hinside : ∀ inner, read? (.table (merged inner)) = some a → Inside inner a)
    (hgiven : Given (merged entries) name default read? a) :
    GivenInside entries name default read? Inside a := by
  unfold Given at hgiven
  unfold GivenInside
  rw [lookup_merged] at hgiven
  cases hlookup : entries.lookup name with
  | none => simpa only [highest?, hlookup] using hgiven
  | some value =>
      cases value with
      | table inner =>
          rw [highest?_of_table hlookup] at hgiven
          exact hinside _ hgiven
      | _ => simpa only [highest?, hlookup] using hgiven

/-- What entries ask for can be read in the table, if this is so for the tables
under each name. -/
theorem exists_given_merged
    (hinside : ∀ inner, Inside inner a → ∃ b, read? (.table (merged inner)) = some b)
    (hgiven : GivenInside entries name default read? Inside a) :
    ∃ b, Given (merged entries) name default read? b := by
  unfold GivenInside at hgiven
  unfold Given
  rw [lookup_merged]
  cases hlookup : entries.lookup name with
  | none => exact ⟨default, by simp only [highest?, hlookup]⟩
  | some value =>
      rw [hlookup] at hgiven
      cases value with
      | table inner =>
          rw [highest?_of_table hlookup]
          exact hinside _ hgiven
      | _ => exact ⟨a, by simpa only [highest?, hlookup] using hgiven⟩

/-! ## Severities -/

theorem severity?_merged_iff {found : Option Severity} :
    (Toml.table (merged entries)).severity?.map some = some found ↔
      NamesSeverity entries found := by
  have hsingle {severity : Severity} : (Toml.table (merged entries)).severity? = some severity ↔
      ∃ word, (∃ value, merged entries = [(word, value)]) ∧
        Severity.ofWord? word = some severity := by
    match merged entries with
    | [] => simp [severity?]
    | [(word, value)] => simp [severity?]
    | _ :: _ :: _ => simp [severity?]
  rw [Option.map_eq_some_iff]
  simp only [hsingle, merged_eq_singleton_iff]
  constructor
  · rintro ⟨severity, ⟨word, ⟨hne, hall⟩, hword⟩, rfl⟩
    exact ⟨word, severity, hne, hall, hword, rfl⟩
  · rintro ⟨word, severity, hne, hall, hword, rfl⟩
    exact ⟨severity, ⟨word, ⟨hne, hall⟩, hword⟩, rfl⟩

/-- A pair holds the severity that an entry says. -/
def Converted (entry : String × Toml) (pair : String × Severity) : Prop :=
  pair.1 = entry.1 ∧ entry.2.severity? = some pair.2

theorem names_of_converted {pairs : List (String × Severity)}
    (hpairs : List.Forall₂ Converted entries pairs) :
    pairs.map Prod.fst = entries.map Prod.fst := by
  induction hpairs with
  | nil => rfl
  | cons hpair _ ih => rw [List.map_cons, List.map_cons, hpair.1, ih]

theorem given_of_converted {pairs : List (String × Severity)}
    (hpairs : List.Forall₂ Converted entries pairs) (code : String) :
    Given entries code none (fun value => value.severity?.map some) (pairs.lookup code) := by
  unfold Given
  induction hpairs with
  | nil => rfl
  | @cons entry pair _ _ hpair _ ih =>
      obtain ⟨key, severity⟩ := pair
      obtain ⟨rfl, hseverity⟩ := hpair
      rw [Dict.lookup_cons_eq_ite, Dict.lookup_cons_eq_ite]
      by_cases hcode : code = entry.1
      · simp only [if_pos hcode, hseverity, Option.map_some]
      · simpa only [if_neg hcode] using ih

/-- In a table of severities that can be read a code has the severity that its
value says. -/
theorem given_of_severities? (hnodup : (entries.map Prod.fst).Nodup)
    (hread : (Toml.table entries).severities? = some table) (code : String) :
    Given entries code none (fun value => value.severity?.map some) (table.get? code) := by
  obtain ⟨pairs, hpairs, htable⟩ := Option.bind_eq_some_iff.mp hread
  obtain rfl := Option.some.inj htable
  have hconverted : List.Forall₂ Converted entries pairs := by
    refine (mapM_eq_some_iff.mp hpairs).imp fun entry pair hpair => ?_
    obtain ⟨severity, hseverity, rfl⟩ := Option.map_eq_some_iff.mp hpair
    exact ⟨rfl, hseverity⟩
  rw [Dict.get?_ofList (names_of_converted hconverted ▸ hnodup)]
  exact given_of_converted hconverted code

/-- A table of severities can be read if each of its values can. -/
theorem exists_severities? (hread : ∀ entry ∈ entries, entry.2.severity? ≠ none) :
    ∃ table, (Toml.table entries).severities? = some table := by
  obtain ⟨pairs, hpairs⟩ := mapM_isSome
    (fun (entry : String × Toml) => entry.2.severity?.map fun severity => (entry.1, severity))
    entries fun entry hentry => by
      rw [Option.isSome_map, ← Option.ne_none_iff_isSome]
      exact hread entry hentry
  exact ⟨Dict.ofList pairs, bind_eq_some_of rfl hpairs⟩

theorem codeGiven_of_severities? (hread : (Toml.table (merged entries)).severities? = some table)
    (code : String) : CodeGiven entries code (table.get? code) :=
  givenInside_of_merged (fun _ => severity?_merged_iff.mp)
    (given_of_severities? (nodup_merged entries) hread code)

theorem exists_severities?_of_codeGiven
    (hcodes : ∀ code, CodeGiven entries code (table.get? code)) :
    ∃ found, (Toml.table (merged entries)).severities? = some found := by
  apply exists_severities?
  rintro ⟨code, value⟩ hentry hnone
  obtain ⟨found, hfound⟩ := exists_given_merged
    (fun _ hnames => ⟨_, severity?_merged_iff.mpr hnames⟩) (hcodes code)
  rw [Given, Dict.lookup_of_mem (nodup_merged entries) hentry] at hfound
  simp [hnone] at hfound

/-! ## The section on diagnostics -/

theorem diagnostics?_table_iff :
    (Toml.table entries).diagnostics? = some table ↔
      Given entries "severity" {} severities? table := by
  rw [diagnostics?, Given]
  cases entries.lookup "severity" with
  | none => simp [eq_comm]
  | some value => rfl

theorem diagnosticsGiven_of_merged
    (hgiven : Given (merged entries) "diagnostics" {} diagnostics? table) :
    DiagnosticsGiven entries table := by
  refine givenInside_of_merged (fun inner hread => ?_) hgiven
  exact givenInside_of_merged (fun _ => codeGiven_of_severities?)
    (diagnostics?_table_iff.mp hread)

theorem exists_given_diagnostics (hgiven : DiagnosticsGiven entries table) :
    ∃ found, Given (merged entries) "diagnostics" {} diagnostics? found := by
  refine exists_given_merged (fun inner hinner => ?_) hgiven
  obtain ⟨found, hfound⟩ :=
    exists_given_merged (fun _ => exists_severities?_of_codeGiven) hinner
  exact ⟨found, diagnostics?_table_iff.mpr hfound⟩

/-! ## Reading all settings -/

/-- Settings are those that a table has. -/
structure Reads (entries : List (String × Toml)) (settings : Settings) : Prop where
  debug : entry entries "debug" false flag? = .ok settings.debug
  delimiters : entry entries "delimiters" none (fun value => value.delimiters?.map some) =
    .ok settings.delimiters
  outputSourceRange : entry entries "output_source_range" false flag? =
    .ok settings.outputSourceRange
  optimize : entry entries "optimize" true flag? = .ok settings.optimize
  preserveWhitespace : entry entries "preserve_whitespace" true flag? =
    .ok settings.preserveWhitespace
  comments : entry entries "comments" false flag? = .ok settings.comments
  allowRuntimeCompilation : entry entries "allow_runtime_compilation" true flag? =
    .ok settings.allowRuntimeCompilation
  severity : entry entries "diagnostics" {} diagnostics? = .ok settings.severity

theorem entry_eq_ok_iff :
    entry entries name default read? = .ok a ↔ Given entries name default read? a := by
  unfold entry Given
  cases entries.lookup name with
  | none => simp [eq_comm]
  | some value => cases hread : read? value <;> simp [hread]

theorem entry_eq_error {error : SettingsError}
    (herror : entry entries name default read? = .error error) : error = .config := by
  unfold entry at herror
  split at herror
  · cases herror
  · split at herror
    · cases herror
    · exact (Except.error.inj herror).symm

/-- Reading goes on behind a setting only if its value can be read. -/
theorem ok_of_entry_bind {β : Type} {rest : α → Except SettingsError β}
    (hne : (entry entries name default read? >>= rest) ≠ .error .config) :
    ∃ a, entry entries name default read? = .ok a ∧ rest a ≠ .error .config := by
  cases hentry : entry entries name default read? with
  | error error =>
      rw [hentry, entry_eq_error hentry] at hne
      exact absurd rfl hne
  | ok a =>
      rw [hentry] at hne
      exact ⟨a, rfl, hne⟩

theorem exists_reads (hne : ofEntries entries ≠ .error .config) :
    ∃ settings, Reads entries settings := by
  unfold ofEntries at hne
  obtain ⟨debug, hdebug, hne⟩ := ok_of_entry_bind hne
  obtain ⟨delimiters, hdelimiters, hne⟩ := ok_of_entry_bind hne
  obtain ⟨outputSourceRange, houtputSourceRange, hne⟩ := ok_of_entry_bind hne
  obtain ⟨optimize, hoptimize, hne⟩ := ok_of_entry_bind hne
  obtain ⟨preserveWhitespace, hpreserveWhitespace, hne⟩ := ok_of_entry_bind hne
  obtain ⟨comments, hcomments, hne⟩ := ok_of_entry_bind hne
  obtain ⟨allowRuntimeCompilation, hallowRuntimeCompilation, hne⟩ := ok_of_entry_bind hne
  obtain ⟨severity, hseverity, -⟩ := ok_of_entry_bind hne
  exact ⟨⟨debug, delimiters, outputSourceRange, optimize, preserveWhitespace, comments,
    allowRuntimeCompilation, severity⟩, hdebug, hdelimiters, houtputSourceRange, hoptimize,
    hpreserveWhitespace, hcomments, hallowRuntimeCompilation, hseverity⟩

/-- Behind everything else the delimiters are checked. -/
theorem ofEntries_of_reads (hreads : Reads entries settings) :
    ofEntries entries =
      match settings.delimiters with
      | some pair =>
        if pair.openText.isEmpty || pair.closeText.isEmpty then .error (.delimiters pair)
        else .ok settings
      | none => .ok settings := by
  rw [ofEntries, hreads.debug, hreads.delimiters, hreads.outputSourceRange, hreads.optimize,
    hreads.preserveWhitespace, hreads.comments, hreads.allowRuntimeCompilation, hreads.severity]
  rfl

theorem isEmpty_or_iff {pair : Delimiters} :
    (pair.openText.isEmpty || pair.closeText.isEmpty) = true ↔ HasEmpty pair := by
  rw [Bool.or_eq_true, String.isEmpty_iff, String.isEmpty_iff, HasEmpty]

theorem ofEntries_eq_error {pair : Delimiters} (hreads : Reads entries settings)
    (hpair : settings.delimiters = some pair) (hempty : HasEmpty pair) :
    ofEntries entries = .error (.delimiters pair) := by
  rw [ofEntries_of_reads hreads, hpair]
  exact if_pos (isEmpty_or_iff.mpr hempty)

theorem ofEntries_eq_ok (hreads : Reads entries settings)
    (hfilled : ∀ pair ∈ settings.delimiters, ¬HasEmpty pair) :
    ofEntries entries = .ok settings := by
  rw [ofEntries_of_reads hreads]
  cases hpair : settings.delimiters with
  | none => rfl
  | some pair => exact if_neg fun hempty => hfilled pair hpair (isEmpty_or_iff.mp hempty)

/-! ## Settings that entries ask for -/

theorem entry_merged_iff (hread : ∀ inner, read? (.table inner) = none) :
    entry (merged entries) name default read? = .ok a ↔ Given entries name default read? a :=
  entry_eq_ok_iff.trans (given_merged_iff hread)

theorem follows_of_reads (hreads : Reads (merged entries) settings) :
    Follows entries settings where
  debug := (entry_merged_iff fun _ => rfl).mp hreads.debug
  delimiters := (entry_merged_iff fun _ => rfl).mp hreads.delimiters
  outputSourceRange := (entry_merged_iff fun _ => rfl).mp hreads.outputSourceRange
  optimize := (entry_merged_iff fun _ => rfl).mp hreads.optimize
  preserveWhitespace := (entry_merged_iff fun _ => rfl).mp hreads.preserveWhitespace
  comments := (entry_merged_iff fun _ => rfl).mp hreads.comments
  allowRuntimeCompilation := (entry_merged_iff fun _ => rfl).mp hreads.allowRuntimeCompilation
  severity := diagnosticsGiven_of_merged (entry_eq_ok_iff.mp hreads.severity)

/-- What entries ask for is read.  The order of the severities may be another
one. -/
theorem exists_reads_of_follows (hfollows : Follows entries settings) :
    ∃ table, Reads (merged entries) { settings with severity := table } := by
  obtain ⟨table, htable⟩ := exists_given_diagnostics hfollows.severity
  exact ⟨table,
    (entry_merged_iff fun _ => rfl).mpr hfollows.debug,
    (entry_merged_iff fun _ => rfl).mpr hfollows.delimiters,
    (entry_merged_iff fun _ => rfl).mpr hfollows.outputSourceRange,
    (entry_merged_iff fun _ => rfl).mpr hfollows.optimize,
    (entry_merged_iff fun _ => rfl).mpr hfollows.preserveWhitespace,
    (entry_merged_iff fun _ => rfl).mpr hfollows.comments,
    (entry_merged_iff fun _ => rfl).mpr hfollows.allowRuntimeCompilation,
    entry_eq_ok_iff.mpr htable⟩

theorem follows_of_ofEntries_eq_ok (hok : ofEntries (merged entries) = .ok settings) :
    Follows entries settings ∧ ∀ pair ∈ settings.delimiters, ¬HasEmpty pair := by
  have hne : ofEntries (merged entries) ≠ .error .config := by simp [hok]
  obtain ⟨found, hreads⟩ := exists_reads hne
  have hfilled : ∀ pair ∈ found.delimiters, ¬HasEmpty pair := by
    intro pair hpair hempty
    rw [ofEntries_eq_error hreads hpair hempty] at hok
    cases hok
  rw [ofEntries_eq_ok hreads hfilled] at hok
  obtain rfl := Except.ok.inj hok
  exact ⟨follows_of_reads hreads, hfilled⟩

theorem ofEntries_merged_eq_ok_iff :
    (∃ loaded, ofEntries (merged entries) = .ok loaded) ↔
      ∃ expected, Follows entries expected ∧ ∀ pair ∈ expected.delimiters, ¬HasEmpty pair := by
  constructor
  · rintro ⟨loaded, hloaded⟩
    exact ⟨loaded, follows_of_ofEntries_eq_ok hloaded⟩
  · rintro ⟨expected, hfollows, hfilled⟩
    obtain ⟨table, hreads⟩ := exists_reads_of_follows hfollows
    exact ⟨_, ofEntries_eq_ok hreads hfilled⟩

theorem ofEntries_merged_eq_error_iff {pair : Delimiters} :
    ofEntries (merged entries) = .error (.delimiters pair) ↔
      ∃ expected, Follows entries expected ∧ expected.delimiters = some pair ∧ HasEmpty pair := by
  constructor
  · intro herror
    have hne : ofEntries (merged entries) ≠ .error .config := by simp [herror]
    obtain ⟨found, hreads⟩ := exists_reads hne
    by_cases hfilled : ∀ pair ∈ found.delimiters, ¬HasEmpty pair
    · rw [ofEntries_eq_ok hreads hfilled] at herror
      cases herror
    · push Not at hfilled
      obtain ⟨other, hother, hempty⟩ := hfilled
      rw [ofEntries_eq_error hreads hother hempty] at herror
      obtain rfl : other = pair := SettingsError.delimiters.inj (Except.error.inj herror)
      exact ⟨found, follows_of_reads hreads, hother, hempty⟩
  · rintro ⟨expected, hfollows, hpair, hempty⟩
    obtain ⟨table, hreads⟩ := exists_reads_of_follows hfollows
    exact ofEntries_eq_error hreads hpair hempty

end Stencil.Settings
