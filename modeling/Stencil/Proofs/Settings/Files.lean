import Stencil.CommandLine.Basic
import Stencil.Proofs.Settings.Reading

/-!
# Which file decides a setting

The settings of a project come from three files.  Their outermost entries stand
in one list, the highest entry first: those of `tplc.toml`, then those of
`.tplc.toml`, then those of the user.  `settings_follow_highest_file` says that the
settings that this list asks for are loaded.  Delimiters are checked behind
everything else, so an empty one matters only in the pair that counts, and only if
every value can be read.
-/

namespace Stencil.Settings

open Toml

variable {α : Type} {entries : List (String × Toml)} {name : String} {default a : α}
  {read? : Toml → Option α} {Inside : List (String × Toml) → α → Prop} {table : SeverityTable}

/-! ## The severities of several files -/

/-- The entries of the tables of severities, the highest first. -/
def severityEntries (entries : List (String × Toml)) : List (String × Toml) :=
  under "severity" (under "diagnostics" entries)

/-- The section on diagnostics and the severities in it are written as tables. -/
structure HasSections (entries : List (String × Toml)) : Prop where
  diagnostics : OnlyTables entries "diagnostics"
  severity : OnlyTables (under "diagnostics" entries) "severity"

/-- The severities of several files are those of each file, one after another. -/
theorem severityEntries_flatMap {β : Type} {outer : β → List (String × Toml)} {files : List β}
    (hfiles : ∀ file ∈ files, HasSections (outer file)) :
    HasSections (files.flatMap outer) ∧
      severityEntries (files.flatMap outer) =
        files.flatMap fun file => severityEntries (outer file) := by
  induction files with
  | nil => exact ⟨⟨fun _ h => absurd h List.not_mem_nil, fun _ h => absurd h List.not_mem_nil⟩, rfl⟩
  | cons file files ih =>
      obtain ⟨hdiagnostics, hseverity⟩ := hfiles file List.mem_cons_self
      obtain ⟨hrest, hentries⟩ := ih fun file hfile => hfiles file (List.mem_cons_of_mem _ hfile)
      have hunder := under_append hdiagnostics (files.flatMap outer)
      rw [List.flatMap_cons, List.flatMap_cons, ← hentries, severityEntries, hunder]
      refine ⟨⟨hdiagnostics.append hrest.diagnostics, ?_⟩, under_append hseverity _⟩
      rw [hunder]
      exact hseverity.append hrest.severity

/-- A setting that is written as a table everywhere is read from the tables, or
is not there at all. -/
theorem inside_of_onlyTables (htables : OnlyTables entries name)
    (hgiven : GivenInside entries name default read? Inside a) :
    (under name entries = [] ∧ a = default) ∨ Inside (under name entries) a := by
  unfold GivenInside at hgiven
  cases hlookup : entries.lookup name with
  | none =>
      rw [hlookup] at hgiven
      exact Or.inl ⟨under_eq_nil (by simp [hlookup]), hgiven⟩
  | some value =>
      obtain ⟨inner, rfl⟩ := htables value (Dict.mem_of_lookup hlookup)
      rw [hlookup] at hgiven
      exact Or.inr hgiven

theorem codeGiven_of_hasSections (hsections : HasSections entries)
    (hgiven : DiagnosticsGiven entries table) (code : String) :
    CodeGiven (severityEntries entries) code (table.get? code) := by
  rcases inside_of_onlyTables hsections.diagnostics hgiven with ⟨hnone, rfl⟩ | hgiven
  · rw [severityEntries, hnone]
    rfl
  · rcases inside_of_onlyTables hsections.severity hgiven with ⟨hnone, rfl⟩ | hgiven
    · rw [severityEntries, hnone]
      rfl
    · exact hgiven code

/-! ## Three files -/

/-- The outermost entries of a file that may be missing, the last one first.  A
name with dots is a path. -/
def outermost (file : Option (List (String × Toml))) : List (String × Toml) :=
  ((file.getD []).flatMap rootEntry).reverse

/-- A file that may be missing holds a table. -/
def Holds (text : Option String) (file : Option (List (String × Toml))) : Prop :=
  text.map Toml.parse? = file.map some

/-- The files that are there, from the lowest to the highest, are merged. -/
theorem merge_eq_merged (files : List (Option (List (String × Toml)))) :
    merge (files.filterMap id) = merged (files.reverse.flatMap outermost) := by
  have hentries : (files.reverse.flatMap outermost).reverse =
      ((files.filterMap id).map fun file => file.flatMap rootEntry).flatten := by
    rw [List.reverse_flatMap, List.reverse_reverse]
    induction files with
    | nil => rfl
    | cons file files ih => cases file <;> simp [outermost, ih]
  rw [merge, foldl_layerEntries, merged, hentries]

/-- The table in a file. -/
def readTable (text : String) : Except SettingsError (List (String × Toml)) :=
  match Toml.parse? text with
  | some entries => pure entries
  | none => throw .config

theorem mapM_readTable {texts : List (Option String)}
    {files : List (Option (List (String × Toml)))} (hfiles : List.Forall₂ Holds texts files) :
    (texts.filterMap id).mapM readTable = .ok (files.filterMap id) := by
  induction hfiles with
  | nil => rfl
  | @cons text file _ _ hfile _ ih =>
      cases text with
      | none =>
          cases file with
          | none => exact ih
          | some entries => cases hfile
      | some text =>
          cases file with
          | none => cases hfile
          | some entries =>
              have hread : readTable text = .ok entries := by
                rw [readTable, Option.some.inj hfile]
                rfl
              change (text :: List.filterMap id _).mapM readTable =
                .ok (entries :: List.filterMap id _)
              rw [List.mapM_cons, hread, ih]
              rfl

theorem load_eq_ofLayers {texts : List (Option String)}
    {files : List (Option (List (String × Toml)))} (hfiles : List.Forall₂ Holds texts files) :
    load texts = ofLayers (files.filterMap id) := by
  change ((texts.filterMap id).mapM readTable >>= ofLayers) = _
  rw [mapM_readTable hfiles]
  rfl

end Stencil.Settings

namespace Stencil.CommandLine

open Settings Toml

/-- The settings of a project are those that its files ask for: `tplc.toml` comes
before `.tplc.toml`, and that before the file of the user.  They are loaded unless
a value cannot be read or a delimiter of the pair that counts is empty, and the
delimiters are the reason only in the second case.  If the severities are written
as tables in all files, each code has the severity that the highest file with the
code says. -/
theorem settings_follow_highest_file (s : Surroundings)
    (user dotted plain : Option (List (String × Toml)))
    (huser : Holds s.user user) (hdotted : Holds (s.read ".tplc.toml") dotted)
    (hplain : Holds (s.read "tplc.toml") plain) :
    (∀ loaded, settings s = .ok loaded →
      Follows ([plain, dotted, user].flatMap outermost) loaded ∧
        ∀ pair ∈ loaded.delimiters, ¬HasEmpty pair) ∧
    ((∃ loaded, settings s = .ok loaded) ↔
      ∃ expected, Follows ([plain, dotted, user].flatMap outermost) expected ∧
        ∀ pair ∈ expected.delimiters, ¬HasEmpty pair) ∧
    (∀ pair, settings s = .error (.delimiters pair) ↔
      ∃ expected, Follows ([plain, dotted, user].flatMap outermost) expected ∧
        expected.delimiters = some pair ∧ HasEmpty pair) ∧
    ((∀ file ∈ [plain, dotted, user], HasSections (outermost file)) →
      ∀ loaded, settings s = .ok loaded → ∀ code,
        CodeGiven ([plain, dotted, user].flatMap fun file => severityEntries (outermost file)) code
          (loaded.severity.get? code)) := by
  have hload : settings s = ofEntries (merged ([plain, dotted, user].flatMap outermost)) := by
    rw [settings, load_eq_ofLayers (.cons huser (.cons hdotted (.cons hplain .nil))), ofLayers,
      merge_eq_merged]
    rfl
  rw [hload]
  refine ⟨fun loaded hok => follows_of_ofEntries_eq_ok hok, ofEntries_merged_eq_ok_iff,
    fun pair => ofEntries_merged_eq_error_iff, fun hsections loaded hok code => ?_⟩
  obtain ⟨hall, hentries⟩ := severityEntries_flatMap hsections
  rw [← hentries]
  exact codeGiven_of_hasSections hall (follows_of_ofEntries_eq_ok hok).1.severity code

/-- A project with both of its files, and a user with one. -/
def threeFiles : Surroundings where
  read path :=
    if path = "tplc.toml" then some "debug=false"
    else if path = ".tplc.toml" then some "debug=true\noptimize=true" else none
  user := some "optimize=false\ncomments=true"

theorem settings_of_threeFiles :
    ∃ loaded, settings threeFiles = .ok loaded ∧ loaded.debug = false ∧ loaded.optimize = true ∧
      loaded.comments = true := by
  obtain ⟨hfollows, hexists, -, -⟩ := settings_follow_highest_file threeFiles
    (some [("optimize", .boolean false), ("comments", .boolean true)])
    (some [("debug", .boolean true), ("optimize", .boolean true)])
    (some [("debug", .boolean false)]) rfl rfl rfl
  obtain ⟨loaded, hloaded⟩ := hexists.mpr
    ⟨{ comments := true }, ⟨rfl, rfl, rfl, rfl, rfl, rfl, rfl, rfl⟩, by simp⟩
  obtain ⟨⟨hdebug, -, -, hoptimize, -, hcomments, -, -⟩, -⟩ := hfollows loaded hloaded
  exact ⟨loaded, hloaded, (Option.some.inj hdebug).symm, (Option.some.inj hoptimize).symm,
    (Option.some.inj hcomments).symm⟩

-- An empty delimiter of the user does no harm here, and the severities of both files count.
example :
    settings
        { read := fun path =>
            if path = "tplc.toml" then some "delimiters=['<','>']\ndiagnostics.severity.T='hint'"
            else none
          user := some "delimiters=['','']\n[diagnostics.severity]\nT='off'\nC='info'" } =
      .ok { delimiters := some ⟨"<", ">"⟩, severity := ⟨[("T", .hint), ("C", .info)]⟩ } := by
  decide +kernel

end Stencil.CommandLine
