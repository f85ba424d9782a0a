import Mathlib.Data.List.Forall2
import Stencil.CommandLine.Basic
import Stencil.Proofs.Frame
import Stencil.Proofs.Validation.Walk

/-!
# The outcome of a check

A check of a tree ends with status `1` and counts the errors if there are any,
and with status `0` otherwise.  It prints each diagnostic that is not turned off,
one after another.  `Verdict` says so in terms of the diagnostics and of the
severities of their codes.

This is the outcome of every check that reaches its end
(`check_gives_verdict_iff`).  One that has to frame a span that cuts a character
of the template in two does not: it is broken off before it has counted
anything, also if it would print nothing.
-/

namespace Stencil.CommandLine

variable {table : SeverityTable} {diagnostics : List Diagnostic} {quiet styled : Bool}
  {source : Option String} {path : String}

/-! ## What a check should give -/

/-- The diagnostics that a table does not turn off. -/
def shownBy (table : SeverityTable) (diagnostics : List Diagnostic) : List Diagnostic :=
  diagnostics.filter fun d => table.severity d.code ≠ .off

/-- How many diagnostics are errors. -/
def errorCount (table : SeverityTable) (diagnostics : List Diagnostic) : Nat :=
  diagnostics.countP fun d => table.severity d.code = .error

/-- The line that counts errors. -/
def foundLine (count : Nat) : String :=
  if count = 1 then "Found 1 error." else "Found " ++ toString count ++ " errors."

/-- A text is what is printed of a diagnostic, at the level that a table gives
it. -/
def PrintedAs (styled : Bool) (source : Option String) (path : String) (table : SeverityTable)
    (d : Diagnostic) (text : String) : Prop :=
  ∃ level, (table.severity d.code).level? = some level ∧
    text = block styled source path level d ++ "\n\n"

/-- What a check with these diagnostics gives.  Only what it prints depends on
whether it is quiet and on the template. -/
structure Verdict (quiet styled : Bool) (source : Option String) (path : String)
    (table : SeverityTable) (diagnostics : List Diagnostic) (output : Output) : Prop where
  exit : output.exit = if 0 < errorCount table diagnostics then 1 else 0
  stderr : output.stderr =
    if 0 < errorCount table diagnostics then [foundLine (errorCount table diagnostics)] else []
  stdout_of_quiet : quiet = true → output.stdout = ""
  stdout_of_not_quiet : quiet = false → ∃ texts,
    List.Forall₂ (PrintedAs styled source path table) (shownBy table diagnostics) texts ∧
      output.stdout = String.join texts

/-! ## Diagnostics with their levels -/

theorem level?_eq_none_iff {severity : Severity} : severity.level? = none ↔ severity = .off := by
  cases severity <;> simp [Severity.level?]

theorem level?_eq_error_iff {severity : Severity} :
    severity.level? = some .error ↔ severity = .error := by
  cases severity <;> simp [Severity.level?]

theorem mem_shownDiagnostics_iff {level : Level} {d : Diagnostic} :
    (level, d) ∈ shownDiagnostics table diagnostics ↔
      d ∈ diagnostics ∧ (table.severity d.code).level? = some level := by
  simp only [shownDiagnostics, List.mem_filterMap, Option.map_eq_some_iff, Prod.mk.injEq]
  constructor
  · rintro ⟨d, hd, level, hlevel, rfl, rfl⟩
    exact ⟨hd, hlevel⟩
  · rintro ⟨hd, hlevel⟩
    exact ⟨d, hd, level, hlevel, rfl, rfl⟩

theorem mem_shownBy_iff {d : Diagnostic} :
    d ∈ shownBy table diagnostics ↔ ∃ level, (level, d) ∈ shownDiagnostics table diagnostics := by
  simp only [mem_shownDiagnostics_iff, exists_and_left, shownBy, List.mem_filter,
    decide_eq_true_eq]
  rw [← Option.isSome_iff_exists, ← Option.ne_none_iff_isSome, ne_eq, ne_eq, level?_eq_none_iff]

/-- The blocks of a check belong to the diagnostics that are shown, in their
order. -/
theorem forall₂_printedAs :
    List.Forall₂ (PrintedAs styled source path table) (shownBy table diagnostics)
      ((shownDiagnostics table diagnostics).map fun shown =>
        block styled source path shown.1 shown.2 ++ "\n\n") := by
  induction diagnostics with
  | nil => exact .nil
  | cons d diagnostics ih =>
      unfold shownBy shownDiagnostics at ih ⊢
      cases hlevel : (table.severity d.code).level? with
      | none =>
          have hoff := level?_eq_none_iff.mp hlevel
          rwa [List.filter_cons_of_neg (by simpa using hoff),
            List.filterMap_cons_none (by rw [hlevel]; rfl)]
      | some level =>
          have hon : table.severity d.code ≠ .off := by
            rw [ne_eq, ← level?_eq_none_iff, hlevel]
            exact Option.some_ne_none level
          rw [List.filter_cons_of_pos (by simpa using hon),
            List.filterMap_cons_some (by rw [hlevel]; rfl), List.map_cons]
          exact .cons ⟨level, hlevel, rfl⟩ ih

theorem length_filter_error :
    ((shownDiagnostics table diagnostics).filter fun shown => shown.1 == .error).length =
      errorCount table diagnostics := by
  rw [← List.countP_eq_length_filter, shownDiagnostics, List.countP_filterMap, errorCount]
  apply List.countP_congr
  intro d _
  rw [decide_eq_true_eq, ← level?_eq_error_iff]
  cases (table.severity d.code).level? <;> simp

/-! ## The outcome -/

theorem all_isPrintable_iff :
    ((shownDiagnostics table diagnostics).all fun shown => isPrintable source shown.2) = true ↔
      ∀ d ∈ shownBy table diagnostics, Printable source d := by
  rw [List.all_eq_true]
  constructor
  · intro hall d hd
    obtain ⟨level, hmem⟩ := mem_shownBy_iff.mp hd
    exact isPrintable_iff.mp (hall _ hmem)
  · rintro hall ⟨level, d⟩ hmem
    exact isPrintable_iff.mpr (hall d (mem_shownBy_iff.mpr ⟨level, hmem⟩))

theorem foundLine_eq (count : Nat) :
    "Found " ++ toString count ++ " " ++ (if count = 1 then "error" else "errors") ++ "." =
      foundLine count := by
  unfold foundLine
  by_cases hone : count = 1
  · subst hone
    rfl
  · rw [if_neg hone, if_neg hone, String.append_assoc, String.append_assoc]
    rfl

theorem checkOutput_eq
    (hprintable : ∀ d ∈ shownBy table diagnostics, Printable source d) :
    checkOutput quiet styled source path (shownDiagnostics table diagnostics) =
      { exit := if 0 < errorCount table diagnostics then 1 else 0
        stdout := if quiet then "" else
          String.join ((shownDiagnostics table diagnostics).map fun shown =>
            block styled source path shown.1 shown.2 ++ "\n\n")
        stderr := if 0 < errorCount table diagnostics then
          [foundLine (errorCount table diagnostics)] else [] } := by
  have hall := all_isPrintable_iff.mpr hprintable
  simp only [checkOutput, hall, Bool.not_true, Bool.false_eq_true, if_false,
    length_filter_error, foundLine_eq]
  by_cases hzero : errorCount table diagnostics = 0
  · rw [if_pos hzero, if_neg (Nat.not_lt_of_le (Nat.le_of_eq hzero)),
      if_neg (Nat.not_lt_of_le (Nat.le_of_eq hzero))]
  · have hpos := Nat.pos_of_ne_zero hzero
    rw [if_neg hzero, if_pos hpos, if_pos hpos]

theorem verdict_checkOutput
    (hprintable : ∀ d ∈ shownBy table diagnostics, Printable source d) :
    Verdict quiet styled source path table diagnostics
      (checkOutput quiet styled source path (shownDiagnostics table diagnostics)) := by
  rw [checkOutput_eq hprintable]
  refine ⟨rfl, rfl, ?_, ?_⟩
  · rintro rfl
    rfl
  · rintro rfl
    exact ⟨_, forall₂_printedAs, rfl⟩

theorem checkOutput_eq_brokenOff
    (hcut : ¬ ∀ d ∈ shownBy table diagnostics, Printable source d) :
    checkOutput quiet styled source path (shownDiagnostics table diagnostics) = brokenOff := by
  have hall := mt all_isPrintable_iff.mp hcut
  exact if_pos (by simpa using hall)

theorem not_verdict_brokenOff :
    ¬ Verdict quiet styled source path table diagnostics brokenOff := by
  intro hverdict
  have hexit : 101 = if 0 < errorCount table diagnostics then 1 else 0 := hverdict.exit
  split at hexit
  · omega
  · omega

/-! ## Runs -/

section Runs

variable {s : Surroundings} {arguments : List String} {template : Option String}
  {select ignore : List String} {loaded : Settings} {text : String} {tree : Tree}

/-- A check whose files can be read is settled by the diagnostics of its tree. -/
theorem run_check
    (harguments : Invocation.parse arguments = .ok ⟨quiet, .check path template select ignore⟩)
    (hsettings : settings s = .ok loaded)
    (hread : s.read path = some text) (htree : Tree.parse? text = some tree)
    (htemplate : ∀ file ∈ template, (s.read file).isSome) :
    run s arguments = (tree.diagnostics? .ecma).map fun diagnostics =>
      checkOutput quiet s.styled (template.bind s.read) (template.getD path)
        (shownDiagnostics (loaded.severity.withSelection select ignore) diagnostics) := by
  have hparsed : readTree s path = .ok tree := by
    simp only [readTree, readFile, hread, bind, Except.bind, htree]
    rfl
  rw [run, harguments]
  change runCheck s quiet path template select ignore = _
  rw [runCheck, hsettings, hparsed]
  cases template with
  | none => rfl
  | some file =>
      obtain ⟨page, hpage⟩ := Option.isSome_iff_exists.mp (htemplate file rfl)
      simp only [readFile, hpage, Option.bind_some]
      rfl

/-- **A check counts the errors and shows what is not turned off.**  Let a
command line ask for a check, and let the settings, the tree and the template (if
there is one) be readable and the tree be without a cycle.  The check comes to an
end.  Its status, the line that counts the errors and its output are those of the
validator's diagnostics and of their severities under the selection, if and only
if no diagnostic that is shown has a span that cuts a character of the template.
Otherwise the check is broken off, quiet or not. -/
theorem check_gives_verdict_iff
    (harguments : Invocation.parse arguments = .ok ⟨quiet, .check path template select ignore⟩)
    (hsettings : settings s = .ok loaded)
    (hread : s.read path = some text) (htree : Tree.parse? text = some tree)
    (hacyclic : tree.Acyclic) (htemplate : ∀ file ∈ template, (s.read file).isSome) :
    ∃ diagnostics output, tree.diagnostics? .ecma = some diagnostics ∧
      run s arguments = some output ∧
      (Verdict quiet s.styled (template.bind s.read) (template.getD path)
          (loaded.severity.withSelection select ignore) diagnostics output ↔
        ∀ d ∈ shownBy (loaded.severity.withSelection select ignore) diagnostics,
          Printable (template.bind s.read) d) ∧
      ((∃ d ∈ shownBy (loaded.severity.withSelection select ignore) diagnostics,
          ¬ Printable (template.bind s.read) d) → output = brokenOff) := by
  obtain ⟨checks, hchecks⟩ := Tree.acyclic_iff_exists_checks.mp hacyclic
  obtain ⟨diagnostics, hdiagnostics⟩ : ∃ diagnostics,
      tree.diagnostics? .ecma = some diagnostics := ⟨_, congrArg (Option.map _) hchecks⟩
  refine ⟨diagnostics, _, hdiagnostics, ?_, ⟨?_, verdict_checkOutput⟩, ?_⟩
  · rw [run_check harguments hsettings hread htree htemplate, hdiagnostics, Option.map_some]
  · intro hverdict
    by_contra hcut
    rw [checkOutput_eq_brokenOff hcut] at hverdict
    exact not_verdict_brokenOff hverdict
  · rintro ⟨d, hd, hcut⟩
    exact checkOutput_eq_brokenOff fun hall => hcut (hall d hd)

end Runs

/-- A project with a tree, a page that is one letter of two bytes, and settings. -/
def letterProject (tree : Tree) (toml : Option String) : Surroundings where
  read
    | "tree.json" => some tree.render
    | "page.html" => some "é"
    | "tplc.toml" => toml
    | _ => none

/-- A handler, an expression on the letter and an expression somewhere, all of
them wrong. -/
def wrongTree : Tree where
  nodes := [
    .element { written := ⟨[("@click", "delete(a)")]⟩, children := [1, 2] },
    .expression "a +" [] "a +" (some ⟨0, 2⟩) none,
    .expression "if" [] "if" none none]
  root := some 0

/-- Wrong handlers count as warnings. -/
def lenientProject : Surroundings :=
  letterProject wrongTree (some "[diagnostics.severity]\nT102 = \"warning\"\n")

/-- The severities of `lenientProject` in a check that ignores reserved words. -/
def lenientTable : SeverityTable :=
  SeverityTable.withSelection ⟨[("T102", .warning)]⟩ [] ["T101"]

theorem check_gives_verdict_of_wrongTree :
    wrongTree.Acyclic ∧ ∃ diagnostics output, wrongTree.diagnostics? .ecma = some diagnostics ∧
      run lenientProject
        ["check", "tree.json", "--template", "page.html", "--ignore", "T101"] = some output ∧
      Verdict false false (some "é") "page.html" lenientTable diagnostics output ∧
      errorCount lenientTable diagnostics = 1 ∧ (shownBy lenientTable diagnostics).length = 2 := by
  have harguments : Invocation.parse
      ["check", "tree.json", "--template", "page.html", "--ignore", "T101"] =
        .ok ⟨false, .check "tree.json" (some "page.html") [] ["T101"]⟩ := by decide +kernel
  have hsettings : settings lenientProject = .ok { severity := ⟨[("T102", .warning)]⟩ } := by
    decide +kernel
  have hread : lenientProject.read "tree.json" = some wrongTree.render := by
    simp [lenientProject, letterProject]
  have hpage : lenientProject.read "page.html" = some "é" := by
    simp [lenientProject, letterProject]
  have hnames : wrongTree.NamesDistinct := by
    intro e he
    obtain rfl : e = _ := by simpa [wrongTree] using he
    exact ⟨by simp [Dict.names], List.nodup_nil⟩
  have hacyclic : wrongTree.Acyclic := Tree.acyclic_iff_exists_checks.mpr ⟨_, rfl⟩
  obtain ⟨diagnostics, output, hdiagnostics, hrun, hverdict, -⟩ :=
    check_gives_verdict_iff harguments hsettings hread (Tree.parse?_render_of_settled hnames rfl)
      hacyclic (by simp [hpage])
  rw [Option.bind_some, hpage] at hverdict
  have hshown : (wrongTree.diagnostics? .ecma).all fun diagnostics =>
      ((shownDiagnostics lenientTable diagnostics).all fun shown =>
          isPrintable (some "é") shown.2) &&
        errorCount lenientTable diagnostics == 1 &&
        (shownBy lenientTable diagnostics).length == 2 := by decide +kernel
  rw [hdiagnostics] at hshown
  simp only [Option.all_some, Bool.and_eq_true, beq_iff_eq] at hshown
  obtain ⟨⟨hfits, herrors⟩, hlength⟩ := hshown
  exact ⟨hacyclic, diagnostics, output, hdiagnostics, hrun,
    hverdict.mpr (all_isPrintable_iff.mp hfits), herrors, hlength⟩

/-- A wrong expression whose place is the second byte of the letter. -/
def cutTree : Tree where
  nodes := [.expression "a +" [] "a +" (some ⟨1, 1⟩) none]
  root := some 0

/-- The error of `cutTree` is counted without a template, but not with the one
that its place is in. -/
theorem check_of_cutTree_breaks_off :
    Tree.parse? cutTree.render = some cutTree ∧ cutTree.Acyclic ∧
      (cutTree.diagnostics? .ecma).map (errorCount {}) = some 1 ∧
      run (letterProject cutTree none) ["check", "tree.json", "--quiet"] =
        some { exit := 1, stderr := ["Found 1 error."] } ∧
      run (letterProject cutTree none)
        ["check", "tree.json", "--template", "page.html", "--quiet"] = some brokenOff := by
  have hacyclic : cutTree.Acyclic := Tree.acyclic_iff_exists_checks.mpr ⟨_, rfl⟩
  have hnames : cutTree.NamesDistinct := by simp [Tree.NamesDistinct, cutTree]
  have htree := Tree.parse?_render_of_settled hnames rfl
  have hbare : Invocation.parse ["check", "tree.json", "--quiet"] =
      .ok ⟨true, .check "tree.json" none [] []⟩ := by decide +kernel
  have hframed : Invocation.parse ["check", "tree.json", "--template", "page.html", "--quiet"] =
      .ok ⟨true, .check "tree.json" (some "page.html") [] []⟩ := by decide +kernel
  have hsettings : settings (letterProject cutTree none) = .ok {} := by decide +kernel
  have hread : (letterProject cutTree none).read "tree.json" = some cutTree.render := by
    simp [letterProject]
  have hpage : (letterProject cutTree none).read "page.html" = some "é" := by
    simp [letterProject]
  refine ⟨htree, hacyclic, by decide +kernel, ?_, ?_⟩
  · rw [run_check hbare hsettings hread htree (by simp)]
    decide +kernel
  · rw [run_check hframed hsettings hread htree (by simp [hpage]), Option.bind_some, hpage]
    decide +kernel

end Stencil.CommandLine
