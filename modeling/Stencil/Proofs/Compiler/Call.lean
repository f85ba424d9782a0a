import Stencil.Compiler.Session
import Stencil.Proofs.Compiler.Spans

/-!
# What one call does

The first call to a compiler may begin with the notice that procedures cannot be
made.  Then a call returns what the cache holds under its key, or it compiles its
template, reports on it and fills the cache.

* `Yields`: what a template compiles to, said with the builder, the optimiser, the
  generator and the checker of the compiler;
* `Reportable`: no error has to be framed at a place that cuts a character, which
  would break the call off;
* `ErrorsReported`: what is reported of the errors then, one report each or one for
  all of them;
* `compileToFunctions?_of_cached` and `compileToFunctions?_of_not_cached`: the two
  kinds of calls;
* `exists_outcome_iff`: a call that is not answered from the cache returns exactly
  if its template compiles to something reportable.
-/

namespace Stencil.Compiler

open Text

variable (c : Compiler) {s : Session} {template : String} {options : CallOptions}

/-! ## What a template compiles to -/

variable (template options) in
/-- What the parts of a compiler make of a template: code for the tree that was
built and maybe optimised, and what was reported on the way and by the check of
this tree. -/
structure Yields (result : Result) : Prop where
  tree : result.tree = c.checkedTree template options
  code : result.code = c.generate (c.checkedTree template options) (options.resolve c.base)
  diagnostics : ∃ checked, (c.checkedTree template options).reports? c.checker = some checked ∧
    result.diagnostics = Diagnostics.collect (options.resolve c.base).outputSourceRange
      (leadingBytes template)
      ((c.build (trim template) (options.resolve c.base)).reports ++ checked)

theorem compile?_eq (template : String) (options : CallOptions) :
    c.compile? template options =
      ((c.checkedTree template options).reports? c.checker).map fun checked =>
        { tree := c.checkedTree template options
          code := c.generate (c.checkedTree template options) (options.resolve c.base)
          diagnostics := Diagnostics.collect (options.resolve c.base).outputSourceRange
            (leadingBytes template)
            ((c.build (trim template) (options.resolve c.base)).reports ++ checked) } := by
  unfold compile? checkedTree
  exact Option.map_eq_bind.symm

theorem compile?_eq_some_iff {result : Result} :
    c.compile? template options = some result ↔ c.Yields template options result := by
  rw [compile?_eq, Option.map_eq_some_iff]
  constructor
  · rintro ⟨checked, hchecked, rfl⟩
    exact ⟨rfl, rfl, checked, hchecked, rfl⟩
  · rintro ⟨htree, hcode, checked, hchecked, hdiagnostics⟩
    obtain ⟨tree, code, diagnostics⟩ := result
    obtain rfl : tree = _ := htree
    obtain rfl : code = _ := hcode
    obtain rfl : diagnostics = _ := hdiagnostics
    exact ⟨checked, hchecked, rfl⟩

variable {c} in
theorem Yields.unique {first second : Result} (hfirst : c.Yields template options first)
    (hsecond : c.Yields template options second) : first = second := by
  rw [← compile?_eq_some_iff] at hfirst hsecond
  exact Option.some.inj (hfirst.symm.trans hsecond)

/-! ## Reports that can be made -/

/-- All errors of a template can be reported.  Only with `ranges` each of them is
framed. -/
def Reportable (template : String) (ranges : Bool) (errors : List Diagnostic) : Prop :=
  ranges = true → ∀ error ∈ errors, Printable (some template) error

theorem errorReport?_isSome {error : Diagnostic} :
    (errorReport? template error).isSome = true ↔ Printable (some template) error := by
  rw [← isPrintable_iff, errorReport?]
  split_ifs with hprintable
  · exact iff_of_true rfl hprintable
  · exact iff_of_false Bool.false_ne_true hprintable

theorem exists_errorReports?_iff {errors : List Diagnostic} {ranges : Bool} :
    (∃ reports, errorReports? template errors ranges = some reports) ↔
      Reportable template ranges errors := by
  unfold errorReports? Reportable
  split_ifs with hnone hranges
  · obtain rfl := List.isEmpty_iff.mp hnone
    exact iff_of_true ⟨[], rfl⟩ fun _ _ herror => nomatch herror
  · simp only [hranges, true_imp_iff, ← errorReport?_isSome]
    constructor
    · rintro ⟨reports, hreports⟩ error herror
      obtain ⟨report, -, hreport⟩ :=
        exists_mem_of_forall₂ (mapM_eq_some_iff.mp hreports).flip herror
      rw [hreport]
      rfl
    · exact mapM_isSome (errorReport? template) errors
  · exact iff_of_true ⟨_, rfl⟩ fun htrue => absurd htrue hranges

/-! ## Which reports these are -/

/-- The code frame of an error whose place is known. -/
def errorFrame (template : String) (error : Diagnostic) : Option String :=
  error.span.map fun span => Frame.plain
    { source := template, path := "template", code := error.code,
      message := firstLine error.message, level := .error, span }

/-- The report of one error: its message, and behind a blank line its frame if it
has one. -/
def errorEntry (template : String) (error : Diagnostic) : Report :=
  ⟨⟨"C100", "Error compiling template:\n\n" ++
    "\n\n".intercalate (error.message :: (errorFrame template error).toList), error.span⟩, false⟩

/-- The report that lists the messages of all errors. -/
def errorListing (template : String) (errors : List Diagnostic) : Report :=
  ⟨⟨"C100", "Error compiling template:\n\n" ++ (template ++ "\n\n" ++
    "\n".intercalate (errors.map fun error => "- " ++ error.message) ++ "\n"), none⟩, false⟩

/-- The reports that errors call for, with or without `ranges`. -/
structure ErrorsReported (template : String) (ranges : Bool) (errors : List Diagnostic)
    (reports : List Report) : Prop where
  none : errors = [] → reports = []
  each : ranges = true → reports = errors.map (errorEntry template)
  together : ranges = false → errors ≠ [] → reports = [errorListing template errors]

theorem eq_errorEntry_of_errorReport? {template : String} {error : Diagnostic} {r : Report}
    (hreport : errorReport? template error = some r) : errorEntry template error = r := by
  rw [errorReport?] at hreport
  split_ifs at hreport
  rw [← Option.some.inj hreport]
  obtain ⟨code, message, span⟩ := error
  have hcode : ∀ details, CompilerError.diagnostic (.compile details) span =
      ⟨"C100", "Error compiling template:\n\n" ++ details, span⟩ := fun _ => rfl
  simp only [errorEntry, errorFrame, hcode]
  cases span with
  | none => rw [Option.map_none, Option.toList_none, String.intercalate_singleton]
  | some span =>
      rw [Option.map_some, Option.toList_some, String.intercalate_cons_cons,
        String.intercalate_singleton]

theorem errorsReported_of_errorReports? {template : String} {errors : List Diagnostic}
    {ranges : Bool} {reports : List Report}
    (hreports : errorReports? template errors ranges = some reports) :
    ErrorsReported template ranges errors reports where
  none hnone := by
    rw [errorReports?, hnone] at hreports
    exact (Option.some.inj hreports).symm
  each hranges := by
    rw [errorReports?] at hreports
    split_ifs at hreports with hnone
    · rw [← Option.some.inj hreports, List.isEmpty_iff.mp hnone, List.map_nil]
    · rw [eq_comm, ← List.forall₂_eq_eq_eq, List.forall₂_map_left_iff]
      exact (mapM_eq_some_iff.mp hreports).imp fun _ _ => eq_errorEntry_of_errorReport?
  together hranges hsome := by
    have hempty : ¬ errors.isEmpty = true := by simpa using hsome
    rw [errorReports?, if_neg hempty, hranges, if_neg Bool.false_ne_true] at hreports
    exact (Option.some.inj hreports).symm

variable {ranges : Bool} {errors : List Diagnostic} {reports : List Report}

theorem ErrorsReported.code_of_mem (h : ErrorsReported template ranges errors reports)
    {r : Report} (hr : r ∈ reports) : r.diagnostic.code = "C100" ∧ r.advisory = false := by
  by_cases hnone : errors = []
  · rw [h.none hnone] at hr
    exact nomatch hr
  · cases hranges : ranges with
    | true =>
        rw [h.each hranges] at hr
        obtain ⟨error, -, rfl⟩ := List.mem_map.mp hr
        exact ⟨rfl, rfl⟩
    | false =>
        rw [h.together hranges hnone] at hr
        obtain rfl := List.mem_singleton.mp hr
        exact ⟨rfl, rfl⟩

theorem ErrorsReported.ne_nil (h : ErrorsReported template ranges errors reports)
    (hsome : errors ≠ []) : reports ≠ [] := by
  cases hranges : ranges with
  | true =>
      rw [h.each hranges]
      exact fun hnil => hsome (List.map_eq_nil_iff.mp hnil)
  | false =>
      rw [h.together hranges hsome]
      exact List.cons_ne_nil _ _

theorem reports?_eq (template : String) (options : CallOptions) (result : Result) :
    c.reports? template options result =
      (errorReports? template result.diagnostics.errors
        (options.resolve c.base).outputSourceRange).map fun errors =>
          errors ++ result.diagnostics.tips.map (⟨·, true⟩) ++
            failureReports result.diagnostics.errors
              (failures c.factory (result.code.render :: result.code.staticRenderFns)) := by
  unfold reports?
  exact Option.map_eq_bind.symm

/-! ## Calls -/

/-- The reports that a call makes before it looks into the cache. -/
def noticeReports (s : Session) : List Report :=
  if s.probed then [] else c.probeReports

/-- A call whose key is cached returns the entry and compiles nothing. -/
theorem compileToFunctions?_of_cached {entry : Entry}
    (hcached : s.cache.get? (options.cacheKey template) = some entry) :
    c.compileToFunctions? s template options =
      some ⟨entry, c.noticeReports s, none, { s with probed := true }⟩ := by
  simp only [compileToFunctions?, hcached, noticeReports]

variable (s template) in
/-- The outcome of a call that compiles its template. -/
def compiledOutcome (options : CallOptions) (code : GeneratedCode) (reports : List Report) :
    Outcome where
  entry := ⟨s.count, c.functions code⟩
  reports := c.noticeReports s ++ reports
  built := some (trim template)
  session := ⟨s.cache.insert (options.cacheKey template) ⟨s.count, c.functions code⟩, true,
    s.count + 1⟩

/-- A call whose key is not cached compiles the template, reports on it and keeps
the procedures. -/
theorem compileToFunctions?_of_not_cached
    (hmissed : s.cache.get? (options.cacheKey template) = none) :
    c.compileToFunctions? s template options =
      (c.compile? template options).bind fun result =>
        (c.reports? template options result).map
          (c.compiledOutcome s template options result.code) := by
  simp only [compileToFunctions?, hmissed, Option.bind_eq_bind, Option.map_eq_bind]
  rfl

theorem compileToFunctions?_eq_some_iff {o : Outcome}
    (hmissed : s.cache.get? (options.cacheKey template) = none) :
    c.compileToFunctions? s template options = some o ↔
      ∃ result reports, c.Yields template options result ∧
        c.reports? template options result = some reports ∧
        o = c.compiledOutcome s template options result.code reports := by
  rw [compileToFunctions?_of_not_cached c hmissed]
  simp only [Option.bind_eq_some_iff, Option.map_eq_some_iff, compile?_eq_some_iff]
  constructor
  · rintro ⟨result, hyields, reports, hreports, rfl⟩
    exact ⟨result, reports, hyields, hreports, rfl⟩
  · rintro ⟨result, reports, hyields, hreports, rfl⟩
    exact ⟨result, hyields, reports, hreports, rfl⟩

/-- A call whose key is not cached returns exactly if its template compiles to
something that can be reported on. -/
theorem exists_outcome_iff (hmissed : s.cache.get? (options.cacheKey template) = none) :
    (∃ o, c.compileToFunctions? s template options = some o) ↔
      ∃ result, c.Yields template options result ∧
        Reportable template (options.resolve c.base).outputSourceRange
          result.diagnostics.errors := by
  simp only [compileToFunctions?_eq_some_iff c hmissed, reports?_eq, Option.map_eq_some_iff,
    ← exists_errorReports?_iff]
  constructor
  · rintro ⟨o, result, reports, hyields, ⟨errors, herrors, -⟩, -⟩
    exact ⟨result, hyields, errors, herrors⟩
  · rintro ⟨result, hyields, errors, herrors⟩
    exact ⟨_, result, _, hyields, ⟨errors, herrors, rfl⟩, rfl⟩

variable {c} in
/-- A call takes its entry from the cache, or compiles and puts it there. -/
theorem compileToFunctions?_cases {o : Outcome}
    (hcall : c.compileToFunctions? s template options = some o) :
    (s.cache.get? (options.cacheKey template) = some o.entry ∧
      o.session = { s with probed := true }) ∨
    (s.cache.get? (options.cacheKey template) = none ∧
      ∃ code, o.entry = ⟨s.count, c.functions code⟩ ∧
        o.session = ⟨s.cache.insert (options.cacheKey template) o.entry, true, s.count + 1⟩) := by
  cases hcache : s.cache.get? (options.cacheKey template) with
  | some entry =>
      rw [compileToFunctions?_of_cached c hcache] at hcall
      obtain rfl := Option.some.inj hcall
      exact .inl ⟨rfl, rfl⟩
  | none =>
      obtain ⟨result, reports, -, -, rfl⟩ := (compileToFunctions?_eq_some_iff c hcache).mp hcall
      exact .inr ⟨rfl, result.code, rfl, rfl⟩

/-! ## The notice that procedures cannot be made -/

/-- The advice that procedures cannot be made here. -/
def notice : Report :=
  ⟨CompilerError.runtimeCompilationUnavailable.diagnostic none, true⟩

/-- The factory says that procedures must not be made. -/
def Prohibited : Prop :=
  ∃ reason, c.factory.probe = .error (.prohibited reason)

theorem probeReports_cases :
    (c.Prohibited ∧ c.probeReports = [notice]) ∨ (¬ c.Prohibited ∧ c.probeReports = []) := by
  unfold Prohibited probeReports
  cases hprobe : c.factory.probe with
  | ok _ => exact .inr ⟨nofun, rfl⟩
  | error e =>
      cases e with
      | prohibited reason => exact .inl ⟨⟨reason, rfl⟩, rfl⟩
      | invalid message => exact .inr ⟨nofun, rfl⟩

theorem noticeReports_cases (s : Session) :
    (c.noticeReports s = [notice] ∧ s.probed = false ∧ c.Prohibited) ∨
      (c.noticeReports s = [] ∧ ¬ (s.probed = false ∧ c.Prohibited)) := by
  unfold noticeReports
  cases s.probed with
  | true => exact .inr ⟨rfl, nofun⟩
  | false =>
      rcases c.probeReports_cases with ⟨hprohibited, hreports⟩ | ⟨hallowed, hreports⟩
      · exact .inl ⟨hreports, rfl, hprohibited⟩
      · exact .inr ⟨hreports, fun h => hallowed h.2⟩

theorem code_of_mem_failureReports {errors : List Diagnostic}
    {failures : List (ConstructError × String)} {r : Report}
    (hmem : r ∈ failureReports errors failures) : r.diagnostic.code = "C101" := by
  unfold failureReports at hmem
  split_ifs at hmem
  · obtain rfl := List.mem_singleton.mp hmem
    rfl
  · exact nomatch hmem

/-- Of the reports on a template, just the tips with the code of the notice have
this code. -/
theorem filter_code_reports? {result : Result} {reports : List Report}
    (hreports : c.reports? template options result = some reports) :
    reports.filter (·.diagnostic.code = "C102") =
      (result.diagnostics.tips.filter (·.code = "C102")).map (⟨·, true⟩) := by
  rw [reports?_eq] at hreports
  obtain ⟨errors, herrors, rfl⟩ := Option.map_eq_some_iff.mp hreports
  have hnone : ∀ {others : List Report} {code : String}, code ≠ "C102" →
      (∀ r ∈ others, r.diagnostic.code = code) →
      others.filter (·.diagnostic.code = "C102") = [] := by
    intro others code hcode hothers
    rw [List.filter_eq_nil_iff]
    intro r hr hsame
    exact hcode ((hothers r hr).symm.trans (of_decide_eq_true hsame))
  rw [List.filter_append, List.filter_append,
    hnone (by decide) fun r hr => ((errorsReported_of_errorReports? herrors).code_of_mem hr).1,
    hnone (by decide) fun r hr => code_of_mem_failureReports hr, List.nil_append,
    List.append_nil, List.filter_map]
  rfl

end Stencil.Compiler
