import Mathlib.Data.List.Forall2
import Stencil.Proofs.Compiler.History

/-!
# A missed call reports everything

A call whose key is not cached compiles its template, reports what is wrong with
it and puts an empty procedure in the place of code that the factory refuses.
The errors of the template are reported as `ErrorsReported` says, and this file
adds `FailuresReported` for the code that the factory refused.

`missed_call_reports_everything` puts the parts in their order.  Errors of the
template suppress the report of refused code, but then they are reported
themselves, so refused code never goes unnoticed.  An empty procedure may: a
factory may make one itself (`idle_factory_is_silent`).
-/

namespace Stencil

/-- The pieces of code of a template, the render code first. -/
def GeneratedCode.sources (code : GeneratedCode) : List String :=
  code.render :: code.staticRenderFns

/-- The procedures of a template, the render procedure first. -/
def Compiler.Functions.procedures (f : Compiler.Functions) : List Procedure :=
  f.render :: f.staticRenderFns

namespace Factory

/-- Whether the factory refuses a piece of code. -/
def rejects (f : Factory) (source : String) : Bool :=
  match f.construct source with
  | .ok _ => false
  | .error _ => true

end Factory

namespace Compiler

/-! ## Code that was refused -/

/-- The report that lists refused code with the reasons. -/
def failureListing (failed : List (ConstructError × String)) : Report :=
  ⟨⟨"C101", "Failed to generate render function:\n\n" ++ "\n".intercalate
    (failed.map fun f => f.1.message ++ " in\n\n" ++ f.2 ++ "\n"), none⟩, false⟩

/-- The reports that refused code calls for: one that lists all of it in order,
unless the template has errors. -/
structure FailuresReported (factory : Factory) (errors : List Diagnostic) (sources : List String)
    (reports : List Report) : Prop where
  silent : errors ≠ [] ∨ (∀ source ∈ sources, factory.rejects source = false) → reports = []
  listed : errors = [] → (∃ source ∈ sources, factory.rejects source = true) →
    ∃ failed, failed.map Prod.snd = sources.filter factory.rejects ∧
      (∀ f ∈ failed, factory.construct f.2 = .error f.1) ∧ reports = [failureListing failed]

theorem failures_cons (factory : Factory) (source : String) (sources : List String) :
    failures factory (source :: sources) =
      match factory.construct source with
      | .ok _ => failures factory sources
      | .error error => (error, source) :: failures factory sources := by
  simp only [failures, List.filterMap_cons]
  cases factory.construct source <;> rfl

theorem map_snd_failures (factory : Factory) (sources : List String) :
    (failures factory sources).map Prod.snd = sources.filter factory.rejects := by
  induction sources with
  | nil => rfl
  | cons source sources ih =>
      rw [failures_cons, List.filter_cons, Factory.rejects]
      cases factory.construct source with
      | ok procedure => exact ih
      | error error => exact congrArg (source :: ·) ih

theorem construct_of_mem_failures {factory : Factory} {sources : List String}
    {f : ConstructError × String} (hf : f ∈ failures factory sources) :
    factory.construct f.2 = .error f.1 := by
  induction sources with
  | nil => exact nomatch hf
  | cons source sources ih =>
      rw [failures_cons] at hf
      cases hconstruct : factory.construct source with
      | ok procedure =>
          rw [hconstruct] at hf
          exact ih hf
      | error error =>
          rw [hconstruct] at hf
          rcases List.mem_cons.mp hf with rfl | hf
          · exact hconstruct
          · exact ih hf

theorem failures_eq_nil_iff {factory : Factory} {sources : List String} :
    failures factory sources = [] ↔ ∀ source ∈ sources, factory.rejects source = false := by
  rw [← List.map_eq_nil_iff (f := Prod.snd), map_snd_failures, List.filter_eq_nil_iff]
  simp

theorem failuresReported_failureReports (factory : Factory) (errors : List Diagnostic)
    (sources : List String) :
    FailuresReported factory errors sources
      (failureReports errors (failures factory sources)) where
  silent hsilent := by
    rw [failureReports, if_neg]
    rcases hsilent with herrors | hnone
    · simp [herrors]
    · simp [failures_eq_nil_iff.mpr hnone]
  listed herrors hsome := by
    obtain ⟨source, hsource, hrejects⟩ := hsome
    have hfailures : failures factory sources ≠ [] := by
      intro hnil
      rw [failures_eq_nil_iff.mp hnil source hsource] at hrejects
      exact nomatch hrejects
    refine ⟨failures factory sources, map_snd_failures factory sources,
      fun f => construct_of_mem_failures, ?_⟩
    rw [failureReports, if_pos (by simp [herrors, hfailures])]
    rfl

/-! ## Empty procedures -/

theorem procedures_functions (c : Compiler) (code : GeneratedCode) :
    (c.functions code).procedures = code.sources.map (materialize c.factory) := rfl

/-- The procedure of some code is empty exactly if the factory refuses the code,
or makes an empty procedure of it. -/
theorem materialize_eq_noop_iff (factory : Factory) (source : String) :
    materialize factory source = .noop ↔
      factory.rejects source = true ∨ factory.construct source = .ok .noop := by
  unfold materialize Factory.rejects
  cases factory.construct source with
  | ok procedure => simp
  | error error => simp

/-! ## All reports -/

/-- Refused code is never silent: it is reported itself, or errors are. -/
theorem exists_report_of_rejects {factory : Factory} {template : String} {ranges : Bool}
    {errors : List Diagnostic} {sources : List String} {reports failed : List Report}
    (herrors : ErrorsReported template ranges errors reports)
    (hfailed : FailuresReported factory errors sources failed) {source : String}
    (hsource : source ∈ sources) (hrejects : factory.rejects source = true) :
    ∃ r ∈ reports ++ failed, r.advisory = false := by
  cases errors with
  | nil =>
      obtain ⟨refused, -, -, hlisted⟩ := hfailed.listed rfl ⟨source, hsource, hrejects⟩
      exact ⟨failureListing refused, by simp [hlisted], rfl⟩
  | cons error errors =>
      obtain ⟨r, hr⟩ := List.exists_mem_of_ne_nil _ (herrors.ne_nil (List.cons_ne_nil _ _))
      exact ⟨r, List.mem_append_left _ hr, (herrors.code_of_mem hr).2⟩

/-- **A missed call reports everything, and refused code is never silent.**  A
fresh compiler, with whatever cache, has gone through some steps, and the next
call is not answered from the cache.  The call returns if and only if every error
that has to be framed fits into the template.  Then it reports, in this order: the
notice that procedures cannot be made, if and only if there was no call before and
the factory says so; the errors of the template, one by one with their places if
ranges are on, else in one list; every tip; and the refused code, if there is any
and the template has no errors.  The empty procedures are those of refused code
and those that the factory makes itself, and where code is refused some report is
no mere advice. -/
theorem missed_call_reports_everything {c : Compiler} {start s : Session} {steps : List Step}
    {outcomes : List Outcome} (hstart : start.probed = false)
    (hreplay : c.replay? start steps = some (outcomes, s)) {template : String}
    {options : CallOptions} (hmissed : s.cache.get? (options.cacheKey template) = none)
    {result : Result} (hyields : c.Yields template options result) :
    ((∃ o, c.compileToFunctions? s template options = some o) ↔
      ((options.resolve c.base).outputSourceRange = true →
        ∀ error ∈ result.diagnostics.errors, ∀ span, error.span = some span →
          Frame.Fits template span)) ∧
    ∀ o, c.compileToFunctions? s template options = some o →
      ∃ own errors failed,
        o.reports = own ++ errors ++ result.diagnostics.tips.map (⟨·, true⟩) ++ failed ∧
        (own = [notice] ∧ (∀ step ∈ steps, step = .clear) ∧ c.Prohibited ∨
          own = [] ∧ ¬ ((∀ step ∈ steps, step = .clear) ∧ c.Prohibited)) ∧
        ErrorsReported template (options.resolve c.base).outputSourceRange
          result.diagnostics.errors errors ∧
        FailuresReported c.factory result.diagnostics.errors result.code.sources failed ∧
        List.Forall₂ (fun source procedure => procedure = .noop ↔
            c.factory.rejects source = true ∨ c.factory.construct source = .ok .noop)
          result.code.sources o.entry.functions.procedures ∧
        ((∃ source ∈ result.code.sources, c.factory.rejects source = true) →
          ∃ r ∈ o.reports, r.advisory = false) := by
  refine ⟨?_, fun o hcall => ?_⟩
  · rw [exists_outcome_iff c hmissed]
    constructor
    · rintro ⟨other, hother, hreportable⟩ hranges error herror span hspan
      obtain rfl := hother.unique hyields
      exact hreportable hranges error herror template rfl span hspan
    · intro hfits
      refine ⟨result, hyields, fun hranges error herror text htext span hspan => ?_⟩
      obtain rfl := Option.some.inj htext
      exact hfits hranges error herror span hspan
  · obtain ⟨other, reports, hother, hreports, rfl⟩ :=
      (compileToFunctions?_eq_some_iff c hmissed).mp hcall
    obtain rfl := hother.unique hyields
    rw [reports?_eq] at hreports
    obtain ⟨errors, herrors, rfl⟩ := Option.map_eq_some_iff.mp hreports
    have hreported := errorsReported_of_errorReports? herrors
    have hfailed :=
      failuresReported_failureReports c.factory other.diagnostics.errors other.code.sources
    have hfirst : s.probed = false ↔ ∀ step ∈ steps, step = .clear :=
      (probed_replay? hreplay).trans (and_iff_right hstart)
    refine ⟨c.noticeReports s, errors, _, ?_, ?_, hreported, hfailed, ?_, ?_⟩
    · simp only [compiledOutcome, GeneratedCode.sources, List.append_assoc]
    · rw [← hfirst]
      exact c.noticeReports_cases s
    · rw [compiledOutcome, procedures_functions, List.forall₂_map_right_iff, List.forall₂_same]
      exact fun source _ => materialize_eq_noop_iff c.factory source
    · rintro ⟨source, hsource, hrejects⟩
      obtain ⟨r, hr, hadvisory⟩ := exists_report_of_rejects hreported hfailed hsource hrejects
      refine ⟨r, ?_, hadvisory⟩
      rcases List.mem_append.mp hr with hr | hr
      · exact List.mem_append_right _ (List.mem_append_left _ (List.mem_append_left _ hr))
      · exact List.mem_append_right _ (List.mem_append_right _ hr)

/-- A compiler that must not make procedures. -/
def powerless : Compiler where
  base := {}
  build _ _ := pure {}
  generate _ _ := ⟨"return a", ["return b"]⟩
  factory := .ecma false

/-- Where procedures are prohibited, the first call starts with the notice and
does not return its two empty procedures in silence. -/
theorem missed_call_reports_everything_powerless :
    ∃ o, powerless.compileToFunctions? {} "x" {} = some o ∧
      o.entry.functions.procedures = [.noop, .noop] ∧
      (∃ others, o.reports = notice :: others) ∧ ∃ r ∈ o.reports, r.advisory = false := by
  have hreplay : powerless.replay? {} [] = some ([], {}) := rfl
  obtain ⟨result, hresult, hcode⟩ : ∃ result, powerless.compile? "x" {} = some result ∧
      result.code = ⟨"return a", ["return b"]⟩ := ⟨_, rfl, rfl⟩
  obtain ⟨hreturns, hreports⟩ := missed_call_reports_everything rfl hreplay (by rfl)
    (powerless.compile?_eq_some_iff.mp hresult)
  obtain ⟨o, hcall⟩ := hreturns.mpr nofun
  obtain ⟨own, errors, failed, hreports, hown, -, -, hnoops, hrejected⟩ := hreports o hcall
  rw [hcode] at hnoops hrejected
  refine ⟨o, hcall, ?_, ?_, hrejected ⟨"return a", List.mem_cons_self, rfl⟩⟩
  · obtain ⟨render, statics, hrender, hstatics, hprocedures⟩ := List.forall₂_cons_left_iff.mp hnoops
    obtain ⟨static, rest, hstatic, hrest, rfl⟩ := List.forall₂_cons_left_iff.mp hstatics
    obtain rfl := List.forall₂_nil_left_iff.mp hrest
    rw [hprocedures, hrender.mpr (.inl rfl), hstatic.mpr (.inl rfl)]
  · rcases hown with ⟨rfl, -⟩ | ⟨-, hnot⟩
    · exact ⟨_, hreports⟩
    · exact absurd ⟨nofun, ⟨_, rfl⟩⟩ hnot

/-- A compiler with a factory that makes an empty procedure of all code. -/
def idle : Compiler where
  base := {}
  build _ _ := pure {}
  generate _ _ := ⟨"return a", []⟩
  factory := { construct := fun _ => .ok .noop }

/-- An empty procedure of a factory that refuses nothing is returned in silence.
An error that cuts the letter of its template is not reported. -/
theorem idle_factory_is_silent :
    (∃ o, idle.compileToFunctions? {} "x" {} = some o ∧
      idle.factory.rejects "return a" = false ∧ o.entry.functions.procedures = [.noop] ∧
      o.reports = []) ∧
    (∃ result, cutting.Yields "é" {} result ∧ result.diagnostics.errors.length = 1) ∧
      (cutting.compileToFunctions? {} "é" {}).map Outcome.reports = none :=
  ⟨⟨_, rfl, rfl, rfl, rfl⟩, ⟨_, cutting.compile?_eq_some_iff.mp rfl, by decide⟩,
    by decide +kernel⟩

end Compiler

end Stencil
