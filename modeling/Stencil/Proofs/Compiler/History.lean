import Mathlib.Data.List.Dedup
import Mathlib.Data.List.Induction
import Stencil.Proofs.Compiler.Cache

/-!
# What a compiler remembers of its history

A compiler is called with templates and now and then told to forget all
procedures.  `replay?` performs such steps from a fresh session.  This file
proves that two facts about the steps say all that matters for the next call:

* `requested` lists the keys that were asked for since procedures were last
  forgotten.  The cache holds an entry for each of them, made by the first call
  that asked for it (`FirstRequest`), and no other entry;
* whether there was a call at all decides if the next one may report that
  procedures cannot be made.

`replay?_remembers` is the invariant, by induction over the steps, and
`replay?_decides_calls` reads off what every call of a sequence does.  The code
of the notice is not reserved: a builder may give it to tips of its own, and
these are reported like any other tip (`tip_repeats_notice_and_cut_breaks_off`).
-/

namespace Stencil.Compiler

/-! ## Sequences of steps -/

/-- What is done with a compiler. -/
inductive Step where
  /-- A template is compiled to procedures. -/
  | call (template : String) (options : CallOptions)
  /-- All procedures are forgotten. -/
  | clear

/-- The keys asked for since procedures were last forgotten. -/
def requested (steps : List Step) : List String :=
  steps.foldl (fun keys step => match step with
    | .call template options => keys ++ [options.cacheKey template]
    | .clear => []) []

@[simp] theorem requested_nil : requested [] = [] := rfl

@[simp] theorem requested_append_call (steps : List Step) (template : String)
    (options : CallOptions) :
    requested (steps ++ [.call template options]) =
      requested steps ++ [options.cacheKey template] := by
  simp [requested]

@[simp] theorem requested_append_clear (steps : List Step) :
    requested (steps ++ [.clear]) = [] := by
  simp [requested]

theorem requested_of_no_call {steps : List Step} (hclear : ∀ step ∈ steps, step = .clear) :
    requested steps = [] := by
  cases steps using List.reverseRecOn with
  | nil => rfl
  | append_singleton steps step => rw [hclear step (by simp), requested_append_clear]

/-- The outcomes of the calls among some steps, and the session behind them.
There are none if some call does not return. -/
def replay? (c : Compiler) : Session → List Step → Option (List Outcome × Session)
  | s, [] => some ([], s)
  | s, .clear :: steps => c.replay? s.clear steps
  | s, .call template options :: steps => do
    let o ← c.compileToFunctions? s template options
    let (outcomes, final) ← c.replay? o.session steps
    return (o :: outcomes, final)

theorem replay?_append (c : Compiler) (s : Session) (steps more : List Step) :
    c.replay? s (steps ++ more) = do
      let (outcomes, middle) ← c.replay? s steps
      let (others, final) ← c.replay? middle more
      return (outcomes ++ others, final) := by
  induction steps generalizing s with
  | nil =>
      simp only [List.nil_append, replay?, Option.bind_eq_bind, Option.bind_some]
      cases c.replay? s more <;> rfl
  | cons step steps ih =>
      cases step with
      | clear => exact ih s.clear
      | call template options =>
          simp only [List.cons_append, replay?]
          cases c.compileToFunctions? s template options with
          | none => rfl
          | some o =>
              simp only [Option.bind_eq_bind, Option.bind_some, ih]
              cases c.replay? o.session steps with
              | none => rfl
              | some parts =>
                  obtain ⟨outcomes, middle⟩ := parts
                  simp only [Option.bind_some, Option.pure_def]
                  cases c.replay? middle more <;> rfl

section Replay

variable {c : Compiler} {steps : List Step} {outcomes : List Outcome} {s final : Session}
  {template : String} {options : CallOptions}

theorem replay?_append_clear :
    c.replay? s (steps ++ [.clear]) = some (outcomes, final) ↔
      ∃ middle, c.replay? s steps = some (outcomes, middle) ∧ final = middle.clear := by
  rw [replay?_append]
  cases c.replay? s steps with
  | none => simp
  | some parts =>
      obtain ⟨outs, middle⟩ := parts
      simp [replay?, eq_comm]

theorem replay?_append_call :
    c.replay? s (steps ++ [.call template options]) = some (outcomes, final) ↔
      ∃ earlier middle o, c.replay? s steps = some (earlier, middle) ∧
        c.compileToFunctions? middle template options = some o ∧
        outcomes = earlier ++ [o] ∧ final = o.session := by
  rw [replay?_append]
  cases c.replay? s steps with
  | none => simp
  | some parts =>
      obtain ⟨earlier, middle⟩ := parts
      cases hcall : c.compileToFunctions? middle template options with
      | none => simp [replay?, hcall]
      | some o => simp [replay?, hcall, eq_comm]

/-- A session has probed its factory exactly if it was called. -/
theorem probed_replay? (hreplay : c.replay? s steps = some (outcomes, final)) :
    final.probed = false ↔ s.probed = false ∧ ∀ step ∈ steps, step = .clear := by
  induction steps using List.reverseRecOn generalizing outcomes final with
  | nil =>
      obtain ⟨-, rfl⟩ := Prod.mk.inj (Option.some.inj hreplay)
      simp
  | append_singleton steps step ih =>
      cases step with
      | clear =>
          obtain ⟨middle, hsteps, rfl⟩ := replay?_append_clear.mp hreplay
          change middle.probed = false ↔ _
          rw [ih hsteps]
          simp [or_imp]
      | call template options =>
          obtain ⟨earlier, middle, o, -, hcall, -, rfl⟩ := replay?_append_call.mp hreplay
          have hprobed : o.session.probed = true := by
            obtain ⟨-, hsession⟩ | ⟨-, -, -, hsession⟩ := compileToFunctions?_cases hcall <;>
              rw [hsession]
          rw [hprobed]
          exact iff_of_false nofun fun hclear => nomatch hclear.2 (.call template options) (by simp)

/-! ## The invariant -/

variable (c steps) in
/-- A call was the first one to ask for a key since procedures were last
forgotten. -/
def FirstRequest (key : String) (o : Outcome) : Prop :=
  ∃ earlier template options later outcomes middle,
    steps = earlier ++ .call template options :: later ∧ .clear ∉ later ∧
    options.cacheKey template = key ∧ key ∉ requested earlier ∧
    c.replay? {} earlier = some (outcomes, middle) ∧
    c.compileToFunctions? middle template options = some o

theorem FirstRequest.append_call {key : String} {o : Outcome} (h : FirstRequest c steps key o)
    (template : String) (options : CallOptions) :
    FirstRequest c (steps ++ [.call template options]) key o := by
  obtain ⟨earlier, t, opts, later, outcomes, middle, rfl, hclear, hrest⟩ := h
  refine ⟨earlier, t, opts, later ++ [.call template options], outcomes, middle, by simp, ?_, hrest⟩
  simpa using hclear

variable (c steps) in
/-- What a session knows about the steps that led to it. -/
structure Remembers (s : Session) : Prop where
  nodup : s.cache.names.Nodup
  mem_names_iff : ∀ key, key ∈ s.cache.names ↔ key ∈ requested steps
  firstRequest : ∀ key entry, s.cache.get? key = some entry →
    ∃ o, FirstRequest c steps key o ∧ o.entry = entry

theorem remembers_nil : Remembers c [] {} where
  nodup := List.nodup_nil
  mem_names_iff _ := Iff.rfl
  firstRequest _ _ hcached := nomatch hcached

theorem remembers_clear : Remembers c (steps ++ [.clear]) s.clear where
  nodup := List.nodup_nil
  mem_names_iff key := by simp [Session.clear, Dict.names]
  firstRequest _ _ hcached := nomatch hcached

theorem Remembers.cached_iff (h : Remembers c steps s) {key : String} :
    s.cache.get? key = none ↔ key ∉ requested steps := by
  rw [Dict.get?_eq_none_iff, h.mem_names_iff]

/-- A call on a session that remembers its steps gives one that remembers the
call as well. -/
theorem Remembers.call (h : Remembers c steps s)
    (hreplay : c.replay? {} steps = some (outcomes, s)) {o : Outcome}
    (hcall : c.compileToFunctions? s template options = some o) :
    Remembers c (steps ++ [.call template options]) o.session := by
  obtain ⟨hcached, hsession⟩ | ⟨hcached, -, -, hsession⟩ := compileToFunctions?_cases hcall
  · have hkey : options.cacheKey template ∈ requested steps := by
      by_contra hnew
      rw [h.cached_iff.mpr hnew] at hcached
      exact nomatch hcached
    rw [hsession]
    refine ⟨h.nodup, fun key => ?_, fun key entry hentry => ?_⟩
    · rw [requested_append_call, List.mem_append, List.mem_singleton, h.mem_names_iff]
      exact ⟨Or.inl, fun hmem => hmem.elim id fun heq => heq ▸ hkey⟩
    · obtain ⟨o, hfirst, hentry⟩ := h.firstRequest key entry hentry
      exact ⟨o, hfirst.append_call template options, hentry⟩
  · have hnew : options.cacheKey template ∉ requested steps := h.cached_iff.mp hcached
    have hfirst :
        FirstRequest c (steps ++ [.call template options]) (options.cacheKey template) o :=
      ⟨steps, template, options, [], outcomes, s, rfl, List.not_mem_nil, rfl, hnew, hreplay, hcall⟩
    rw [hsession]
    refine ⟨Dict.nodup_insertEntry h.nodup, fun key => ?_, fun key entry hentry => ?_⟩
    · rw [requested_append_call, List.mem_append, List.mem_singleton, ← h.mem_names_iff, or_comm]
      exact Dict.mem_names_insert
    · rw [Dict.get?_insert] at hentry
      split_ifs at hentry with hkey
      · obtain rfl := Option.some.inj hentry
        exact ⟨o, hkey ▸ hfirst, rfl⟩
      · obtain ⟨o, hfirst, hentry⟩ := h.firstRequest key entry hentry
        exact ⟨o, hfirst.append_call template options, hentry⟩

/-- **A session remembers the steps that led to it.** -/
theorem replay?_remembers (hreplay : c.replay? {} steps = some (outcomes, s)) :
    Remembers c steps s := by
  induction steps using List.reverseRecOn generalizing outcomes s with
  | nil =>
      obtain ⟨-, rfl⟩ := Prod.mk.inj (Option.some.inj hreplay)
      exact remembers_nil
  | append_singleton steps step ih =>
      cases step with
      | clear =>
          obtain ⟨middle, -, rfl⟩ := replay?_append_clear.mp hreplay
          exact remembers_clear
      | call template options =>
          obtain ⟨earlier, middle, o, hsteps, hcall, -, rfl⟩ := replay?_append_call.mp hreplay
          exact (ih hsteps).call hsteps hcall

/-- There are as many entries as different keys were asked for. -/
theorem Remembers.size_eq (h : Remembers c steps s) :
    s.cache.size = (requested steps).dedup.length := by
  have hperm : s.cache.names.Perm (requested steps).dedup := by
    rw [List.perm_ext_iff_of_nodup h.nodup (List.nodup_dedup _)]
    intro key
    rw [h.mem_names_iff, List.mem_dedup]
  rw [← hperm.length_eq, Dict.names, List.length_map, Dict.size]

/-! ## The notice comes once -/

/-- A diagnostic is a tip on a template, from its builder or its check. -/
def TipOn (c : Compiler) (template : String) (options : CallOptions) (tip : Diagnostic) : Prop :=
  ∃ result, c.Yields template options result ∧ tip ∈ result.diagnostics.tips

/-- A call reports the notice if it is due, and then nothing else with its code
but tips on the template. -/
theorem reports_of_compileToFunctions? {o : Outcome}
    (hcall : c.compileToFunctions? s template options = some o) :
    ∃ (others : List Report) (tips : List Diagnostic),
      o.reports = c.noticeReports s ++ others ∧
      others.filter (·.diagnostic.code = "C102") = tips.map (⟨·, true⟩) ∧
      ∀ tip ∈ tips, c.TipOn template options tip := by
  cases hcached : s.cache.get? (options.cacheKey template) with
  | some entry =>
      rw [compileToFunctions?_of_cached c hcached] at hcall
      obtain rfl := Option.some.inj hcall
      exact ⟨[], [], (List.append_nil _).symm, rfl, nofun⟩
  | none =>
      obtain ⟨result, reports, hyields, hreports, rfl⟩ :=
        (compileToFunctions?_eq_some_iff c hcached).mp hcall
      exact ⟨reports, _, rfl, filter_code_reports? c hreports, fun tip htip =>
        ⟨result, hyields, (List.mem_filter.mp htip).1⟩⟩

theorem filter_code_noticeReports (c : Compiler) (s : Session) :
    (c.noticeReports s).filter (·.diagnostic.code = "C102") = c.noticeReports s := by
  rcases c.noticeReports_cases s with ⟨hnotice, -⟩ | ⟨hnotice, -⟩ <;> rw [hnotice] <;> rfl

/-- Steps without a call have no outcomes. -/
theorem outcomes_eq_nil (hreplay : c.replay? {} steps = some (outcomes, s))
    (hfirst : ∀ step ∈ steps, step = .clear) : outcomes = [] := by
  induction steps using List.reverseRecOn generalizing outcomes s with
  | nil => exact (Prod.mk.inj (Option.some.inj hreplay)).1.symm
  | append_singleton steps step ih =>
      obtain rfl := hfirst step (by simp)
      obtain ⟨middle, hsteps, rfl⟩ := replay?_append_clear.mp hreplay
      exact ih hsteps fun step hstep => hfirst step (List.mem_append_left _ hstep)

/-- In a whole sequence of steps, the reports with the code of the notice are the
notice, if there was a call and the factory says so, and behind it tips on the
templates. -/
theorem filter_code_replay? (hreplay : c.replay? {} steps = some (outcomes, s)) :
    ∃ (own : List Report) (tips : List Diagnostic),
      (outcomes.flatMap Outcome.reports).filter (·.diagnostic.code = "C102") =
        own ++ tips.map (⟨·, true⟩) ∧
      (own = [notice] ∧ ¬ (∀ step ∈ steps, step = .clear) ∧ c.Prohibited ∨
        own = [] ∧ ((∀ step ∈ steps, step = .clear) ∨ ¬ c.Prohibited)) ∧
      ∀ tip ∈ tips, ∃ template options, .call template options ∈ steps ∧
        c.TipOn template options tip := by
  induction steps using List.reverseRecOn generalizing outcomes s with
  | nil =>
      obtain ⟨rfl, -⟩ := Prod.mk.inj (Option.some.inj hreplay)
      exact ⟨[], [], rfl, .inr ⟨rfl, .inl nofun⟩, nofun⟩
  | append_singleton steps step ih =>
      cases step with
      | clear =>
          obtain ⟨middle, hsteps, -⟩ := replay?_append_clear.mp hreplay
          obtain ⟨own, tips, hfilter, hown, htips⟩ := ih hsteps
          refine ⟨own, tips, hfilter, by simpa [or_imp, forall_and] using hown, fun tip htip => ?_⟩
          obtain ⟨template, options, hmem, htip⟩ := htips tip htip
          exact ⟨template, options, List.mem_append_left _ hmem, htip⟩
      | call template options =>
          obtain ⟨earlier, middle, o, hsteps, hcall, rfl, -⟩ := replay?_append_call.mp hreplay
          obtain ⟨own, tips, hfilter, hown, htips⟩ := ih hsteps
          obtain ⟨others, tips', hreports, hothers, htips'⟩ := reports_of_compileToFunctions? hcall
          have hcalled : ¬ ∀ step ∈ steps ++ [.call template options], step = .clear :=
            fun hclear => nomatch hclear (.call template options) (by simp)
          have hlast : ∀ tip ∈ tips', ∃ t opts, .call t opts ∈ steps ++ [.call template options] ∧
              c.TipOn t opts tip :=
            fun tip htip => ⟨template, options, by simp, htips' tip htip⟩
          rw [List.flatMap_append, List.filter_append, List.flatMap_singleton, hreports,
            List.filter_append, filter_code_noticeReports, hothers]
          rcases c.noticeReports_cases middle with ⟨hnotice, hprobed, hprohibited⟩ | ⟨hnotice, hnot⟩
          · -- The notice is due only if there was no call before, and so no report.
            have hclear := ((probed_replay? hsteps).mp hprobed).2
            rw [outcomes_eq_nil hsteps hclear, hnotice]
            exact ⟨[notice], tips', rfl, .inl ⟨rfl, hcalled, hprohibited⟩, hlast⟩
          · rw [hfilter, hnotice, List.nil_append, List.append_assoc, ← List.map_append]
            refine ⟨own, tips ++ tips', rfl, ?_, fun tip htip => ?_⟩
            · rcases hown with ⟨rfl, -, hprohibited⟩ | ⟨rfl, hclear | hallowed⟩
              · exact .inl ⟨rfl, hcalled, hprohibited⟩
              · have hprobed := (probed_replay? hsteps).mpr ⟨rfl, hclear⟩
                exact .inr ⟨rfl, .inr fun hprohibited => hnot ⟨hprobed, hprohibited⟩⟩
              · exact .inr ⟨rfl, .inr hallowed⟩
            · rcases List.mem_append.mp htip with htip | htip
              · obtain ⟨t, opts, hmem, htip⟩ := htips tip htip
                exact ⟨t, opts, List.mem_append_left _ hmem, htip⟩
              · exact hlast tip htip

/-! ## What every call does -/

/-- A call whose key was asked for returns the entry of the first call for it and
reports nothing, whatever the parts are that would compile a template. -/
theorem repeated_call (hreplay : c.replay? {} steps = some (outcomes, s))
    (hkey : options.cacheKey template ∈ requested steps) :
    ∃ first o, FirstRequest c steps (options.cacheKey template) first ∧
      c.compileToFunctions? s template options = some o ∧
      (∀ build optimizer generate checker,
        compileToFunctions? { c with build, optimizer, generate, checker } s template options =
          some o) ∧
      o.built = none ∧ o.entry = first.entry ∧ o.reports = [] := by
  have h := replay?_remembers hreplay
  obtain ⟨entry, hcached⟩ : ∃ entry, s.cache.get? (options.cacheKey template) = some entry := by
    rw [← Option.ne_none_iff_exists']
    exact fun hnone => h.cached_iff.mp hnone hkey
  obtain ⟨first, hfirst, hentry⟩ := h.firstRequest _ _ hcached
  refine ⟨first, _, hfirst, compileToFunctions?_of_cached c hcached,
    fun _ _ _ _ => compileToFunctions?_of_cached _ hcached, rfl, hentry.symm, ?_⟩
  -- A key was asked for, so the session has been called before.
  rcases c.noticeReports_cases s with ⟨-, hprobed, -⟩ | ⟨hnotice, -⟩
  · have hnone := requested_of_no_call ((probed_replay? hreplay).mp hprobed).2
    exact absurd hkey (hnone ▸ List.not_mem_nil)
  · exact hnotice

/-- A call leaves the entries of other keys alone. -/
theorem get?_cache_of_ne {o : Outcome} (hcall : c.compileToFunctions? s template options = some o)
    {other : String} (hother : other ≠ options.cacheKey template) :
    o.session.cache.get? other = s.cache.get? other := by
  obtain ⟨-, hsession⟩ | ⟨-, -, -, hsession⟩ := compileToFunctions?_cases hcall
  · rw [hsession]
  · rw [hsession, Dict.get?_insert_of_ne _ hother]

/-- **The history of a compiler decides what every call does.**  After any steps
in which all calls returned, the cache has one entry for each different key asked
for since procedures were last forgotten.  All reports with the code of the notice
that procedures cannot be made are that notice, once and first, and tips of
templates.

The next call runs the builder and the generator on its template if and only if
its key was not asked for since then; it returns if what comes of it can be
reported on.  Otherwise it returns the entry of the first call that asked for the
key, with whatever options, and reports nothing; it would do the same with any
other builder and generator.  It changes no entry of another key.  It reports the
notice if and only if it is the very first call and the factory says so, and then
before all else. -/
theorem replay?_decides_calls (hreplay : c.replay? {} steps = some (outcomes, s)) :
    s.cache.size = (requested steps).dedup.length ∧
    (∃ (own : List Report) (tips : List Diagnostic),
      (outcomes.flatMap Outcome.reports).filter (·.diagnostic.code = "C102") =
        own ++ tips.map (⟨·, true⟩) ∧
      (own = [notice] ∧ ¬ (∀ step ∈ steps, step = .clear) ∧ c.Prohibited ∨
        own = [] ∧ ((∀ step ∈ steps, step = .clear) ∨ ¬ c.Prohibited)) ∧
      ∀ tip ∈ tips, ∃ template options, .call template options ∈ steps ∧
        c.TipOn template options tip) ∧
    ∀ template options,
      (options.cacheKey template ∈ requested steps →
        ∃ first o, FirstRequest c steps (options.cacheKey template) first ∧
          c.compileToFunctions? s template options = some o ∧
          (∀ build optimizer generate checker,
            compileToFunctions? { c with build, optimizer, generate, checker } s template options =
              some o) ∧
          o.built = none ∧ o.entry = first.entry ∧ o.reports = []) ∧
      (options.cacheKey template ∉ requested steps →
        ((∃ o, c.compileToFunctions? s template options = some o) ↔
          ∃ result, c.Yields template options result ∧
            Reportable template (options.resolve c.base).outputSourceRange
              result.diagnostics.errors) ∧
        ∀ o, c.compileToFunctions? s template options = some o →
          o.built = some (Text.trim template) ∧
          ∃ result, c.Yields template options result ∧
            o.entry.functions = ⟨materialize c.factory result.code.render,
              result.code.staticRenderFns.map (materialize c.factory)⟩) ∧
      ∀ o, c.compileToFunctions? s template options = some o →
        (∀ other, other ≠ options.cacheKey template →
          o.session.cache.get? other = s.cache.get? other) ∧
        ∃ (own others : List Report) (tips : List Diagnostic), o.reports = own ++ others ∧
          (own = [notice] ∧ (∀ step ∈ steps, step = .clear) ∧ c.Prohibited ∨
            own = [] ∧ ¬ ((∀ step ∈ steps, step = .clear) ∧ c.Prohibited)) ∧
          others.filter (·.diagnostic.code = "C102") = tips.map (⟨·, true⟩) ∧
          ∀ tip ∈ tips, c.TipOn template options tip := by
  have hremembers := replay?_remembers hreplay
  refine ⟨hremembers.size_eq, filter_code_replay? hreplay, fun template options =>
    ⟨repeated_call hreplay, fun hnew => ?_,
      fun o hcall => ⟨fun other => get?_cache_of_ne hcall, ?_⟩⟩⟩
  · have hmissed := hremembers.cached_iff.mpr hnew
    refine ⟨exists_outcome_iff c hmissed, fun o hcall => ?_⟩
    obtain ⟨result, reports, hyields, -, rfl⟩ :=
      (compileToFunctions?_eq_some_iff c hmissed).mp hcall
    exact ⟨rfl, result, hyields, rfl⟩
  · obtain ⟨others, tips, hreports, hothers⟩ := reports_of_compileToFunctions? hcall
    refine ⟨_, others, tips, hreports, ?_, hothers⟩
    have hfirst : s.probed = false ↔ ∀ step ∈ steps, step = .clear :=
      (probed_replay? hreplay).trans (and_iff_right rfl)
    rw [← hfirst]
    exact c.noticeReports_cases s

end Replay

/-- A compiler whose code is the text of the template. -/
def echoing : Compiler where
  base := {}
  build text _ := pure { nodes := [.text text none none], root := some 0 }
  generate tree _ :=
    match tree.nodes with
    | [.text text _ _] => ⟨text, []⟩
    | _ => ⟨"", []⟩
  factory := { construct := fun source => .ok (.compiled source) }

/-- After ` x` was compiled, forgotten and compiled again, there is one entry.  A
call for ` x` with other options gets that of the second compilation, and a call
for ` y` gets the text that was built. -/
theorem replay?_decides_calls_forgotten :
    ∃ outcomes s,
      echoing.replay? {} [.call " x" {}, .clear, .call " x" {}] = some (outcomes, s) ∧
      s.cache.size = 1 ∧
      (∃ first o, FirstRequest echoing [.call " x" {}, .clear, .call " x" {}] " x" first ∧
        echoing.compileToFunctions? s " x" { optimize := some false } = some o ∧
        o.built = none ∧ o.entry = first.entry ∧ o.reports = []) ∧
      ∃ o, echoing.compileToFunctions? s " y" {} = some o ∧ o.built = some "y" ∧
        o.entry.functions = ⟨.compiled "y", []⟩ := by
  obtain ⟨outcomes, s, hreplay⟩ : ∃ outcomes s,
      echoing.replay? {} [.call " x" {}, .clear, .call " x" {}] = some (outcomes, s) :=
    ⟨_, _, rfl⟩
  obtain ⟨hsize, -, hcalls⟩ := replay?_decides_calls hreplay
  obtain ⟨first, o, hfirst, hcall, -, hrepeated⟩ :=
    (hcalls " x" { optimize := some false }).1 (by decide)
  obtain ⟨hreturns, hmissed⟩ := (hcalls " y" {}).2.1 (by decide)
  obtain ⟨result, hyields⟩ : ∃ result, echoing.Yields " y" {} result :=
    ⟨_, echoing.compile?_eq_some_iff.mp rfl⟩
  obtain ⟨o', hcall'⟩ := hreturns.mpr ⟨result, hyields, nofun⟩
  obtain ⟨hbuilt, result', hyields', hfunctions⟩ := hmissed o' hcall'
  have htrim : Text.trim " y" = "y" := by decide
  refine ⟨outcomes, s, hreplay, hsize.trans (by decide), ⟨first, o, hfirst, hcall, hrepeated⟩,
    o', hcall', hbuilt.trans (congrArg some htrim), ?_⟩
  rw [hfunctions, hyields'.code]
  have hcode : echoing.generate (echoing.checkedTree " y" {})
      (CallOptions.resolve {} echoing.base) = ⟨Text.trim " y", []⟩ := rfl
  rw [hcode, htrim]
  rfl

/-- A compiler whose builder gives the code of the notice to a tip of its own. -/
def advising : Compiler where
  base := {}
  build _ _ := ⟨{}, [⟨⟨"C102", "prefer another template", none⟩, true⟩]⟩
  generate _ _ := ⟨"", []⟩
  factory := { construct := fun source => .ok (.compiled source) }

/-- A compiler whose builder finds an error in the second byte of every
template. -/
def cutting : Compiler where
  base := { outputSourceRange := true }
  build _ _ := ⟨{}, [⟨⟨"X002", "wrong", some ⟨1, 1⟩⟩, false⟩]⟩
  generate _ _ := ⟨"", []⟩

/-- Where procedures can be made, two calls still report the code of the notice
twice, as tips.  A call whose only error cuts the letter of its template compiles
it and is then broken off. -/
theorem tip_repeats_notice_and_cut_breaks_off :
    (¬ advising.Prohibited ∧ ∃ outcomes s,
      advising.replay? {} [.call "a" {}, .call "b" {}] = some (outcomes, s) ∧
      ((outcomes.flatMap Outcome.reports).filter (·.diagnostic.code = "C102")).length = 2) ∧
    (∃ result, cutting.Yields "é" {} result ∧ result.diagnostics.errors.length = 1) ∧
      cutting.replay? {} [.call "é" {}] = none := by
  refine ⟨⟨?_, _, _, rfl, by decide⟩, ⟨_, cutting.compile?_eq_some_iff.mp rfl, by decide⟩,
    by decide +kernel⟩
  rintro ⟨reason, hprobe⟩
  exact nomatch hprobe

end Stencil.Compiler
