import Stencil.Proofs.Compiler.Call
import Stencil.Proofs.Dict

/-!
# When the cache is transparent

A session keeps the procedures of a template under the key `open,close` followed
by the template, or under the bare template if a call names no delimiters.  The
parts of a key are not marked off from each other, so different requests may
have one key.  This file proves that such a collision is the only thing that can
go wrong: a sequence of requests is answered as if nothing were cached, by every
compiler, exactly if no two different ones among them have the same key.

* One direction follows the sessions of a run with the invariant `SoundFor`:
  what is cached under the key of a request is the request's own answer.
* The other one uses that all entries of a run are still cached at its end, so
  that requests with one key share their answer, and `Compiler.marking`, whose
  answers tell delimiters apart.
-/

namespace Stencil.Compiler

/-! ## One call -/

/-- A call whose key is not cached returns exactly if the template compiles and
all reports on it can be made. -/
theorem compileToFunctions?_of_missing (c : Compiler) {s : Session} {template : String}
    {call : CallOptions} (hmissing : s.cache.get? (call.cacheKey template) = none) :
    (c.compileToFunctions? s template call).map (fun o => o.entry.functions) =
      (c.compile? template call).bind fun result =>
        (c.reports? template call result).map fun _ => c.functions result.code := by
  rw [compileToFunctions?_of_not_cached c hmissing, Option.map_bind]
  simp only [Function.comp_def, Option.map_map]
  rfl

/-- After a call, its procedures are cached under its key. -/
theorem get?_cache_of_compileToFunctions? {c : Compiler} {s : Session} {template : String}
    {call : CallOptions} {o : Outcome} (hcall : c.compileToFunctions? s template call = some o) :
    o.session.cache.get? (call.cacheKey template) = some o.entry := by
  obtain ⟨hcached, hsession⟩ | ⟨-, -, -, hsession⟩ := compileToFunctions?_cases hcall
  · rw [hsession]
    exact hcached
  · rw [hsession]
    exact Dict.get?_insert_self ..

/-- A call never changes what is cached already. -/
theorem get?_cache_mono {c : Compiler} {s : Session} {template : String} {call : CallOptions}
    {o : Outcome} (hcall : c.compileToFunctions? s template call = some o) {key : String}
    {entry : Entry} (hcached : s.cache.get? key = some entry) :
    o.session.cache.get? key = some entry := by
  obtain ⟨-, hsession⟩ | ⟨hmissing, -, -, hsession⟩ := compileToFunctions?_cases hcall
  · rw [hsession]
    exact hcached
  · have hne : key ≠ call.cacheKey template := by
      rintro rfl
      simp [hmissing] at hcached
    rw [hsession, Dict.get?_insert_of_ne _ hne]
    exact hcached

/-! ## Entries are told apart by their numbers -/

/-- Every cached entry has a number below the count, and no other key has it. -/
structure Session.Numbered (s : Session) : Prop where
  lt_count : ∀ {key entry}, s.cache.get? key = some entry → entry.serial < s.count
  key_unique : ∀ {key₁ key₂ entry₁ entry₂}, s.cache.get? key₁ = some entry₁ →
    s.cache.get? key₂ = some entry₂ → entry₁.serial = entry₂.serial → key₁ = key₂

theorem numbered_empty : Session.Numbered {} where
  lt_count hcached := nomatch hcached
  key_unique hcached := nomatch hcached

theorem numbered_insert {s : Session} (hnumbered : s.Numbered) (key : String)
    (functions : Functions) (probed : Bool) :
    Session.Numbered ⟨s.cache.insert key ⟨s.count, functions⟩, probed, s.count + 1⟩ where
  lt_count {other entry} hcached := by
    rw [Dict.get?_insert] at hcached
    split_ifs at hcached with hkey
    · obtain rfl := Option.some.inj hcached
      exact Nat.lt_succ_self _
    · exact Nat.lt_succ_of_lt (hnumbered.lt_count hcached)
  key_unique {key₁ key₂ entry₁ entry₂} hcached₁ hcached₂ hserial := by
    rw [Dict.get?_insert] at hcached₁ hcached₂
    -- A number below the count cannot be that of the new entry.
    split_ifs at hcached₁ hcached₂ with hkey₁ hkey₂ hkey₂
    · rw [hkey₁, hkey₂]
    · obtain rfl := Option.some.inj hcached₁
      exact absurd hserial.symm (Nat.ne_of_lt (hnumbered.lt_count hcached₂))
    · obtain rfl := Option.some.inj hcached₂
      exact absurd hserial (Nat.ne_of_lt (hnumbered.lt_count hcached₁))
    · exact hnumbered.key_unique hcached₁ hcached₂ hserial

theorem numbered_of_compileToFunctions? {c : Compiler} {s : Session} {template : String}
    {call : CallOptions} {o : Outcome} (hcall : c.compileToFunctions? s template call = some o)
    (hnumbered : s.Numbered) : o.session.Numbered := by
  obtain ⟨-, hsession⟩ | ⟨-, code, hentry, hsession⟩ := compileToFunctions?_cases hcall
  · rw [hsession]
    exact ⟨hnumbered.lt_count, hnumbered.key_unique⟩
  · rw [hsession, hentry]
    exact numbered_insert hnumbered _ _ _

/-! ## Sequences of calls -/

/-- What a call asks for, apart from the options that all calls share. -/
structure Request where
  template : String
  delimiters : Option Delimiters
  deriving DecidableEq

namespace Request

/-- The options of a request. -/
def options (r : Request) (call : CallOptions) : CallOptions :=
  { call with delimiters := r.delimiters }

/-- The key of a request in the cache. -/
def key (r : Request) : String :=
  (r.options {}).cacheKey r.template

theorem cacheKey_options (r : Request) (call : CallOptions) :
    (r.options call).cacheKey r.template = r.key := rfl

/-- Only requests that differ in their delimiters can collide. -/
theorem eq_of_key_eq {r₁ r₂ : Request} (hkey : r₁.key = r₂.key)
    (hdelimiters : r₁.delimiters = r₂.delimiters) : r₁ = r₂ := by
  obtain ⟨template₁, delimiters⟩ := r₁
  obtain ⟨template₂, _⟩ := r₂
  obtain rfl : delimiters = _ := hdelimiters
  cases delimiters with
  | none =>
      obtain rfl : template₁ = template₂ := hkey
      rfl
  | some d =>
      have hdisplay : d.display ++ template₁ = d.display ++ template₂ := hkey
      rw [String.append_right_inj] at hdisplay
      rw [hdisplay]

end Request

/-- The entries that a session gives for some requests, one after another, and
the session behind them.  There are none if some call does not return. -/
def run? (c : Compiler) (call : CallOptions) : Session → List Request → Option (List Entry × Session)
  | s, [] => some ([], s)
  | s, r :: requests => do
    let o ← c.compileToFunctions? s r.template (r.options call)
    let (entries, final) ← c.run? call o.session requests
    return (o.entry :: entries, final)

/-- The answers to some requests when a compiler starts with nothing cached. -/
def answers? (c : Compiler) (call : CallOptions) (requests : List Request) :
    Option (List Functions) :=
  (c.run? call {} requests).map fun (entries, _) => entries.map Entry.functions

/-- The answer to a request when nothing is cached. -/
def fresh? (c : Compiler) (call : CallOptions) (r : Request) : Option Functions :=
  (c.compileToFunctions? {} r.template (r.options call)).map fun o => o.entry.functions

theorem fresh?_eq_compile? (c : Compiler) (call : CallOptions) (r : Request) :
    c.fresh? call r =
      (c.compile? r.template (r.options call)).bind fun result =>
        (c.reports? r.template (r.options call) result).map fun _ => c.functions result.code :=
  compileToFunctions?_of_missing c rfl

section Runs

variable {c : Compiler} {call : CallOptions}

theorem run?_cons_eq_some {s final : Session} {r : Request} {requests : List Request}
    {entries : List Entry} (hrun : c.run? call s (r :: requests) = some (entries, final)) :
    ∃ o others, c.compileToFunctions? s r.template (r.options call) = some o ∧
      c.run? call o.session requests = some (others, final) ∧ entries = o.entry :: others := by
  simp only [run?, Option.bind_eq_bind, Option.bind_eq_some_iff] at hrun
  obtain ⟨o, hcall, ⟨others, final'⟩, hothers, hout⟩ := hrun
  obtain ⟨rfl, rfl⟩ := Prod.mk.inj (Option.some.inj hout)
  exact ⟨o, others, hcall, hothers, rfl⟩

/-- What every call keeps, a run keeps. -/
theorem run?_invariant {P : Session → Prop}
    (hstep : ∀ {s template call o}, c.compileToFunctions? s template call = some o →
      P s → P o.session) {s final : Session} {requests : List Request} {entries : List Entry}
    (hrun : c.run? call s requests = some (entries, final)) (hstart : P s) : P final := by
  induction requests generalizing s entries with
  | nil =>
      obtain ⟨-, rfl⟩ := Prod.mk.inj (Option.some.inj hrun)
      exact hstart
  | cons r requests ih =>
      obtain ⟨o, others, hcall, hothers, -⟩ := run?_cons_eq_some hrun
      exact ih hothers (hstep hcall hstart)

/-- At the end of a run, the entry of each request is cached under its key. -/
theorem forall₂_get?_cache_of_run? {s final : Session} {requests : List Request}
    {entries : List Entry} (hrun : c.run? call s requests = some (entries, final)) :
    List.Forall₂ (fun r entry => final.cache.get? r.key = some entry) requests entries := by
  induction requests generalizing s entries with
  | nil =>
      obtain ⟨rfl, -⟩ := Prod.mk.inj (Option.some.inj hrun)
      exact .nil
  | cons r requests ih =>
      obtain ⟨o, others, hcall, hothers, rfl⟩ := run?_cons_eq_some hrun
      -- The entry is there after the call, and no later call removes it.
      have hcached : o.session.cache.get? r.key = some o.entry :=
        r.cacheKey_options call ▸ get?_cache_of_compileToFunctions? hcall
      have hkept : final.cache.get? r.key = some o.entry :=
        run?_invariant (P := fun s => s.cache.get? r.key = some o.entry)
          (fun hcall hcached => get?_cache_mono hcall hcached) hothers hcached
      exact .cons hkept (ih hothers)

/-! ## Without a collision, every answer is its own -/

variable (c call) in
/-- What is cached under the key of a request is the answer to it. -/
def SoundFor (requests : List Request) (s : Session) : Prop :=
  ∀ r ∈ requests, ∀ entry, s.cache.get? r.key = some entry →
    c.fresh? call r = some entry.functions

variable {requests : List Request}

/-- A call on a sound session gives the fresh answer. -/
theorem compileToFunctions?_of_soundFor {s : Session} {r : Request} (hr : r ∈ requests)
    (hsound : SoundFor c call requests s) :
    (c.compileToFunctions? s r.template (r.options call)).map (fun o => o.entry.functions) =
      c.fresh? call r := by
  cases hcached : s.cache.get? r.key with
  | some entry =>
      rw [hsound r hr entry hcached,
        compileToFunctions?_of_cached c ((r.cacheKey_options call).symm ▸ hcached), Option.map_some]
  | none =>
      rw [← r.cacheKey_options call] at hcached
      rw [fresh?_eq_compile?, compileToFunctions?_of_missing c hcached]

/-- A call keeps a session sound as long as no other request has its key. -/
theorem soundFor_of_compileToFunctions? {s : Session} {r : Request} {o : Outcome}
    (hr : r ∈ requests) (hkeys : ∀ other ∈ requests, other.key = r.key → other = r)
    (hsound : SoundFor c call requests s)
    (hcall : c.compileToFunctions? s r.template (r.options call) = some o) :
    SoundFor c call requests o.session := by
  have hanswer : c.fresh? call r = some o.entry.functions := by
    rw [← compileToFunctions?_of_soundFor hr hsound, hcall, Option.map_some]
  intro other hother entry hentry
  obtain ⟨-, hsession⟩ | ⟨-, -, -, hsession⟩ := compileToFunctions?_cases hcall
  · rw [hsession] at hentry
    exact hsound other hother entry hentry
  -- The only new entry is that of the request itself, which no other one shares.
  · rw [hsession, r.cacheKey_options, Dict.get?_insert] at hentry
    split_ifs at hentry with hkey
    · obtain rfl := Option.some.inj hentry
      rw [hkeys other hother hkey, hanswer]
    · exact hsound other hother entry hentry

/-- A run over some of the requests, from a sound session, gives the fresh
answers. -/
theorem run?_of_soundFor
    (hkeys : ∀ r₁ ∈ requests, ∀ r₂ ∈ requests, r₁.key = r₂.key → r₁ = r₂) {s : Session}
    (hsound : SoundFor c call requests s) {asked : List Request} (hasked : asked ⊆ requests) :
    (c.run? call s asked).map (fun (entries, _) => entries.map Entry.functions) =
      asked.mapM (c.fresh? call) := by
  induction asked generalizing s with
  | nil => rfl
  | cons r asked ih =>
      obtain ⟨hr, hasked⟩ := List.cons_subset.mp hasked
      rw [List.mapM_cons, ← compileToFunctions?_of_soundFor hr hsound, run?]
      cases hcall : c.compileToFunctions? s r.template (r.options call) with
      | none => rfl
      | some o =>
          have hnext : SoundFor c call requests o.session :=
            soundFor_of_compileToFunctions? hr (fun other hother => hkeys other hother r hr)
              hsound hcall
          simp only [Option.map_some, Option.bind_eq_bind, Option.bind_some, ← ih hnext hasked]
          cases c.run? call o.session asked <;> rfl

end Runs

/-! ## A collision shows in the answers of some compiler -/

/-- A compiler whose code says whether the delimiters are the ones given. -/
def marking (d : Option Delimiters) : Compiler where
  base := {}
  build _ _ := pure {}
  generate _ options := ⟨if options.delimiters = d then "marked" else "plain", []⟩
  factory := { construct := fun source => .ok (.compiled source) }

theorem fresh?_marking (d : Option Delimiters) (r : Request) :
    (marking d).fresh? {} r =
      some ⟨.compiled (if r.delimiters = d then "marked" else "plain"), []⟩ := by
  have hdelimiters : ((r.options {}).resolve (marking d).base).delimiters = r.delimiters := by
    change r.delimiters.or none = r.delimiters
    rw [Option.or_none]
  -- The template is empty, so that there is nothing to report.
  obtain ⟨result, hresult, hcode, hreports⟩ : ∃ result,
      (marking d).compile? r.template (r.options {}) = some result ∧
      result.code = ⟨if r.delimiters = d then "marked" else "plain", []⟩ ∧
      (marking d).reports? r.template (r.options {}) result = some [] := by
    rw [← hdelimiters]
    exact ⟨_, rfl, rfl, rfl⟩
  rw [fresh?_eq_compile?, hresult, Option.bind_some, hreports, Option.map_some, hcode]
  rfl

/-- In a run that gives the fresh answers, requests with one key have one fresh
answer. -/
theorem fresh?_eq_of_key_eq {c : Compiler} {call : CallOptions} {requests : List Request}
    {answer : Request → Functions} (hfresh : ∀ r, c.fresh? call r = some (answer r))
    (hanswers : c.answers? call requests = requests.mapM (c.fresh? call)) {r₁ r₂ : Request}
    (hr₁ : r₁ ∈ requests) (hr₂ : r₂ ∈ requests) (hkey : r₁.key = r₂.key) :
    answer r₁ = answer r₂ := by
  have hmapM : requests.mapM (c.fresh? call) = some (requests.map answer) := by
    rw [show c.fresh? call = fun r => some (answer r) from funext hfresh]
    exact List.mapM_pure
  rw [hmapM] at hanswers
  obtain ⟨⟨entries, final⟩, hrun, hentries⟩ := Option.map_eq_some_iff.mp hanswers
  have hcached : requests.map (fun r => final.cache.get? r.key) = entries.map some := by
    rw [← List.forall₂_eq_eq_eq, List.forall₂_map_left_iff, List.forall₂_map_right_iff]
    exact forall₂_get?_cache_of_run? hrun
  have hanswer : ∀ r ∈ requests,
      (final.cache.get? r.key).map Entry.functions = some (answer r) := by
    rw [← List.map_inj_left]
    calc requests.map (fun r => (final.cache.get? r.key).map Entry.functions)
        = (requests.map fun r => final.cache.get? r.key).map (Option.map Entry.functions) := by
          rw [List.map_map]
          rfl
      _ = (entries.map Entry.functions).map some := by
          rw [hcached, List.map_map, List.map_map]
          rfl
      _ = requests.map fun r => some (answer r) := by
          rw [show entries.map Entry.functions = requests.map answer from hentries, List.map_map]
          rfl
  have hsame := hanswer r₁ hr₁
  rw [hkey, hanswer r₂ hr₂] at hsame
  exact (Option.some.inj hsame).symm

/-- **The cache is transparent exactly where no keys collide.**  A sequence of
requests is answered as if nothing were cached, by every compiler and with
whatever other options, if and only if no two different requests of it have the
same key.  Two requests of a run share an entry of the cache if and only if they
have the same key. -/
theorem answers?_eq_fresh?_iff_keys_injective (requests : List Request) :
    ((∀ (c : Compiler) (call : CallOptions),
        c.answers? call requests = requests.mapM (c.fresh? call)) ↔
      ∀ r₁ ∈ requests, ∀ r₂ ∈ requests, r₁.key = r₂.key → r₁ = r₂) ∧
    ∀ (c : Compiler) (call : CallOptions) (entries : List Entry) (final : Session),
      c.run? call {} requests = some (entries, final) →
        requests.length = entries.length ∧
        ∀ p ∈ requests.zip entries, ∀ q ∈ requests.zip entries,
          p.2.serial = q.2.serial ↔ p.1.key = q.1.key := by
  refine ⟨⟨fun htransparent r₁ hr₁ r₂ hr₂ hkey => ?_, fun hkeys c call => ?_⟩, ?_⟩
  · -- Two requests that collide differ in their delimiters, and the compiler that
    -- marks those of the first one answers them alike only if they agree.
    have hmark := fresh?_eq_of_key_eq (fresh?_marking r₁.delimiters) (htransparent _ _) hr₁ hr₂ hkey
    apply Request.eq_of_key_eq hkey
    by_contra hne
    rw [if_pos rfl, if_neg (Ne.symm hne)] at hmark
    exact absurd hmark (by decide)
  · have hempty : SoundFor c call requests {} := fun _ _ _ hcached => nomatch hcached
    exact run?_of_soundFor hkeys hempty (List.Subset.refl _)
  · intro c call entries final hrun
    obtain ⟨hlength, hcached⟩ := List.forall₂_iff_zip.mp (forall₂_get?_cache_of_run? hrun)
    have hnumbered : final.Numbered :=
      run?_invariant numbered_of_compileToFunctions? hrun numbered_empty
    refine ⟨hlength, fun p hp q hq => ⟨?_, fun hkey => ?_⟩⟩
    · exact hnumbered.key_unique (hcached hp) (hcached hq)
    · have hsame := hcached hp
      rw [hkey, hcached hq] at hsame
      rw [Option.some.inj hsame]

/-- The request for `x` between `a` and `b` and that for `a,bx` with the standard
delimiters have one key, and the second is answered with the code of the first. -/
theorem answers?_ne_fresh?_of_collision :
    (marking none).answers? {} [⟨"x", some ⟨"a", "b"⟩⟩, ⟨"a,bx", none⟩] ≠
      [⟨"x", some ⟨"a", "b"⟩⟩, ⟨"a,bx", none⟩].mapM ((marking none).fresh? {}) := by
  intro hanswers
  have hmark := fresh?_eq_of_key_eq (fresh?_marking none) hanswers
    (List.mem_cons_self) (List.mem_cons_of_mem _ List.mem_cons_self) (by decide)
  exact absurd hmark (by decide)

end Stencil.Compiler
