import Stencil.Proofs.Ecma.Brackets

/-!
# How parses follow the brackets

A run of a parse that is not refused goes along a path of tokens.  `Leads T st p Q` says where it
gets to: from a token that satisfies `T`, with `st` open, `p` goes on to a place where `Q a` is open
when it gives `a`.  A parse that leaves open what it finds open is `Balanced`, and one that does not
move is `Still`.

Only runs without faults count.  A fault that has been noted stays, so a parse that notes one may do
anything behind it.
-/

namespace Stencil.Ecma

/-! ## Outcomes -/

/-- What a parse gives, and the state it ends in. -/
def outcome {α : Type} (p : Parse α) (s : State) : Except Fault α × State :=
  p.run s

section Outcome

variable {α β : Type} {p : Parse α} {f : α → Parse β} {s s' : State}

theorem outcome_bind_ok {a : α} (h : outcome p s = (.ok a, s')) :
    outcome (p >>= f) s = outcome (f a) s' := by
  change ExceptT.bindCont f (outcome p s).1 (outcome p s).2 = _
  rw [h]
  rfl

theorem outcome_bind_error {e : Fault} (h : outcome p s = (.error e, s')) :
    outcome (p >>= f) s = (.error e, s') := by
  change ExceptT.bindCont f (outcome p s).1 (outcome p s).2 = _
  rw [h]
  rfl

theorem exists_of_outcome_bind {b : β} (h : outcome (p >>= f) s = (.ok b, s')) :
    ∃ a s₁, outcome p s = (.ok a, s₁) ∧ outcome (f a) s₁ = (.ok b, s') := by
  rcases hp : outcome p s with ⟨e | a, s₁⟩
  · rw [outcome_bind_error hp] at h
    simp at h
  · rw [outcome_bind_ok hp] at h
    exact ⟨a, s₁, rfl, h⟩

theorem outcome_advance : outcome advance s = outcome (advanceTo s.lexeme.rest) s :=
  outcome_bind_ok (show outcome get s = (.ok s, s) from rfl)

theorem outcome_tryCatch (handle : Fault → Parse α) :
    outcome (tryCatch p handle) s = match outcome p s with
      | (.ok a, s') => (.ok a, s')
      | (.error e, s') => outcome (handle e) s' := by
  unfold outcome
  rw [ExceptT.run_tryCatch]
  have step {γ δ : Type} (x : StateM State γ) (g : γ → StateM State δ) :
      (x >>= g) s = g (x s).1 (x s).2 := rfl
  rw [step]
  rcases ExceptT.run p s with ⟨_ | _, s'⟩ <;> rfl

theorem outcome_recover (handle : Fault → Parse α) :
    outcome (recover p handle) s = match outcome p s with
      | (.ok a, s') => (.ok a, s')
      | (.error e, s') => if s'.halted then (.error e, s') else outcome (handle e) s' := by
  unfold recover
  rw [outcome_tryCatch]
  split
  · rfl
  · rename_i e s' _
    rw [outcome_bind_ok (show outcome get s' = (.ok s', s') from rfl)]
    dsimp only
    split <;> rfl

theorem outcome_within (change : Context → Context) :
    outcome (within change p) s =
      ((outcome p { s with context := change s.context }).1,
        { (outcome p { s with context := change s.context }).2 with context := s.context }) :=
  rfl

theorem outcome_apart :
    outcome (apart p) s =
      ((outcome p { s with labels := [], pause := none }).1,
        { (outcome p { s with labels := [], pause := none }).2 with
          labels := s.labels, pause := s.pause }) :=
  rfl

end Outcome

/-! ## Faults stay -/

/-- A parse that forgets no fault. -/
def KeepsFaults {α : Type} (p : Parse α) : Prop :=
  ∀ s, (outcome p s).2.noted = none → s.noted = none

section KeepsFaults

variable {α β : Type} {p : Parse α} {f : α → Parse β}

theorem keepsFaults_pure (a : α) : KeepsFaults (pure a) :=
  fun _ h => h

theorem keepsFaults_throw (e : Fault) : KeepsFaults (throw e : Parse α) :=
  fun _ h => h

theorem KeepsFaults.bind (hp : KeepsFaults p) (hf : ∀ a, KeepsFaults (f a)) :
    KeepsFaults (p >>= f) := by
  intro s hs
  rcases h : outcome p s with ⟨e | a, s₁⟩
  · rw [outcome_bind_error h] at hs
    exact hp s (by rw [h]; exact hs)
  · rw [outcome_bind_ok h] at hs
    exact hp s (by rw [h]; exact hf a s₁ hs)

theorem keepsFaults_modify {g : State → State} (h : ∀ s, (g s).noted = none → s.noted = none) :
    KeepsFaults (modify g : Parse Unit) :=
  h

theorem KeepsFaults.recover {handle : Fault → Parse α} (hp : KeepsFaults p)
    (hh : ∀ e, KeepsFaults (handle e)) : KeepsFaults (recover p handle) := by
  intro s hs
  rw [outcome_recover] at hs
  rcases h : outcome p s with ⟨e | a, s₁⟩
  all_goals
    rw [h] at hs
    apply hp s
    rw [h]
  · dsimp only at hs
    split at hs
    · exact hs
    · exact hh e s₁ hs
  · exact hs

theorem KeepsFaults.iterate {σ : Type} {step : σ → Parse (Sum σ α)}
    (h : ∀ x, KeepsFaults (step x)) (n : Nat) (x : σ) : KeepsFaults (iterate n step x) := by
  induction n generalizing x with
  | zero => exact keepsFaults_throw _
  | succ n ih =>
    refine (h x).bind fun r => ?_
    cases r with
    | inl x => exact ih x
    | inr a => exact keepsFaults_pure a

theorem KeepsFaults.within (h : KeepsFaults p) (change : Context → Context) :
    KeepsFaults (within change p) :=
  fun s => h { s with context := change s.context }

theorem KeepsFaults.apart (h : KeepsFaults p) : KeepsFaults (apart p) :=
  fun s => h { s with labels := [], pause := none }

theorem noted_noteAny {s : State} {fault : Option Fault} :
    (s.noteAny fault).noted = none ↔ s.noted = none ∧ fault = none := by
  simp [State.noteAny]

theorem keepsFaults_advanceTo (rest : List Char) : KeepsFaults (advanceTo rest) := by
  refine keepsFaults_modify fun s h => ?_
  dsimp only at h
  split at h
  · exact (noted_noteAny.mp (noted_noteAny.mp h).1).1
  · exact (noted_noteAny.mp h).1

theorem keepsFaults_advance : KeepsFaults advance := by
  intro s hs
  rw [outcome_advance] at hs
  exact keepsFaults_advanceTo _ s hs

theorem keepsFaults_noteBroken : KeepsFaults noteBroken := by
  refine KeepsFaults.bind (fun _ h => h) fun t => ?_
  split
  · refine (keepsFaults_modify fun s h => ?_).bind fun _ => keepsFaults_advance
    exact (noted_noteAny.mp h).1
  · exact keepsFaults_pure ()

end KeepsFaults

/-! ## Parses that refuse -/

/-- A parse that never goes on without a fault. -/
structure Refuses {α : Type} (p : Parse α) : Prop where
  keepsFaults : KeepsFaults p
  noted {s s' : State} {a : α} : outcome p s = (.ok a, s') → s'.noted ≠ none

section Refuses

variable {α β : Type} {p : Parse α} {f : α → Parse β}

theorem refuses_throw (e : Fault) : Refuses (throw e : Parse α) where
  keepsFaults := keepsFaults_throw e
  noted hs := by cases hs

theorem KeepsFaults.refuses (hp : KeepsFaults p) (hf : ∀ a, Refuses (f a)) : Refuses (p >>= f) where
  keepsFaults := hp.bind fun a => (hf a).keepsFaults
  noted hs := by
    obtain ⟨a, _, _, hf'⟩ := exists_of_outcome_bind hs
    exact (hf a).noted hf'

theorem refuses_fail (e : Fault) : Refuses (fail e : Parse α) :=
  keepsFaults_noteBroken.refuses fun _ => refuses_throw e

theorem refuses_halt (e : Fault) : Refuses (halt e : Parse α) :=
  KeepsFaults.refuses (fun _ h => h) fun _ => refuses_throw e

theorem refuses_note (e : Fault) : Refuses (note e) where
  keepsFaults :=
    keepsFaults_noteBroken.bind fun _ => keepsFaults_modify fun _ h => (noted_noteAny.mp h).1
  noted hs := by
    obtain ⟨_, s₁, _, hnote⟩ := exists_of_outcome_bind hs
    obtain rfl := congrArg Prod.snd hnote
    intro h
    exact absurd (noted_noteAny.mp h).2 (by simp)

theorem Refuses.bind (hp : Refuses p) (hf : ∀ a, KeepsFaults (f a)) : Refuses (p >>= f) where
  keepsFaults := hp.keepsFaults.bind hf
  noted {s s' b} hs := by
    obtain ⟨a, s₁, hp', hf'⟩ := exists_of_outcome_bind hs
    intro hn
    exact hp.noted hp' (hf a s₁ (by rw [hf']; exact hn))

end Refuses

/-! ## Parses that do not move -/

/-- A parse that stays at its token, and says `R` about it with what it gives. -/
structure Looks {α : Type} (p : Parse α) (R : α → Lexeme → Prop) : Prop where
  keepsFaults : KeepsFaults p
  stays {s s' : State} {a : α} : outcome p s = (.ok a, s') → s'.noted = none →
    s'.lexeme = s.lexeme ∧ s'.trail = s.trail ∧ R a s.lexeme

/-- A parse that stays at its token. -/
def Still {α : Type} (p : Parse α) : Prop :=
  Looks p fun _ _ => True

section Still

variable {α β : Type} {p : Parse α} {f : α → Parse β} {R : α → Lexeme → Prop}

theorem Looks.weaken {R' : α → Lexeme → Prop} (h : Looks p R) (hR : ∀ a l, R a l → R' a l) :
    Looks p R' where
  keepsFaults := h.keepsFaults
  stays hs hn := ⟨(h.stays hs hn).1, (h.stays hs hn).2.1, hR _ _ (h.stays hs hn).2.2⟩

theorem Looks.still (h : Looks p R) : Still p :=
  h.weaken fun _ _ _ => trivial

theorem Still.keepsFaults (h : Still p) : KeepsFaults p :=
  Looks.keepsFaults h

theorem Refuses.still (h : Refuses p) : Still p where
  keepsFaults := h.keepsFaults
  stays hs hn := absurd hn (h.noted hs)

theorem looks_of_outcome {g : State → α} (h : ∀ s, outcome p s = (.ok (g s), s))
    (hR : ∀ s, R (g s) s.lexeme) : Looks p R where
  keepsFaults s hs := by
    rw [h s] at hs
    exact hs
  stays {s s' a} hs _ := by
    rw [h s] at hs
    obtain ⟨ha, rfl⟩ := Prod.mk.injEq .. ▸ hs
    obtain rfl : g s = a := by simpa using ha
    exact ⟨rfl, rfl, hR s⟩

theorem still_pure (a : α) : Still (pure a : Parse α) :=
  looks_of_outcome (fun _ => rfl) fun _ => trivial

theorem still_note (e : Fault) : Still (note e) :=
  (refuses_note e).still

theorem still_fail (e : Fault) : Still (fail e : Parse α) :=
  (refuses_fail e).still

theorem looks_pure {a : α} (h : ∀ l, R a l) : Looks (pure a : Parse α) R :=
  looks_of_outcome (fun _ => rfl) fun _ => h _

theorem Looks.andThen {R' : β → Lexeme → Prop} (hp : Looks p R)
    (hf : ∀ a, Looks (f a) fun b l => R a l → R' b l) : Looks (p >>= f) R' where
  keepsFaults := hp.keepsFaults.bind fun a => (hf a).keepsFaults
  stays hs hn := by
    obtain ⟨a, s₁, hp', hf'⟩ := exists_of_outcome_bind hs
    have hn₁ : s₁.noted = none := (hf a).keepsFaults s₁ (by rw [hf']; exact hn)
    obtain ⟨hl, ht, hR⟩ := hp.stays hp' hn₁
    obtain ⟨hl', ht', hR'⟩ := (hf a).stays hf' hn
    rw [hl] at hR'
    exact ⟨hl'.trans hl, ht'.trans ht, hR' hR⟩

theorem Still.andThen (hp : Still p) (hf : ∀ a, Still (f a)) : Still (p >>= f) :=
  Looks.andThen hp fun a => (hf a).weaken fun _ _ _ _ => trivial

theorem Still.ite {c : Prop} [Decidable c] {q : Parse α} (hp : Still p) (hq : Still q) :
    Still (if c then p else q) := by
  split
  · exact hp
  · exact hq

theorem still_forIn {ι σ : Type} {body : ι → σ → Parse (ForInStep σ)}
    (h : ∀ i x, Still (body i x)) (is : List ι) (x : σ) : Still (forIn is x body) := by
  induction is generalizing x with
  | nil => exact still_pure x
  | cons i is ih =>
    rw [List.forIn_cons]
    refine (h i x).andThen fun r => ?_
    cases r with
    | done x => exact still_pure x
    | yield x => exact ih x

theorem looks_token : Looks token fun t l => l.token = t :=
  looks_of_outcome (fun _ => rfl) fun _ => rfl

theorem looks_peek : Looks peek fun m l => Lexeme.next l.rest = m :=
  looks_of_outcome (fun _ => rfl) fun _ => rfl

theorem looks_get : Looks get fun s l => s.lexeme = l :=
  looks_of_outcome (fun _ => rfl) fun _ => rfl

theorem still_lineBefore : Still lineBefore :=
  looks_of_outcome (fun _ => rfl) fun _ => trivial

theorem still_context : Still context :=
  looks_of_outcome (fun _ => rfl) fun _ => trivial

theorem still_bound : Still bound :=
  looks_of_outcome (fun _ => rfl) fun _ => trivial

theorem looks_at? (p : Punct) : Looks (at? p) fun b l => b = (l.token == .punct p) :=
  looks_of_outcome (fun _ => rfl) fun _ => rfl

theorem looks_atName? (text : String) :
    Looks (atName? text) fun b l => b = (l.token == .name text) :=
  looks_of_outcome (fun _ => rfl) fun _ => rfl

theorem looks_atWord? (word : String) :
    Looks (atWord? word) fun b l => b = (l.token == .keyword word) :=
  looks_of_outcome (fun _ => rfl) fun _ => rfl

theorem still_modify {g : State → State} (h : ∀ s, (g s).noted = s.noted)
    (hl : ∀ s, (g s).lexeme = s.lexeme) (ht : ∀ s, (g s).trail = s.trail) :
    Still (modify g : Parse Unit) where
  keepsFaults := keepsFaults_modify fun s hs => by rwa [h] at hs
  stays {s s' _} hs _ := by
    obtain rfl : g s = s' := congrArg Prod.snd hs
    exact ⟨hl s, ht s, trivial⟩

theorem still_markPause (e : Fault) : Still (markPause e) :=
  still_modify (fun _ => rfl) (fun _ => rfl) fun _ => rfl

theorem still_refuseBroken : Still refuseBroken := by
  refine looks_token.still.andThen fun t => ?_
  split
  · exact (keepsFaults_advance.refuses fun _ => refuses_throw _).still
  · exact still_pure ()

theorem still_noteAny (fault : Option Fault) : Still (noteAny fault) := by
  cases fault with
  | none => exact still_pure ()
  | some e => exact still_note e

theorem still_noteStrict (e : Fault) : Still (noteStrict e) :=
  still_context.andThen fun _ => (still_note e).ite (still_pure ())

end Still

/-! ## Parses that take one token -/

/-- A parse that takes the current token, which satisfies `R`, and no other. -/
structure Takes {α : Type} (p : Parse α) (R : Lexeme → Prop) : Prop where
  keepsFaults : KeepsFaults p
  takes {s s' : State} {a : α} : outcome p s = (.ok a, s') → s'.noted = none →
    R s.lexeme ∧ s'.lexeme = Lexeme.next s.lexeme.rest ∧ s'.trail = s.lexeme :: s.trail ∧
      (Lexeme.next s.lexeme.rest).note = none

section Takes

variable {α β : Type} {p : Parse α} {f : α → Parse β} {R R' : Lexeme → Prop}
variable {S : α → Lexeme → Prop}

theorem outcome_advanceTo {rest : List Char} {s s' : State} {a : Unit}
    (h : outcome (advanceTo rest) s = (.ok a, s')) (hn : s'.noted = none) :
    s'.lexeme = Lexeme.next rest ∧ s'.trail = s.lexeme :: s.trail ∧
      (Lexeme.next rest).note = none := by
  have hs := congrArg Prod.snd h
  change (if _ then _ else _) = s' at hs
  split at hs
  all_goals subst hs
  · exact ⟨rfl, rfl, (noted_noteAny.mp (noted_noteAny.mp hn).1).2⟩
  · exact ⟨rfl, rfl, (noted_noteAny.mp hn).2⟩

theorem takes_advance : Takes advance fun _ => True where
  keepsFaults := keepsFaults_advance
  takes hs hn := by
    rw [outcome_advance] at hs
    exact ⟨trivial, outcome_advanceTo hs hn⟩

theorem Refuses.takes (h : Refuses p) : Takes p R where
  keepsFaults := h.keepsFaults
  takes hs hn := absurd hn (h.noted hs)

theorem Takes.weaken (h : Takes p R) (hR : ∀ l, R l → R' l) : Takes p R' where
  keepsFaults := h.keepsFaults
  takes hs hn := ⟨hR _ (h.takes hs hn).1, (h.takes hs hn).2⟩

theorem Looks.andTakes (hp : Looks p S) (hf : ∀ a, Takes (f a) fun l => S a l → R l) :
    Takes (p >>= f) R where
  keepsFaults := hp.keepsFaults.bind fun a => (hf a).keepsFaults
  takes hs hn := by
    obtain ⟨a, s₁, hp', hf'⟩ := exists_of_outcome_bind hs
    have hn₁ : s₁.noted = none := (hf a).keepsFaults s₁ (by rw [hf']; exact hn)
    obtain ⟨hl, ht, hS⟩ := hp.stays hp' hn₁
    obtain ⟨hR, hrest⟩ := (hf a).takes hf' hn
    rw [hl] at hR hrest
    rw [ht] at hrest
    exact ⟨hR hS, hrest⟩

theorem Still.andTakes (hp : Still p) (hf : ∀ a, Takes (f a) R) : Takes (p >>= f) R :=
  Looks.andTakes hp fun a => (hf a).weaken fun _ h _ => h

theorem Takes.andStill (hp : Takes p R) (hf : ∀ a, Still (f a)) : Takes (p >>= f) R where
  keepsFaults := hp.keepsFaults.bind fun a => (hf a).keepsFaults
  takes hs hn := by
    obtain ⟨a, s₁, hp', hf'⟩ := exists_of_outcome_bind hs
    have hn₁ : s₁.noted = none := (hf a).keepsFaults s₁ (by rw [hf']; exact hn)
    obtain ⟨hl, ht, -⟩ := (hf a).stays hf' hn
    rw [hl, ht]
    exact hp.takes hp' hn₁

theorem takes_anyWord : Takes anyWord fun l => l.token.IsPlain := by
  refine looks_token.andTakes fun t => ?_
  split
  · refine (takes_advance.andStill fun _ => still_pure _).weaken fun l _ hl st => ?_
    rw [hl]
    rfl
  · refine (takes_advance.andStill fun _ => still_pure _).weaken fun l _ hl st => ?_
    rw [hl]
    rfl
  · exact (refuses_fail _).takes

end Takes

/-! ## Parses that follow the tokens -/

/-- From a token that satisfies `T`, with `st` open, a run of the parse that finds no fault goes
along the tokens to a place where `Q a` is open if it gives `a`. -/
structure Leads {α : Type} (T : Lexeme → Prop) (st : List Opening) (p : Parse α)
    (Q : α → List Opening) : Prop where
  keepsFaults : KeepsFaults p
  path {l : Lexeme} {st₀ : List Opening} {s s' : State} {a : α} :
    outcome p s = (.ok a, s') → s'.noted = none → T s.lexeme →
    Path l st₀ s.trail.reverse st s.lexeme → Path l st₀ s'.trail.reverse (Q a) s'.lexeme

/-- A parse that leaves open what it finds open, wherever it starts. -/
def Balanced {α : Type} (p : Parse α) : Prop :=
  ∀ (T : Lexeme → Prop) (st : List Opening), Leads T st p fun _ => st

section Leads

variable {α β : Type} {T T' : Lexeme → Prop} {st st' : List Opening} {p : Parse α}
variable {f : α → Parse β} {Q : α → List Opening} {Q' : β → List Opening} {R : α → Lexeme → Prop}

theorem Leads.weaken (h : Leads T st p Q) (hT : ∀ l, T' l → T l) : Leads T' st p Q where
  keepsFaults := h.keepsFaults
  path hs hn ht := h.path hs hn (hT _ ht)

theorem Leads.anywhere (h : Leads (fun _ => True) st p Q) : Leads T st p Q :=
  h.weaken fun _ _ => trivial

theorem Balanced.keepsFaults (h : Balanced p) : KeepsFaults p :=
  (h (fun _ => True) []).keepsFaults

theorem leads_pure {a : α} (h : Q a = st) : Leads T st (pure a) Q where
  keepsFaults := keepsFaults_pure a
  path {l st₀ s s' b} hs _ _ path := by
    obtain ⟨ha, rfl⟩ := Prod.mk.injEq .. ▸ hs
    obtain rfl : a = b := Except.ok.inj ha
    rw [h]
    exact path

theorem Still.leads (h : Still p) : Leads T st p fun _ => st where
  keepsFaults := h.keepsFaults
  path hs hn _ path := by
    obtain ⟨hl, ht, -⟩ := h.stays hs hn
    rw [hl, ht]
    exact path

theorem Refuses.leads (h : Refuses p) : Leads T st p Q where
  keepsFaults := h.keepsFaults
  path hs hn := absurd hn (h.noted hs)

theorem Refuses.balanced (h : Refuses p) : Balanced p :=
  fun _ _ => h.leads

theorem Still.balanced (h : Still p) : Balanced p :=
  fun _ _ => h.leads

theorem Leads.bind (hp : Leads T st p Q) (hf : ∀ a, Leads (fun _ => True) (Q a) (f a) Q') :
    Leads T st (p >>= f) Q' where
  keepsFaults := hp.keepsFaults.bind fun a => (hf a).keepsFaults
  path hs hn ht path := by
    obtain ⟨a, s₁, hp', hf'⟩ := exists_of_outcome_bind hs
    have hn₁ : s₁.noted = none := (hf a).keepsFaults s₁ (by rw [hf']; exact hn)
    exact (hf a).path hf' hn trivial (hp.path hp' hn₁ ht path)

theorem Balanced.bind (hp : Balanced p) (hf : ∀ a, Leads (fun _ => True) st (f a) Q') :
    Leads T st (p >>= f) Q' :=
  (hp T st).bind hf

theorem Balanced.andThen (hp : Balanced p) (hf : ∀ a, Balanced (f a)) : Balanced (p >>= f) :=
  fun _ st => hp.bind fun a => hf a _ st

theorem balanced_pure (a : α) : Balanced (pure a) :=
  (still_pure a).balanced

theorem Balanced.ite {c : Prop} [Decidable c] {q : Parse α} (hp : Balanced p) (hq : Balanced q) :
    Balanced (if c then p else q) := by
  split
  · exact hp
  · exact hq

theorem Balanced.guard {c : Prop} [Decidable c] {p : Parse Unit} {k : Unit → Parse β}
    (hp : Balanced p) (hk : Balanced (k ())) : Balanced (if c then p >>= k else k ()) :=
  (hp.andThen fun _ => hk).ite hk

theorem Looks.bind (hp : Looks p R) (hf : ∀ a, Leads (fun l => T l ∧ R a l) st (f a) Q') :
    Leads T st (p >>= f) Q' where
  keepsFaults := hp.keepsFaults.bind fun a => (hf a).keepsFaults
  path {l st₀ s s' b} hs hn ht path := by
    obtain ⟨a, s₁, hp', hf'⟩ := exists_of_outcome_bind hs
    have hn₁ : s₁.noted = none := (hf a).keepsFaults s₁ (by rw [hf']; exact hn)
    obtain ⟨hl, htr, hR⟩ := hp.stays hp' hn₁
    refine (hf a).path hf' hn ?_ ?_
    · rw [hl]
      exact ⟨ht, hR⟩
    · rw [hl, htr]
      exact path

theorem Still.bind (hp : Still p) (hf : ∀ a, Leads T st (f a) Q') : Leads T st (p >>= f) Q' :=
  Looks.bind hp fun a => (hf a).weaken fun _ h => h.1

theorem Leads.ite {c : Prop} [Decidable c] {q : Parse α} (hp : Leads T st p Q)
    (hq : Leads T st q Q) : Leads T st (if c then p else q) Q := by
  split
  · exact hp
  · exact hq

/-- A parse that stays may or may not run first. -/
theorem Still.guard {c : Prop} [Decidable c] {p : Parse Unit} {k : Unit → Parse β} (hp : Still p)
    (hk : Leads T st (k ()) Q') : Leads T st (if c then p >>= k else k ()) Q' :=
  (hp.bind fun _ => hk).ite hk

theorem token_bind {f : Token → Parse β} (h : ∀ t, Leads (fun l => T l ∧ l.token = t) st (f t) Q') :
    Leads T st (token >>= f) Q' :=
  looks_token.bind h

theorem advanceTo_bind {rest : List Char} {f : Unit → Parse β} (behind : List Opening)
    (hT : ∀ l, T l → l.after? st = some behind ∧ l.Follows (Lexeme.next rest))
    (hf : Leads (fun m => m = Lexeme.next rest) behind (f ()) Q') :
    Leads T st (advanceTo rest >>= f) Q' where
  keepsFaults := (keepsFaults_advanceTo rest).bind fun _ => hf.keepsFaults
  path {l st₀ s s' b} hs hn ht path := by
    obtain ⟨_, s₁, hp', hf'⟩ := exists_of_outcome_bind hs
    have hn₁ : s₁.noted = none := hf.keepsFaults s₁ (by rw [hf']; exact hn)
    obtain ⟨hl, htrail, hnote⟩ := outcome_advanceTo hp' hn₁
    refine hf.path hf' hn hl ?_
    rw [hl, htrail, List.reverse_cons]
    exact path.concat (hT _ ht).1 (hT _ ht).2 hnote

theorem Takes.bind {R : Lexeme → Prop} (hp : Takes p R)
    (hT : ∀ l, T l → R l → l.token.after? st = some st')
    (hf : ∀ a, Leads (fun m => ∃ l, T l ∧ m = Lexeme.next l.rest) st' (f a) Q') :
    Leads T st (p >>= f) Q' where
  keepsFaults := hp.keepsFaults.bind fun a => (hf a).keepsFaults
  path {l st₀ s s' b} hs hn ht path := by
    obtain ⟨a, s₁, hp', hf'⟩ := exists_of_outcome_bind hs
    have hn₁ : s₁.noted = none := (hf a).keepsFaults s₁ (by rw [hf']; exact hn)
    obtain ⟨hR, hl, htrail, hnote⟩ := hp.takes hp' hn₁
    refine (hf a).path hf' hn ⟨s.lexeme, ht, hl⟩ ?_
    rw [hl, htrail, List.reverse_cons]
    exact path.concat (after?_of_token rfl (hT _ ht hR)) .rest hnote

theorem Takes.balanced {R : Lexeme → Prop} (hp : Takes p R)
    (hR : ∀ l, R l → l.token.IsPlain) : Balanced p := by
  intro T st
  rw [← bind_pure p]
  exact hp.bind (fun l _ hl => hR l hl st) fun _ => leads_pure rfl

theorem advance_bind {f : Unit → Parse β} (behind : List Opening)
    (hT : ∀ l, T l → l.token.after? st = some behind)
    (hf : Leads (fun m => ∃ l, T l ∧ m = Lexeme.next l.rest) behind (f ()) Q') :
    Leads T st (advance >>= f) Q' :=
  takes_advance.bind (fun l hl _ => hT l hl) fun _ => hf

/-- Takes a token that is known. -/
theorem take_bind {t : Token} {f : Unit → Parse β} (ht : t.after? st = some st')
    (hf : Leads (fun _ => True) st' (f ()) Q') :
    Leads (fun l => T l ∧ l.token = t) st (advance >>= f) Q' :=
  advance_bind st' (fun l hl => by rw [hl.2]; exact ht) hf.anywhere

/-- Takes a token that is known, and the token behind it. -/
theorem takeBoth_bind {t u : Token} {next : Lexeme} {st'' : List Opening} {k : Parse β}
    (ht : t.after? st = some st') (hnext : next.token = u) (hu : u.after? st' = some st'')
    (hk : Leads (fun _ => True) st'' k Q') :
    Leads (fun l => (T l ∧ l.token = t) ∧ Lexeme.next l.rest = next) st
      (advance >>= fun _ => advance >>= fun _ => k) Q' := by
  refine advance_bind st' (fun l hl => by rw [hl.1.2]; exact ht) ?_
  refine advance_bind st'' ?_ hk.anywhere
  rintro _ ⟨l, hl, rfl⟩
  rw [hl.2, hnext]
  exact hu

theorem leads_advance (hT : ∀ l, T l → l.token.after? st = some st') :
    Leads T st advance fun _ => st' := by
  rw [← bind_pure advance]
  exact advance_bind _ hT (leads_pure rfl)

theorem eatToken_bind {t : Token} {f : Bool → Parse β} (ht : t.after? st = some st')
    (taken : Leads (fun _ => True) st' (f true) Q') (left : Leads T st (f false) Q') :
    Leads T st (eatToken t >>= f) Q' := by
  unfold eatToken
  rw [bind_assoc]
  refine token_bind fun u => ?_
  by_cases h : u = t
  · subst h
    simp only [beq_self_eq_true, if_true]
    rw [bind_assoc]
    refine take_bind ht ?_
    rw [pure_bind]
    exact taken
  · simp only [beq_iff_eq, h, if_false]
    rw [pure_bind]
    exact left.weaken fun _ hl => hl.1

theorem eatToken_ite {t : Token} {p q : Parse β} (ht : t.after? st = some st')
    (taken : Leads (fun _ => True) st' p Q') (left : Leads T st q Q') :
    Leads T st (eatToken t >>= fun b => if b = true then p else q) Q' :=
  eatToken_bind ht taken left

theorem eat_ite {p : Punct} {q r : Parse β} (hp : (Token.punct p).after? st = some st')
    (taken : Leads (fun _ => True) st' q Q') (left : Leads T st r Q') :
    Leads T st (eat p >>= fun b => if b = true then q else r) Q' :=
  eatToken_bind hp taken left

theorem at?_ite {p : Punct} {q r : Parse β}
    (there : Leads (fun l => T l ∧ l.token = .punct p) st q Q') (absent : Leads T st r Q') :
    Leads T st (at? p >>= fun b => if b = true then q else r) Q' := by
  refine (looks_at? p).bind fun b => ?_
  split
  · rename_i hb
    exact there.weaken fun l hl => ⟨hl.1, eq_of_beq (hl.2.symm.trans hb)⟩
  · exact absent.weaken fun l hl => hl.1

theorem leads_expect {p : Punct} (hp : (Token.punct p).after? st = some st') :
    Leads T st (expect p) fun _ => st' :=
  eat_ite hp (leads_pure rfl) (token_bind fun _ => (refuses_fail _).leads)

theorem balanced_eatToken {t : Token} (ht : t.IsPlain) : Balanced (eatToken t) := by
  intro T st
  rw [← bind_pure (eatToken t)]
  exact eatToken_bind (ht st) (leads_pure rfl) (leads_pure rfl)

theorem balanced_eat {p : Punct} (hp : (Token.punct p).IsPlain) :
    Balanced (eat p) :=
  balanced_eatToken hp

theorem balanced_expectWord (word : String) : Balanced (expectWord word) := fun _ _ =>
  eatToken_ite rfl (leads_pure rfl) (token_bind fun _ => (refuses_fail _).leads)

theorem balanced_anyWord : Balanced anyWord :=
  takes_anyWord.balanced fun _ h => h

theorem still_atStatementEnd : Still atStatementEnd := by
  refine looks_token.still.andThen fun t => ?_
  split
  · exact still_pure true
  · exact still_pure true
  · exact still_pure true
  · exact still_lineBefore

theorem balanced_eatStatementEnd : Balanced eatStatementEnd := fun _ _ =>
  eat_ite rfl (leads_pure rfl) still_atStatementEnd.leads

theorem balanced_expectStatementEnd : Balanced expectStatementEnd := by
  intro T st
  refine balanced_eatStatementEnd.bind fun b => ?_
  split
  · exact leads_pure rfl
  · exact token_bind fun _ => (refuses_fail _).leads

theorem Leads.within (h : Leads T st p Q) (change : Context → Context) :
    Leads T st (within change p) Q where
  keepsFaults := h.keepsFaults.within change
  path {l st₀ s s' a} hs hn ht path := by
    rw [outcome_within] at hs
    rcases hp : outcome p { s with context := change s.context } with ⟨r, s₁⟩
    rw [hp] at hs
    cases hs
    have reached := h.path hp hn ht path
    exact reached

theorem Leads.withIn (h : Leads T st p Q) (allow : Bool) : Leads T st (withIn allow p) Q :=
  h.within _

theorem Leads.apart (h : Leads T st p Q) : Leads T st (apart p) Q where
  keepsFaults := h.keepsFaults.apart
  path {l st₀ s s' a} hs hn ht path := by
    rw [outcome_apart] at hs
    rcases hp : outcome p { s with labels := [], pause := none } with ⟨r, s₁⟩
    rw [hp] at hs
    cases hs
    have reached := h.path hp hn ht path
    exact reached

theorem Balanced.within (h : Balanced p) (change : Context → Context) :
    Balanced (within change p) :=
  fun T st => (h T st).within change

theorem Balanced.withIn (h : Balanced p) (allow : Bool) : Balanced (withIn allow p) :=
  h.within _

theorem Balanced.apart (h : Balanced p) : Balanced (apart p) :=
  fun T st => (h T st).apart

theorem Leads.iterate {σ : Type} {step : σ → Parse (Sum σ α)}
    (h : ∀ x, Leads (fun _ => True) st (step x) (Sum.elim (fun _ => st) Q)) (n : Nat) (x : σ) :
    Leads T st (iterate n step x) Q := by
  induction n generalizing x T with
  | zero => exact (refuses_throw _).leads
  | succ n ih =>
    refine (h x).anywhere.bind fun r => ?_
    cases r with
    | inl x => exact ih x
    | inr a => exact leads_pure rfl

/-- A loop whose steps leave open what they find open. -/
theorem Balanced.iterate {σ : Type} {step : σ → Parse (Sum σ α)} (h : ∀ x, Balanced (step x))
    (n : Nat) (x : σ) : Balanced (iterate n step x) := by
  intro T st
  refine Leads.iterate (fun x => ?_) n x
  have hsame : (Sum.elim (fun _ => st) fun _ => st : Sum σ α → List Opening) = fun _ => st := by
    funext r
    cases r <;> rfl
  rw [hsame]
  exact h x _ st

theorem Leads.recover {handle : Fault → Parse α} (hp : Leads T st p Q)
    (hh : ∀ e, Refuses (handle e)) : Leads T st (recover p handle) Q where
  keepsFaults := hp.keepsFaults.recover fun e => (hh e).keepsFaults
  path {l st₀ s s' a} hs hn ht path := by
    rw [outcome_recover] at hs
    rcases h : outcome p s with ⟨e | b, s₁⟩
    all_goals
      rw [h] at hs
      dsimp only at hs
    · split at hs
      · simp at hs
      -- The handler has noted a fault, so this run is refused.
      · exact absurd hn ((hh e).noted hs)
    · cases hs
      exact hp.path h hn ht path

end Leads

end Stencil.Ecma
