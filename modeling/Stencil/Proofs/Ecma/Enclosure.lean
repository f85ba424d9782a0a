import Stencil.Proofs.Ecma.Boundary
import Stencil.Proofs.Ecma.Statements
import Stencil.Validation.Check

/-!
# Text between fixed text

The checker puts the code it is given between fixed text and parses the whole.  The tokens of an
accepted script close what they open (`path_tokens`), and the fixed text is read as the same tokens
whatever stands in it (`Enclosure.exists_tokens`), because behind the code comes a line feed that
no token can pass.  What the checker does not see is whether a closing bracket of the code closes
one of the fixed text.  `accepted_text_closes_own_brackets_iff` says that this is the only way out:
accepted code closes only what it opens, unless it closes what stands around it and opens the same
again (`reopening_text_passes`).
-/

namespace Stencil.Ecma

/-! ## The tokens of a script -/

/-- The tokens of a script, as its parse takes them. -/
def tokens (script : List Char) : List Lexeme :=
  (outcome (Ecma.script (depthBound script)) (State.start script)).2.trail.reverse

theorem exists_of_outcome_iterate {σ α : Type} {step : σ → Parse (Sum σ α)} {n : Nat} {x : σ}
    {s s' : State} {a : α} (h : outcome (iterate n step x) s = (.ok a, s')) :
    ∃ y s₁, outcome (step y) s₁ = (.ok (.inr a), s') := by
  induction n generalizing x s with
  | zero => cases h
  | succ n ih =>
    obtain ⟨r, s₁, hstep, hrest⟩ := exists_of_outcome_bind h
    cases r with
    | inl y => exact ih hrest
    | inr b =>
      cases hrest
      exact ⟨x, s, hstep⟩

theorem token_of_outcome_script {depth : Nat} {s s' : State}
    (h : outcome (script depth) s = (.ok (), s')) : s'.lexeme.token = .endOfInput := by
  obtain ⟨t, s₁, -, hwithin⟩ := exists_of_outcome_bind h
  rw [outcome_within] at hwithin
  rcases hp : outcome _ _ with ⟨r, s₂⟩
  rw [hp] at hwithin
  cases hwithin
  obtain ⟨n, s₃, -, hiterate⟩ := exists_of_outcome_bind hp
  obtain ⟨_, s₄, hstep⟩ := exists_of_outcome_iterate hiterate
  obtain ⟨t, s₅, htoken, hrest⟩ := exists_of_outcome_bind hstep
  cases htoken
  split at hrest
  · rename_i hend
    cases hrest
    exact eq_of_beq hend
  · obtain ⟨_, _, _, hinl⟩ := exists_of_outcome_bind hrest
    cases hinl

/-- The tokens of a script that is not refused lead from its first token to its end, and close all
that they open. -/
theorem path_tokens {text : List Char} (h : fault? text = none) :
    ∃ n : Lexeme, n.token = .endOfInput ∧ Path (Lexeme.next text) [] (tokens text) [] n := by
  rcases hp : outcome (script (depthBound text)) (State.start text) with ⟨r, s⟩
  have hrun : (script (depthBound text)).run (State.start text) = (r, s) := hp
  unfold fault? at h
  rw [hrun] at h
  cases r with
  | error e => cases h
  | ok u =>
    refine ⟨s.lexeme, token_of_outcome_script hp, ?_⟩
    unfold tokens
    rw [hp]
    exact (balanced_script _ (fun _ => True) []).path hp h trivial .nil

/-! ## Fixed text -/

/-- The text starts with a token, and a parse that takes it goes on with `rest`. -/
structure Reads (start : List Char) (t : Token) (rest : List Char) : Prop where
  token_eq : (readToken start).token = t
  rest_eq : (readToken start).rest = rest
  length_lt : rest.length < start.length
  inside : t ≠ .endOfInput
  slash : t ≠ .punct .slash
  assign : t ≠ .punct .slashAssign
  brace : t = .punct .closeBrace → templatePart (rest.length + 1) none rest = none

/-- What is open behind some tokens, whatever text stands between them. -/
def openedBy? (st : List Opening) (fixed : List Token) : Option (List Opening) :=
  fixed.foldlM (fun st t => t.after? st) st

/-- The text starts with fixed tokens, up to the text `behind`. -/
inductive Spells : List Char → List Token → List Char → Prop where
  | last {start rest : List Char} {t : Token} (reads : Reads start t rest) : Spells start [t] rest
  | cons {start rest next behind : List Char} {t : Token} {fixed : List Token}
      (reads : Reads start t rest) (hnext : (Lexeme.next rest).start = next)
      (spells : Spells next fixed behind) : Spells start (t :: fixed) behind

section Spells

variable {m n : Lexeme} {t : Token} {st st' : List Opening} {ts : List Lexeme}
  {fixed fixed' : List Token} {cs start rest behind behind' : List Char}

theorem Reads.after?_eq (reads : Reads (Lexeme.next cs).start t rest) (st : List Opening) :
    (Lexeme.next cs).after? st = t.after? st := by
  have htoken : (Lexeme.next cs).token = t := reads.token_eq
  have hrest : (Lexeme.next cs).rest = rest := reads.rest_eq
  unfold Lexeme.after?
  rw [htoken]
  split
  · rw [hrest, reads.brace rfl]
    rfl
  · rfl

theorem Reads.eq_next_of_follows (reads : Reads (Lexeme.next cs).start t rest)
    (hfollows : (Lexeme.next cs).Follows m) : m = Lexeme.next rest := by
  have htoken : (Lexeme.next cs).token = t := reads.token_eq
  have hrest : (Lexeme.next cs).rest = rest := reads.rest_eq
  cases hfollows with
  | rest => rw [hrest]
  | regex hslash =>
    rw [htoken] at hslash
    rcases hslash with h | h
    · exact absurd h reads.slash
    · exact absurd h reads.assign
  | template hbrace hpart =>
    rw [hrest, reads.brace (htoken.symm.trans hbrace)] at hpart
    cases hpart

/-- A path at a fixed token takes it. -/
theorem Reads.uncons_path (reads : Reads (Lexeme.next cs).start t rest)
    (path : Path (Lexeme.next cs) st ts st' n) (hn : n.token = .endOfInput) :
    ∃ st₁ us, ts = Lexeme.next cs :: us ∧ t.after? st = some st₁ ∧
      (Lexeme.next rest).note = none ∧ Path (Lexeme.next rest) st₁ us st' n := by
  cases path with
  | nil => exact absurd (reads.token_eq.symm.trans hn) reads.inside
  | cons hafter hfollows hnote path =>
    obtain rfl := reads.eq_next_of_follows hfollows
    exact ⟨_, _, rfl, (reads.after?_eq _).symm.trans hafter, hnote, path⟩

theorem Path.eq_nil_of_endOfInput {l : Lexeme} (path : Path l st ts st' n)
    (hl : l.token = .endOfInput) : ts = [] ∧ st' = st := by
  cases path with
  | nil => exact ⟨rfl, rfl⟩
  | cons hafter =>
    unfold Lexeme.after? at hafter
    rw [hl] at hafter
    cases hafter

theorem Spells.append (first : Spells start fixed behind)
    (second : Spells (Lexeme.next behind).start fixed' behind') :
    Spells start (fixed ++ fixed') behind' := by
  induction first with
  | last reads => exact .cons reads rfl second
  | cons reads hnext _ ih => exact .cons reads hnext (ih second)

theorem length_start_next_le (cs : List Char) : (Lexeme.next cs).start.length ≤ cs.length :=
  (isSuffix_skipTrivia ..).length_le

theorem Spells.length_lt (spells : Spells start fixed behind) : behind.length < start.length := by
  induction spells with
  | last reads => exact reads.length_lt
  | cons reads hnext _ ih =>
    rw [← hnext] at ih
    exact Nat.lt_trans (Nat.lt_of_lt_of_le ih (length_start_next_le _)) reads.length_lt

/-- A path over fixed tokens takes them one by one. -/
theorem Spells.split_path (spells : Spells (Lexeme.next cs).start fixed behind)
    (path : Path (Lexeme.next cs) st ts st' n) (hn : n.token = .endOfInput) :
    ∃ head us st₁, ts = head ++ us ∧ head.map (·.token) = fixed ∧
      openedBy? st fixed = some st₁ ∧ Path (Lexeme.next behind) st₁ us st' n ∧
      (Lexeme.next behind).note = none ∧
      ∀ l ∈ head, behind.length < l.start.length ∧
        l.start.length ≤ (Lexeme.next cs).start.length := by
  generalize hstart : (Lexeme.next cs).start = start at spells
  induction spells generalizing cs st ts with
  | last reads =>
    subst hstart
    obtain ⟨st₁, us, rfl, hafter, hnote, path⟩ := reads.uncons_path path hn
    refine ⟨[_], us, st₁, rfl, congrArg ([·]) reads.token_eq, ?_, path, hnote, ?_⟩
    · rw [openedBy?, List.foldlM_cons, hafter]
      rfl
    · intro l hl
      obtain rfl := List.mem_singleton.mp hl
      exact ⟨reads.length_lt, Nat.le_refl _⟩
  | cons reads hnext spells ih =>
    subst hstart
    have hlength := (Spells.cons reads hnext spells).length_lt
    obtain ⟨st₁, us, rfl, hafter, -, path⟩ := reads.uncons_path path hn
    obtain ⟨head, us, st₂, rfl, hhead, hopened, path, hnote, hmem⟩ := ih path hnext
    refine ⟨_ :: head, us, st₂, rfl, ?_, ?_, path, hnote, ?_⟩
    · rw [List.map_cons, hhead]
      exact congrArg (· :: _) reads.token_eq
    · rw [openedBy?, List.foldlM_cons, hafter]
      exact hopened
    · intro l hl
      rcases List.mem_cons.mp hl with rfl | hl
      · exact ⟨hlength, Nat.le_refl _⟩
      · obtain ⟨hbehind, hle⟩ := hmem l hl
        have hrest := Nat.le_trans hle (hnext ▸ length_start_next_le _)
        exact ⟨hbehind, Nat.le_of_lt (Nat.lt_of_le_of_lt hrest reads.length_lt)⟩

end Spells

/-! ## A text in its place -/

/-- A text around another one: fixed tokens stand before it, and behind it other fixed tokens on a
line of their own. -/
structure Enclosure where
  before : List Char
  /-- The text behind the line feed that ends the enclosed text. -/
  behind : List Char
  opening : List Token
  closing : List Token
  /-- What stands around the enclosed text, from the inside. -/
  innermost : Opening
  outer : List Opening
  /-- The punctuator that closes what stands around. -/
  closer : Punct
  /-- Blanks between the last token before and the enclosed text. -/
  gap : List Char
  gap_isBlank (cs : List Char) : (Lexeme.next (gap ++ cs)).start <:+ cs
  spells_opening (cs : List Char) :
    Spells (Lexeme.next (before ++ cs)).start opening (gap ++ cs)
  inert_behind : Inert behind
  spells_closing : Spells behind closing []
  opened_opening : openedBy? [] opening = some (innermost :: outer)
  opened_closing (st : List Opening) (h : openedBy? st closing = some []) : st = innermost :: outer
  closing?_closer : closer.closing? = some innermost

namespace Enclosure

variable (e : Enclosure) (part : List Char)

/-- The whole text. -/
def text : List Char :=
  e.before ++ part ++ '\n' :: e.behind

/-- Whether a token of the whole text starts in the enclosed text: it starts before the line feed,
and not before the enclosed text does. -/
def startsIn (l : Lexeme) : Bool :=
  e.behind.length + 1 < l.start.length && l.start.length ≤ part.length + (e.behind.length + 1)

/-- The tokens of the enclosed text. -/
def own : List Lexeme :=
  (tokens (e.text part)).filter (e.startsIn part)

/-- A token of the enclosed text, behind tokens that close all that they open, closes what stands
around. -/
def EndedAt (before : List Lexeme) (t : Lexeme) (after : List Lexeme) : Prop :=
  e.own part = before ++ t :: after ∧ opened? [] before = some [] ∧ t.token = .punct e.closer

variable {e part}

theorem filter_startsIn {head own tail : List Lexeme}
    (hhead : ∀ t ∈ head, part.length + (e.behind.length + 1) < t.start.length)
    (hown : ∀ t ∈ own, e.behind.length + 1 < t.start.length ∧
      t.start.length ≤ part.length + (e.behind.length + 1))
    (htail : ∀ t ∈ tail, t.start.length ≤ e.behind.length) :
    (head ++ own ++ tail).filter (e.startsIn part) = own := by
  have hnone : head.filter (e.startsIn part) = [] := by
    refine List.filter_eq_nil_iff.mpr fun t ht => ?_
    have hlength := hhead t ht
    simp only [startsIn, Bool.and_eq_true, decide_eq_true_eq]
    omega
  have hall : own.filter (e.startsIn part) = own := by
    refine List.filter_eq_self.mpr fun t ht => ?_
    simp only [startsIn, Bool.and_eq_true, decide_eq_true_eq]
    exact hown t ht
  have hlast : tail.filter (e.startsIn part) = [] := by
    refine List.filter_eq_nil_iff.mpr fun t ht => ?_
    have hlength := htail t ht
    simp only [startsIn, Bool.and_eq_true, decide_eq_true_eq]
    omega
  rw [List.filter_append, List.filter_append, hnone, hall, hlast, List.nil_append, List.append_nil]

/-- The tokens of the whole text are the fixed ones and between them those of the enclosed text,
which keep the level of their place. -/
theorem exists_tokens (h : fault? (e.text part) = none) :
    ∃ head tail, tokens (e.text part) = head ++ e.own part ++ tail ∧
      head.map (·.token) = e.opening ∧ tail.map (·.token) = e.closing ∧
      opened? (e.innermost :: e.outer) (e.own part) = some (e.innermost :: e.outer) := by
  obtain ⟨n, hn, path⟩ := path_tokens h
  -- The path goes over the fixed tokens before, those of the enclosed text and the fixed ones
  -- behind.
  have htext : e.text part = e.before ++ (part ++ '\n' :: e.behind) := List.append_assoc ..
  have hspells := e.spells_opening (part ++ '\n' :: e.behind)
  rw [← htext] at hspells
  obtain ⟨head, rest, st, hts, hhead, hst, path, hnote, hbefore⟩ := hspells.split_path path hn
  rw [e.opened_opening, Option.some.injEq] at hst
  subst hst
  have hstart : '\n' :: e.behind <:+ e.gap ++ (part ++ '\n' :: e.behind) :=
    ⟨e.gap ++ part, List.append_assoc ..⟩
  obtain ⟨own, closing, m, st, rfl, hown, path, ⟨cs, rfl⟩, hm, hinside⟩ :=
    e.inert_behind.split_path path hn ⟨_, rfl⟩ hnote (e.inert_behind.next_cases hstart hnote)
  have hclosing : Spells (Lexeme.next cs).start e.closing [] := hm ▸ e.spells_closing
  obtain ⟨tail, rest, st', rfl, htail, hst', path, -, hbehind⟩ := hclosing.split_path path hn
  obtain ⟨rfl, rfl⟩ := path.eq_nil_of_endOfInput rfl
  obtain rfl := e.opened_closing st hst'
  have htokens : tokens (e.text part) = head ++ own ++ tail := by
    rw [hts, List.append_nil, List.append_assoc]
  have hownTokens : e.own part = own := by
    unfold Enclosure.own
    rw [htokens]
    refine filter_startsIn (fun t ht => ?_) (fun t ht => ?_) fun t ht => ?_
    · have hlength := (hbefore t ht).1
      simp only [List.length_append, List.length_cons] at hlength
      omega
    · obtain ⟨hlength, hsuffix⟩ := hinside t ht
      have hle := (hsuffix.trans (e.gap_isBlank _)).length_le
      simp only [List.length_append, List.length_cons] at hle
      omega
    · exact hm ▸ (hbehind t ht).2
  rw [hownTokens]
  exact ⟨head, tail, htokens, hhead, htail, hown.opened?_eq⟩

/-- How an enclosed text fits in its place.  It closes only what it opens exactly if none of its
tokens ends what stands around, and behind a token that does so the text opens the same again. -/
structure Fits (e : Enclosure) (part : List Char) : Prop where
  tokens_eq : (tokens (e.text part)).map (·.token) =
    e.opening ++ (e.own part).map (·.token) ++ e.closing
  level : opened? (e.innermost :: e.outer) (e.own part) = some (e.innermost :: e.outer)
  closed_iff : opened? [] (e.own part) = some [] ↔ ¬ ∃ before t after, e.EndedAt part before t after
  reopens {before : List Lexeme} {t : Lexeme} {after : List Lexeme}
    (h : e.EndedAt part before t after) : opened? e.outer after = some (e.innermost :: e.outer)

theorem fits (h : fault? (e.text part) = none) : e.Fits part := by
  obtain ⟨head, tail, htokens, hhead, htail, hlevel⟩ := exists_tokens h
  refine ⟨?_, hlevel, opened?_nil_iff e.closing?_closer hlevel, ?_⟩
  · rw [htokens, List.map_append, List.map_append, hhead, htail]
  · rintro before t after ⟨hown, hbefore, ht⟩
    rw [hown] at hlevel
    exact opened?_behind e.closing?_closer hlevel hbefore ht

end Enclosure

/-! ## Functions -/

section Functions

theorem reads_of_plain {start rest : List Char} {t : Token}
    (ht : t ∉ [.endOfInput, .punct .slash, .punct .slashAssign, .punct .closeBrace])
    (htoken : (readToken start).token = t) (hrest : (readToken start).rest = rest)
    (hlength : rest.length < start.length) : Reads start t rest := by
  simp only [List.mem_cons, List.not_mem_nil, or_false, not_or] at ht
  obtain ⟨hinside, hslash, hassign, hbrace⟩ := ht
  exact ⟨htoken, hrest, hlength, hinside, hslash, hassign, fun h => absurd h hbrace⟩

section

variable (cs : List Char)

set_option maxRecDepth 10000 in
theorem spells_function :
    Spells ("(function anonymous(".toList ++ cs)
      [.punct .openParen, .keyword "function", .name "anonymous", .punct .openParen] cs := by
  have hopen : Reads ("(function anonymous(".toList ++ cs) (.punct .openParen)
      ("function anonymous(".toList ++ cs) := reads_of_plain (by simp) rfl rfl (by simp)
  have hkeyword : Reads ("function anonymous(".toList ++ cs) (.keyword "function")
      (" anonymous(".toList ++ cs) := reads_of_plain (by simp) rfl rfl (by simp)
  have hname : Reads ("anonymous(".toList ++ cs) (.name "anonymous") ("(".toList ++ cs) :=
    reads_of_plain (by simp) rfl rfl (by simp)
  have hparen : Reads ("(".toList ++ cs) (.punct .openParen) cs :=
    reads_of_plain (by simp) rfl rfl (by simp)
  exact .cons hopen rfl (.cons hkeyword rfl (.cons hname rfl (.last hparen)))

theorem spells_bodyStart :
    Spells (") \x7b\n".toList ++ cs) [.punct .closeParen, .punct .openBrace]
      ("\n".toList ++ cs) := by
  have hclose : Reads (") \x7b\n".toList ++ cs) (.punct .closeParen) (" \x7b\n".toList ++ cs) :=
    reads_of_plain (by simp) rfl rfl (by simp)
  have hopen : Reads ("\x7b\n".toList ++ cs) (.punct .openBrace) ("\n".toList ++ cs) :=
    reads_of_plain (by simp) rfl rfl (by simp)
  exact .cons hclose rfl (.last hopen)

theorem start_function : (Lexeme.next ("(function anonymous(".toList ++ cs)).start =
    "(function anonymous(".toList ++ cs :=
  rfl

theorem start_bodyStart : (Lexeme.next ("\n) \x7b\n".toList ++ cs)).start =
    ") \x7b\n".toList ++ cs :=
  rfl

theorem spells_beforeBody :
    Spells (Lexeme.next ("(function anonymous(".toList ++ "\n) \x7b\n".toList ++ cs)).start
      ([.punct .openParen, .keyword "function", .name "anonymous", .punct .openParen] ++
        [.punct .closeParen, .punct .openBrace]) ("\n".toList ++ cs) := by
  rw [List.append_assoc, start_function]
  refine (spells_function _).append ?_
  rw [start_bodyStart]
  exact spells_bodyStart cs

end

theorem spells_behindBody : Spells "\x7d)".toList [.punct .closeBrace, .punct .closeParen] [] := by
  have hbrace : Reads "\x7d)".toList (.punct .closeBrace) ")".toList :=
    ⟨rfl, rfl, by decide, by simp, by simp, by simp, fun _ => rfl⟩
  have hparen : Reads ")".toList (.punct .closeParen) [] :=
    reads_of_plain (by simp) rfl rfl (by decide)
  exact .cons hbrace rfl (.last hparen)

theorem spells_behindParameters :
    Spells ") \x7b\n\n\x7d)".toList
      ([.punct .closeParen, .punct .openBrace] ++ [.punct .closeBrace, .punct .closeParen]) [] :=
  (spells_bodyStart "\n\x7d)".toList).append spells_behindBody

/-- What a closing punctuator closes was open before it. -/
theorem openedBy?_cons_of_closing? {p : Punct} {o : Opening} {st st' : List Opening}
    {fixed : List Token} (hp : p.closing? = some o)
    (h : openedBy? st (.punct p :: fixed) = some st') :
    ∃ outer, st = o :: outer ∧ openedBy? outer fixed = some st' := by
  rw [openedBy?, List.foldlM_cons] at h
  obtain ⟨outer, hafter, hfixed⟩ := Option.bind_eq_some_iff.mp h
  refine ⟨outer, ?_, hfixed⟩
  cases st with
  | nil => cases p <;> cases hp <;> cases hafter
  | cons innermost st => cases p <;> cases hp <;> cases innermost <;> cases hafter <;> rfl

/-- The text around the body of a function. -/
def bodyEnclosure : Enclosure where
  before := "(function anonymous(".toList ++ "\n) \x7b\n".toList
  behind := "\x7d)".toList
  opening := [.punct .openParen, .keyword "function", .name "anonymous", .punct .openParen,
    .punct .closeParen, .punct .openBrace]
  closing := [.punct .closeBrace, .punct .closeParen]
  innermost := .brace
  outer := [.paren]
  closer := .closeBrace
  gap := "\n".toList
  gap_isBlank cs := isSuffix_skipTrivia cs.length true cs
  spells_opening cs := spells_beforeBody cs
  inert_behind := ⟨by simp, fun n line => by cases n <;> rfl⟩
  spells_closing := spells_behindBody
  opened_opening := rfl
  opened_closing st h := by
    obtain ⟨outer, rfl, hparen⟩ := openedBy?_cons_of_closing? rfl h
    obtain ⟨outermost, rfl, hend⟩ := openedBy?_cons_of_closing? rfl hparen
    cases hend
    rfl
  closing?_closer := rfl

/-- The text around the parameters of a function. -/
def parameterEnclosure : Enclosure where
  before := "(function anonymous(".toList
  behind := ") \x7b\n\n\x7d)".toList
  opening := [.punct .openParen, .keyword "function", .name "anonymous", .punct .openParen]
  closing := [.punct .closeParen, .punct .openBrace, .punct .closeBrace, .punct .closeParen]
  innermost := .paren
  outer := [.paren]
  closer := .closeParen
  gap := []
  gap_isBlank cs := isSuffix_skipTrivia cs.length false cs
  spells_opening cs := spells_function cs
  inert_behind := ⟨by simp, fun n line => by cases n <;> rfl⟩
  spells_closing := spells_behindParameters
  opened_opening := rfl
  opened_closing st h := by
    obtain ⟨outer, rfl, hbody⟩ := openedBy?_cons_of_closing? rfl h
    -- The body opens and closes its own brace.
    have hbrace : openedBy? (.brace :: outer) [.punct .closeBrace, .punct .closeParen] = some [] :=
      hbody
    obtain ⟨outer, hinner, hparen⟩ := openedBy?_cons_of_closing? rfl hbrace
    cases hinner
    obtain ⟨outermost, rfl, hend⟩ := openedBy?_cons_of_closing? rfl hparen
    cases hend
    rfl
  closing?_closer := rfl

theorem functionText_nil_left (body : List Char) :
    functionText [] body = bodyEnclosure.text body := by
  have hend : "\n\x7d)".toList = '\n' :: "\x7d)".toList := by decide
  unfold functionText Enclosure.text
  rw [List.append_nil, hend]
  dsimp only [bodyEnclosure]

theorem functionText_nil_right (params : List Char) :
    functionText params [] = parameterEnclosure.text params := by
  have hend : "\n) \x7b\n".toList ++ "\n\x7d)".toList = '\n' :: ") \x7b\n\n\x7d)".toList := by
    decide
  unfold functionText Enclosure.text
  rw [List.append_nil, List.append_assoc, hend]
  dsimp only [parameterEnclosure]

end Functions

end Stencil.Ecma

namespace Stencil

open Ecma

/-! ## The checker -/

section Checker

variable {code : String}

theorem ecma_body_eq_ok_iff : Checker.ecma.body code = .ok () ↔ bodyFault? code = none := by
  unfold Checker.ecma
  dsimp only
  cases bodyFault? code <;> simp

theorem ecma_parameters_eq_ok_iff :
    Checker.ecma.parameters code = .ok () ↔ parametersFault? code = none := by
  unfold Checker.ecma
  dsimp only
  cases parametersFault? code <;> simp

theorem fits_of_body (h : Checker.ecma.body code = .ok ()) : bodyEnclosure.Fits code.toList := by
  have hfault : fault? (functionText [] code.toList) = none := ecma_body_eq_ok_iff.mp h
  rw [functionText_nil_left] at hfault
  exact Enclosure.fits hfault

theorem fits_of_parameters (h : Checker.ecma.parameters code = .ok ()) :
    parameterEnclosure.Fits code.toList := by
  have hfault : fault? (functionText code.toList []) = none := ecma_parameters_eq_ok_iff.mp h
  rw [functionText_nil_right] at hfault
  exact Enclosure.fits hfault

/-- The checker accepts what a check without a problem asks about. -/
theorem accepts_of_problem? {checker : Checker} {c : Check} (h : c.problem? checker = none) :
    (∀ code, c.call? = some (.body code) → checker.body code = .ok ()) ∧
      ∀ code, c.call? = some (.parameters code) → checker.parameters code = .ok () := by
  unfold Check.problem? at h
  unfold Check.call?
  split at h
  · split at h
    · rename_i hbody
      refine ⟨?_, nofun⟩
      rintro _ ⟨⟩
      exact hbody
    · cases h
  · exact ⟨nofun, nofun⟩
  · split at h
    · rename_i hbody
      refine ⟨?_, nofun⟩
      rintro _ ⟨⟩
      exact hbody
    · cases h
  · split at h
    · rename_i hparams
      refine ⟨nofun, ?_⟩
      rintro _ ⟨⟩
      exact hparams
    · cases h

end Checker

/-- **Which accepted texts stay in their place.**  A text that is accepted as the body of a function
stands between the fixed tokens around it, and so do the parameters of one.  It closes only what it
opens, if and only if it does not close the brace around the body, or the parenthesis around the
parameters, at its own level.  A text that does so opens the same again behind.  All this holds of
the code of every check that finds no problem. -/
theorem accepted_text_closes_own_brackets_iff (text : String) :
    (Checker.ecma.body text = .ok () → bodyEnclosure.Fits text.toList) ∧
      (Checker.ecma.parameters text = .ok () → parameterEnclosure.Fits text.toList) ∧
      ∀ c : Check, c.problem? .ecma = none →
        (c.call? = some (.body text) → bodyEnclosure.Fits text.toList) ∧
          (c.call? = some (.parameters text) → parameterEnclosure.Fits text.toList) := by
  refine ⟨fits_of_body, fits_of_parameters, fun c hc => ?_⟩
  obtain ⟨hbody, hparams⟩ := accepts_of_problem? hc
  exact ⟨fun hcall => fits_of_body (hbody text hcall),
    fun hcall => fits_of_parameters (hparams text hcall)⟩

/-- A body with brackets in a template, in a regular expression and in a string. -/
def literalBody : String := "return \x7b a: `\x7d$\x7b /[)]/ \x7d)`, b: ')' \x7d"

set_option maxRecDepth 10000 in
/-- The brackets in the literals of a body close nothing. -/
theorem literalBody_stays :
    Checker.ecma.body literalBody = .ok () ∧
      ¬ ∃ before t after, bodyEnclosure.EndedAt literalBody.toList before t after := by
  have hbody : Checker.ecma.body literalBody = .ok () :=
    ecma_body_eq_ok_iff.mpr (by decide +kernel)
  refine ⟨hbody, ?_⟩
  have hfits := (accepted_text_closes_own_brackets_iff literalBody).1 hbody
  refine hfits.closed_iff.mp ?_
  decide +kernel

/-- A value that ends the function around it and starts another one. -/
def reopeningValue : String := "a\x7d); (function () \x7b return b"

/-- Parameters that end the function around them and start another one. -/
def reopeningParameters : String := "a) \x7b\x7d); (function (b"

set_option maxRecDepth 10000 in
/-- The validator finds no problem in a value that ends the function around it, nor in such
parameters, although both close what they do not open. -/
theorem reopening_text_passes :
    (∀ c ∈ Element.attributeChecks {} ":title" reopeningValue, c.problem? .ecma = none) ∧
      bodyFault? ("return " ++ reopeningValue) = none ∧
      opened? [] (bodyEnclosure.own ("return " ++ reopeningValue).toList) = none ∧
      parametersFault? reopeningParameters = none ∧
      opened? [] (parameterEnclosure.own reopeningParameters.toList) = none := by
  decide +kernel

end Stencil
