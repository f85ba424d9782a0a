import Stencil.Ecma.Script

/-!
# Brackets of script text

The tokens that a parse takes, and what they open and close.  A template opens a substitution, and
the brace that ends a substitution reads on in the template.  `opened?` says what a list of tokens
leaves open, and is `none` when one of them closes what is not open.

`Path` describes how a parse goes from token to token: each one stands where the one before ends,
except that a slash can start a regular expression and a brace can lead back into a template.
-/

namespace Stencil.Ecma

/-- What has been opened and waits for its end. -/
inductive Opening where
  | paren
  | bracket
  | brace
  /-- A substitution of a template. -/
  | substitution
  deriving DecidableEq

/-- What a punctuator opens. -/
def Punct.opening? : Punct → Option Opening
  | .openParen => some .paren
  | .openBracket => some .bracket
  | .openBrace => some .brace
  | _ => none

/-- What a punctuator closes. -/
def Punct.closing? : Punct → Option Opening
  | .closeParen => some .paren
  | .closeBracket => some .bracket
  | .closeBrace => some .brace
  | _ => none

/-- What is open behind a token, the innermost first.  Text that is no token stands for nothing. -/
def Token.after? (t : Token) (st : List Opening) : Option (List Opening) :=
  match t with
  | .punct p =>
    match p.opening?, p.closing?, st with
    | some o, _, st => some (o :: st)
    | none, none, st => some st
    | none, some o, innermost :: st => if innermost = o then some st else none
    | none, some _, [] => none
  | .template false _ => some (.substitution :: st)
  | .endOfInput | .broken _ => none
  | _ => some st

/-- A token that opens and closes nothing. -/
def Token.IsPlain (t : Token) : Prop :=
  ∀ st, t.after? st = some st

theorem isPlain_punct {p : Punct} (hopening : p.opening? = none) (hclosing : p.closing? = none) :
    (Token.punct p).IsPlain := by
  intro st
  simp only [Token.after?, hopening, hclosing]

theorem isPlain_of_precedence? {p : Punct} (h : p.precedence?.isSome) :
    (Token.punct p).IsPlain := by
  refine isPlain_punct ?_ ?_
  all_goals
    revert h
    cases p <;> decide

theorem isPlain_of_isAssignment {p : Punct} (h : p.isAssignment) : (Token.punct p).IsPlain := by
  refine isPlain_punct ?_ ?_
  all_goals
    revert h
    cases p <;> decide

/-- What is open behind a token in its place.  A brace that ends a substitution ends the template
or leads to the next substitution. -/
def Lexeme.after? (l : Lexeme) (st : List Opening) : Option (List Opening) :=
  match l.token, st with
  | .punct .closeBrace, .substitution :: outer =>
    (templatePart (l.rest.length + 1) none l.rest).map fun part =>
      if part.complete then outer else .substitution :: outer
  | t, st => t.after? st

theorem after?_of_token {l : Lexeme} {t : Token} {st st' : List Opening} (hl : l.token = t)
    (h : t.after? st = some st') : l.after? st = some st' := by
  unfold Lexeme.after?
  rw [hl]
  split
  · simp [Token.after?, Punct.opening?, Punct.closing?] at h
  · exact h

theorem after?_substitution {l : Lexeme} {st : List Opening} {part : TemplatePart}
    (hl : l.token = .punct .closeBrace)
    (hpart : templatePart (l.rest.length + 1) none l.rest = some part) :
    l.after? (.substitution :: st) =
      some (if part.complete then st else .substitution :: st) := by
  unfold Lexeme.after?
  rw [hl]
  dsimp only
  rw [hpart, Option.map_some]

/-- What is open behind some tokens, if they close only what is open. -/
def opened? (st : List Opening) (ts : List Lexeme) : Option (List Opening) :=
  ts.foldlM (fun st l => l.after? st) st

theorem opened?_cons (st : List Opening) (l : Lexeme) (ts : List Lexeme) :
    opened? st (l :: ts) = (l.after? st).bind fun st => opened? st ts :=
  rfl

theorem opened?_append (st : List Opening) (ts us : List Lexeme) :
    opened? st (ts ++ us) = (opened? st ts).bind fun st => opened? st us :=
  List.foldlM_append ..

/-! ## What stands around some tokens -/

section Around

variable {l : Lexeme} {t : Token} {st st' base : List Opening} {own : List Lexeme}

theorem Token.after?_cons_append (t : Token) (innermost : Opening) (st base : List Opening) :
    t.after? (innermost :: st ++ base) = (t.after? (innermost :: st)).map (· ++ base) := by
  cases t with
  | punct p => cases p <;> cases innermost <;> rfl
  | template complete fault => cases complete <;> rfl
  | _ => rfl

/-- What a token does where something is open does not depend on what stands around. -/
theorem after?_cons_append (l : Lexeme) (innermost : Opening) (st base : List Opening) :
    l.after? (innermost :: st ++ base) = (l.after? (innermost :: st)).map (· ++ base) := by
  unfold Lexeme.after?
  rw [List.cons_append]
  split
  · rename_i htoken hst
    cases hst
    rw [htoken]
    dsimp only
    rw [Option.map_map]
    congr 1
    funext part
    dsimp only [Function.comp]
    split <;> rfl
  · rename_i hsubstitution
    split
    · rename_i htoken hst
      cases hst
      exact absurd rfl (hsubstitution _ htoken)
    · exact Token.after?_cons_append ..

theorem Token.after?_of_nil (h : t.after? [] = some st') (base : List Opening) :
    t.after? base = some (st' ++ base) := by
  cases t with
  | punct p => cases p <;> cases h <;> rfl
  | template complete fault => cases complete <;> cases h <;> rfl
  | _ => cases h <;> rfl

/-- A token that closes nothing can stand anywhere. -/
theorem after?_of_nil (h : l.after? [] = some st') (base : List Opening) :
    l.after? base = some (st' ++ base) := by
  refine after?_of_token rfl (Token.after?_of_nil ?_ base)
  unfold Lexeme.after? at h
  split at h
  · rename_i hst
    cases hst
  · exact h

/-- A token that closes only what is open leaves alone what stands around. -/
theorem after?_append (h : l.after? st = some st') (base : List Opening) :
    l.after? (st ++ base) = some (st' ++ base) := by
  cases st with
  | nil => exact after?_of_nil h base
  | cons innermost st => rw [after?_cons_append, h, Option.map_some]

theorem opened?_append_around (h : opened? st own = some st') (base : List Opening) :
    opened? (st ++ base) own = some (st' ++ base) := by
  induction own generalizing st with
  | nil =>
    cases h
    rfl
  | cons l own ih =>
    rw [opened?_cons] at h ⊢
    obtain ⟨st₁, hl, hown⟩ := Option.bind_eq_some_iff.mp h
    rw [after?_append hl, Option.bind_some, ih hown]

/-- Tokens that can stand inside of something close only what they open, or one of them closes what
stands around. -/
theorem opened?_append_cases (h : opened? (st ++ base) own = some st') :
    (∃ inner, opened? st own = some inner ∧ st' = inner ++ base) ∨
      ∃ before t after outer, own = before ++ t :: after ∧ opened? st before = some [] ∧
        t.after? [] = none ∧ t.after? base = some outer := by
  induction own generalizing st with
  | nil => exact .inl ⟨st, rfl, (Option.some.inj h).symm⟩
  | cons l own ih =>
    rw [opened?_cons] at h
    obtain ⟨st₁, hl, hown⟩ := Option.bind_eq_some_iff.mp h
    cases hst : l.after? st with
    | some st₂ =>
      rw [after?_append hst, Option.some.injEq] at hl
      subst hl
      rcases ih hown with ⟨inner, hinner, rfl⟩ | ⟨before, t, after, outer, rfl, hbefore, ht⟩
      · refine .inl ⟨inner, ?_, rfl⟩
        rw [opened?_cons, hst, Option.bind_some, hinner]
      · refine .inr ⟨l :: before, t, after, outer, rfl, ?_, ht⟩
        rw [opened?_cons, hst, Option.bind_some, hbefore]
    | none =>
      cases st with
      | nil => exact .inr ⟨[], l, own, st₁, rfl, rfl, hst, hl⟩
      | cons innermost st =>
        rw [after?_cons_append, hst] at hl
        cases hl

end Around

section Closing

variable {l t : Lexeme} {p : Punct} {o : Opening} {st base : List Opening}
  {own before after : List Lexeme}

theorem after?_nil_of_closing? (hp : p.closing? = some o) (hl : l.token = .punct p) :
    l.after? [] = none := by
  unfold Lexeme.after?
  rw [hl]
  cases p <;> cases hp <;> rfl

theorem after?_of_closing? (hp : p.closing? = some o) (hl : l.token = .punct p) :
    l.after? (o :: base) = some base := by
  refine after?_of_token hl ?_
  cases p <;> cases hp <;> rfl

/-- A token that cannot stand alone, but can inside of what a punctuator closes, is that
punctuator. -/
theorem token_of_after? (hp : p.closing? = some o) (hnil : l.after? [] = none)
    (h : l.after? (o :: base) = some st) : l.token = .punct p := by
  unfold Lexeme.after? at hnil h
  cases ht : l.token with
  | punct q =>
    rw [ht] at hnil h
    cases q with
    | closeParen | closeBracket | closeBrace =>
      cases p <;> cases hp <;> first | rfl | cases h
    | _ => cases hnil
  | template complete fault =>
    rw [ht] at hnil
    cases complete <;> cases hnil
  | endOfInput | broken =>
    rw [ht] at h
    cases h
  | _ =>
    rw [ht] at hnil
    cases hnil

/-- Tokens that fill a place inside of something close only what they open, unless one of them, at
the level of the place, closes what stands around. -/
theorem opened?_nil_iff (hp : p.closing? = some o)
    (hown : opened? (o :: base) own = some (o :: base)) :
    opened? [] own = some [] ↔
      ¬ ∃ before t after, own = before ++ t :: after ∧ opened? [] before = some [] ∧
        t.token = .punct p := by
  constructor
  · rintro hclosed ⟨before, t, after, rfl, hbefore, ht⟩
    rw [opened?_append, hbefore, Option.bind_some, opened?_cons, after?_nil_of_closing? hp ht]
      at hclosed
    cases hclosed
  · intro hinside
    have hframe : opened? ([] ++ o :: base) own = some (o :: base) := hown
    rcases opened?_append_cases hframe with
      ⟨inner, hinner, hst⟩ | ⟨before, t, after, outer, rfl, hbefore, hnil, ht⟩
    · rw [hinner, List.self_eq_append_left.mp hst]
    · exact absurd ⟨before, t, after, rfl, hbefore, token_of_after? hp hnil ht⟩ hinside

/-- Behind the token that closes what stands around, the tokens stand outside of it. -/
theorem opened?_behind (hp : p.closing? = some o)
    (hown : opened? (o :: base) (before ++ t :: after) = some st)
    (hbefore : opened? [] before = some []) (ht : t.token = .punct p) :
    opened? base after = some st := by
  have hinside : opened? (o :: base) before = some (o :: base) :=
    opened?_append_around hbefore (o :: base)
  rw [opened?_append, hinside, Option.bind_some, opened?_cons, after?_of_closing? hp ht,
    Option.bind_some] at hown
  exact hown

end Closing

/-! ## Paths -/

/-- The tokens that a parse can take up behind a token. -/
inductive Lexeme.Follows (l : Lexeme) : Lexeme → Prop where
  | rest : Follows l (Lexeme.next l.rest)
  | regex {behind flags rest : List Char}
      (htoken : l.token = .punct .slash ∨ l.token = .punct .slashAssign)
      (hend : regexEnd? false (l.start.drop 1) = some behind)
      (hflags : regexFlagsAt behind = .ok (flags, rest)) : Follows l (Lexeme.next rest)
  | template {part : TemplatePart} (htoken : l.token = .punct .closeBrace)
      (hpart : templatePart (l.rest.length + 1) none l.rest = some part) :
      Follows l (Lexeme.next part.rest)

/-- `Path l st ts st' m`: from the token `l`, with `st` open, the tokens `ts` lead to the token `m`
with `st'` open.  No token behind `l` has a fault. -/
inductive Path : Lexeme → List Opening → List Lexeme → List Opening → Lexeme → Prop where
  | nil {l : Lexeme} {st : List Opening} : Path l st [] st l
  | cons {l m n : Lexeme} {st st' st'' : List Opening} {ts : List Lexeme}
      (hafter : l.after? st = some st') (hfollows : l.Follows m) (hnote : m.note = none)
      (path : Path m st' ts st'' n) : Path l st (l :: ts) st'' n

namespace Path

variable {l m n : Lexeme} {st st' st'' : List Opening} {ts us : List Lexeme}

theorem append (first : Path l st ts st' m) (second : Path m st' us st'' n) :
    Path l st (ts ++ us) st'' n := by
  induction first with
  | nil => exact second
  | cons hafter hfollows hnote _ ih => exact .cons hafter hfollows hnote (ih second)

theorem concat (path : Path l st ts st' m) (hafter : m.after? st' = some st'')
    (hfollows : m.Follows n) (hnote : n.note = none) : Path l st (ts ++ [m]) st'' n :=
  path.append (.cons hafter hfollows hnote .nil)

theorem opened?_eq (path : Path l st ts st' m) : opened? st ts = some st' := by
  induction path with
  | nil => rfl
  | cons hafter _ _ _ ih => rw [opened?_cons, hafter, Option.bind_some, ih]

end Path

end Stencil.Ecma
