import Stencil.Proofs.Filter.Segments
import Stencil.Proofs.Text.Pieces
import Stencil.Proofs.Text.Trim

/-!
# Reading a text at another place

A pass over an expression remembers little of what it has read: the literal it
is inside of, the bracket counts, whether the last character was a backslash or a
pipe, and whether a slash would open a regular expression.  This file makes that
precise and draws the consequences for texts that are moved to another place.

* `Scan.Nested depth s t`: the two states agree in all of this, except that `t`
  is inside `depth` more parentheses.  Reading keeps the relation
  (`Scan.Nested.run`), so a text is read alike from both.
* `Whole s cs`: the pass from `s` over `cs` meets no separating pipe.  This
  depends on the state only up to `Scan.Nested 0`, and it holds wherever the
  parentheses around the text are never all closed.
* `Scan.Inside.run_quoted`: a string literal is whole, and the pass leaves it at
  its last quote unless a backslash stands before that quote.
-/

namespace Stencil.Filter

open Text

/-! ## Plain characters -/

/-- The characters that can open or close a literal or a bracket, escape another
one or separate segments. -/
def marks : List Char :=
  ['"', '\'', '`', '(', ')', '[', ']', '{', '}', '/', '\\', '|']

/-- A character that changes nothing for a pass, wherever it stands. -/
def isPlain (c : Char) : Bool :=
  !marks.contains c

theorem ne_of_isPlain {c mark : Char} (hplain : isPlain c = true) (hmark : isPlain mark = false) :
    c ≠ mark := by
  rintro rfl
  rw [hmark] at hplain
  exact Bool.noConfusion hplain

theorem isPlain_of_isBlank {c : Char} (hblank : isBlank c = true) : isPlain c = true := by
  rw [isPlain, Bool.not_eq_true', Bool.eq_false_iff, ne_eq, List.contains_iff_mem]
  intro hmem
  have hsolid : marks.all fun mark => !isBlank mark := by decide
  have := List.all_eq_true.mp hsolid c hmem
  rw [hblank] at this
  exact Bool.noConfusion this

theorem endsOperand_of_isBlank {c : Char} (hblank : isBlank c = true) : endsOperand c = false := by
  by_contra hend
  have hend : endsOperand c = true := Bool.of_not_eq_false hend
  have hsolid : endsOperand c = true → isBlank c = false :=
    ascii_forall (p := fun c => endsOperand c = true → isBlank c = false) (by decide)
      (lt_of_endsOperand hend)
  rw [hsolid hend] at hblank
  exact Bool.noConfusion hblank

theorem Literal.isPlain_delimiter (l : Literal) : isPlain l.delimiter = false := by
  cases l <;> rfl

namespace Scan

theorem enter_of_isPlain {c : Char} (hplain : isPlain c = true) (s : Scan) : s.enter c = s := by
  unfold enter
  split
  case h_11 => rfl
  all_goals exact absurd hplain (by decide)

/-- A plain character is remembered and does nothing else. -/
theorem step_of_isPlain {c : Char} (hplain : isPlain c = true) (s : Scan) :
    s.step c = { s with previous := some c, solid := if c = ' ' then s.solid else some c } := by
  unfold step
  cases hliteral : s.literal with
  | none => simp only [enter_of_isPlain hplain, hliteral]
  | some l =>
      have hopen : ¬ (c = l.delimiter ∧ s.previous ≠ some '\\') :=
        fun h => ne_of_isPlain hplain l.isPlain_delimiter h.1
      simp only [if_neg hopen, hliteral]

/-! ## States between two tokens -/

/-- No literal is open, and of the brackets only some parentheses are. -/
structure Inside (depth : Int) (s : Scan) : Prop where
  literal : s.literal = none
  paren : s.paren = depth
  square : s.square = 0
  curly : s.curly = 0

theorem atTopLevel_iff_inside (s : Scan) : s.atTopLevel = true ↔ s.Inside 0 := by
  constructor
  · intro htop
    obtain ⟨⟨⟨hliteral, hparen⟩, hsquare⟩, hcurly⟩ : ((s.literal = none ∧ s.paren = 0) ∧
        s.square = 0) ∧ s.curly = 0 := by
      simpa [atTopLevel] using htop
    exact ⟨hliteral, hparen, hsquare, hcurly⟩
  · rintro ⟨hliteral, hparen, hsquare, hcurly⟩
    simp [atTopLevel, hliteral, hparen, hsquare, hcurly]

theorem inside_start : start.Inside 0 :=
  ⟨rfl, rfl, rfl, rfl⟩

theorem inside_step_iff {c : Char} (hplain : isPlain c = true) {depth : Int} {s : Scan} :
    (s.step c).Inside depth ↔ s.Inside depth := by
  rw [step_of_isPlain hplain]
  exact ⟨fun h => ⟨h.literal, h.paren, h.square, h.curly⟩,
    fun h => ⟨h.literal, h.paren, h.square, h.curly⟩⟩

theorem inside_run_iff {cs : List Char} (hplain : ∀ c ∈ cs, isPlain c = true) {depth : Int}
    {s : Scan} : (s.run cs).Inside depth ↔ s.Inside depth := by
  induction cs generalizing s with
  | nil => rfl
  | cons c cs ih =>
      rw [run_cons, ih fun d hd => hplain d (List.mem_cons_of_mem _ hd),
        inside_step_iff (hplain c (List.mem_cons_self ..))]

theorem Inside.step_eq {depth : Int} {s : Scan} (h : s.Inside depth) (c : Char) :
    s.step c = { s.enter c with
      previous := some c, solid := if c = ' ' then s.solid else some c } := by
  simp only [step, h.literal]

/-! ## The same state some parentheses deeper -/

/-- The state `t` reads every text as `s` does, inside `depth` more parentheses. -/
structure Nested (depth : Int) (s t : Scan) : Prop where
  literal : t.literal = s.literal
  paren : t.paren = s.paren + depth
  square : t.square = s.square
  curly : t.curly = s.curly
  escaping : t.previous = some '\\' ↔ s.previous = some '\\'
  pipe : t.previous = some '|' ↔ s.previous = some '|'
  regex : t.opensRegex = s.opensRegex

namespace Nested

variable {depth : Int} {r s t : Scan}

theorem refl (s : Scan) : s.Nested 0 s :=
  ⟨rfl, (Int.add_zero _).symm, rfl, rfl, Iff.rfl, Iff.rfl, rfl⟩

/-- Two states that are some depths below a third one. -/
theorem of_common {outer : Int} (hs : r.Nested outer s) (ht : r.Nested (outer + depth) t) :
    s.Nested depth t where
  literal := ht.literal.trans hs.literal.symm
  paren := by rw [ht.paren, hs.paren, Int.add_assoc]
  square := ht.square.trans hs.square.symm
  curly := ht.curly.trans hs.curly.symm
  escaping := ht.escaping.trans hs.escaping.symm
  pipe := ht.pipe.trans hs.pipe.symm
  regex := ht.regex.trans hs.regex.symm

theorem inside (h : s.Nested depth t) {outer : Int} (hs : s.Inside outer) :
    t.Inside (outer + depth) where
  literal := h.literal.trans hs.literal
  paren := by rw [h.paren, hs.paren]
  square := h.square.trans hs.square
  curly := h.curly.trans hs.curly

theorem step (h : s.Nested depth t) (c : Char) : (s.step c).Nested depth (t.step c) := by
  have hregex : (t.step c).opensRegex = (s.step c).opensRegex := by
    rw [opensRegex_step, opensRegex_step, h.regex]
  suffices hread : (t.step c).literal = (s.step c).literal ∧
      (t.step c).paren = (s.step c).paren + depth ∧ (t.step c).square = (s.step c).square ∧
      (t.step c).curly = (s.step c).curly from
    ⟨hread.1, hread.2.1, hread.2.2.1, hread.2.2.2, Iff.rfl, Iff.rfl, hregex⟩
  unfold Scan.step
  rw [h.literal]
  cases hliteral : s.literal with
  | none =>
      unfold enter
      simp only [h.regex]
      split <;> (try split) <;>
        simp only [h.literal, h.paren, h.square, h.curly, hliteral, true_and, and_true] <;> omega
  | some l =>
      simp only [ne_eq, h.escaping]
      split <;> simp only [h.literal, h.paren, h.square, h.curly, hliteral, and_self]

theorem run (h : s.Nested depth t) (cs : List Char) : (s.run cs).Nested depth (t.run cs) := by
  induction cs generalizing s t with
  | nil => exact h
  | cons c cs ih => exact ih (h.step c)

theorem cuts_eq (h : s.Nested 0 t) (c : Char) (rest : List Char) :
    t.cuts c rest = s.cuts c rest := by
  have hpipe : (t.previous != some '|') = (s.previous != some '|') := by
    rw [Bool.eq_iff_iff, bne_iff_ne, bne_iff_ne, ne_eq, ne_eq, h.pipe]
  have hparen : t.paren = s.paren := by rw [h.paren, Int.add_zero]
  simp only [cuts, atTopLevel, h.literal, hparen, h.square, h.curly, hpipe]

theorem splitPipes_eq (h : s.Nested 0 t) (cs : List Char) : splitPipes t cs = splitPipes s cs := by
  induction cs generalizing s t with
  | nil => rfl
  | cons c cs ih => simp only [splitPipes, ih (h.step c), h.cuts_eq]

end Nested

/-- Behind a character that cannot end an operand, a pass goes on as at the
start of a text. -/
theorem Inside.nested_start {depth : Int} {s : Scan} (h : s.Inside depth)
    (hescape : s.previous ≠ some '\\') (hpipe : s.previous ≠ some '|')
    (hregex : s.opensRegex = true) : start.Nested depth s where
  literal := h.literal
  paren := h.paren.trans (Int.zero_add depth).symm
  square := h.square
  curly := h.curly
  escaping := iff_of_false hescape (by decide)
  pipe := iff_of_false hpipe (by decide)
  regex := hregex

theorem Inside.nested_step_opening {depth : Int} {s : Scan} (h : s.Inside depth) :
    start.Nested (depth + 1) (s.step '(') := by
  refine Inside.nested_start ?_ (by simp) (by simp) (by rw [opensRegex_step]; rfl)
  rw [h.step_eq]
  exact ⟨h.literal, by simp only [enter, h.paren], h.square, h.curly⟩

theorem Inside.nested_step_comma {depth : Int} {s : Scan} (h : s.Inside depth) :
    start.Nested depth (s.step ',') :=
  ((inside_step_iff (by decide)).mpr h).nested_start (by simp) (by simp)
    (by rw [opensRegex_step]; rfl)

theorem Inside.step_closing {depth : Int} {s : Scan} (h : s.Inside (depth + 1)) :
    (s.step ')').Inside depth := by
  rw [h.step_eq]
  refine ⟨h.literal, ?_, h.square, h.curly⟩
  simp only [enter, h.paren]
  omega

theorem Inside.step_pipe {depth : Int} {s : Scan} (h : s.Inside depth) :
    (s.step '|').Inside depth := by
  rw [h.step_eq]
  exact ⟨h.literal, h.paren, h.square, h.curly⟩

/-- Blanks in front of a text do not show. -/
theorem Nested.step_of_isBlank {depth : Int} {s : Scan} (h : start.Nested depth s) {c : Char}
    (hblank : isBlank c = true) : start.Nested depth (s.step c) := by
  have hplain := isPlain_of_isBlank hblank
  have hs : (s.step c).Inside depth := by
    rw [inside_step_iff hplain, ← Int.zero_add depth]
    exact h.inside inside_start
  refine hs.nested_start ?_ ?_ ?_
  · simpa using ne_of_isPlain hplain (by decide : isPlain '\\' = false)
  · simpa using ne_of_isPlain hplain (by decide : isPlain '|' = false)
  · rw [opensRegex_step, endsOperand_of_isBlank hblank, h.regex]
    simp [start, opensRegex]

theorem Nested.run_of_isBlank {depth : Int} {s : Scan} (h : start.Nested depth s)
    {cs : List Char} (hblank : ∀ c ∈ cs, isBlank c = true) : start.Nested depth (s.run cs) := by
  induction cs generalizing s with
  | nil => exact h
  | cons c cs ih =>
      exact ih (h.step_of_isBlank (hblank c (List.mem_cons_self ..)))
        fun d hd => hblank d (List.mem_cons_of_mem _ hd)

end Scan

/-! ## Texts without a separating pipe -/

/-- The pass from `s` over a text meets no separating pipe. -/
def Whole (s : Scan) (cs : List Char) : Prop :=
  splitPipes s cs = (cs, [])

theorem whole_cons_iff {s : Scan} {c : Char} {cs : List Char} :
    Whole s (c :: cs) ↔ s.cuts c cs = false ∧ Whole (s.step c) cs := by
  unfold Whole
  cases hcuts : s.cuts c cs with
  | true => simp [splitPipes, hcuts]
  | false => simp [splitPipes, hcuts, Prod.ext_iff]

theorem Scan.cuts_of_ne_pipe {c : Char} (hne : c ≠ '|') (s : Scan) (rest : List Char) :
    s.cuts c rest = false := by
  rw [Bool.eq_false_iff]
  exact fun hcuts => hne (s.eq_pipe_of_cuts hcuts)

/-- What stands behind a pipe can only keep it from separating. -/
theorem Scan.cuts_of_cuts_nil {s : Scan} {c : Char} (hcuts : s.cuts c [] = false)
    (rest : List Char) : s.cuts c rest = false := by
  simp only [cuts, List.head?_nil, Bool.and_eq_false_iff] at hcuts ⊢
  rcases hcuts with hcuts | hcuts
  · exact Or.inl hcuts
  · exact absurd hcuts (by decide)

theorem Scan.cuts_append (s : Scan) (c : Char) (xs : List Char) {ys : List Char}
    (hys : ys.head? ≠ some '|') : s.cuts c (xs ++ ys) = s.cuts c xs := by
  cases xs with
  | nil =>
      have hnil : ([] : List Char).head? ≠ some '|' := by simp
      simp only [List.nil_append, cuts, bne_iff_ne.mpr hys, bne_iff_ne.mpr hnil]
  | cons d xs => rfl

/-- A text is whole if no place in it is a cut. -/
theorem whole_iff_forall_cuts {s : Scan} {cs : List Char} :
    Whole s cs ↔
      ∀ before c after, cs = before ++ c :: after → (s.run before).cuts c after = false := by
  induction cs generalizing s with
  | nil => simp [Whole, splitPipes]
  | cons d cs ih =>
      rw [whole_cons_iff, ih]
      constructor
      · rintro ⟨hhere, hbehind⟩ before c after heq
        cases before with
        | nil =>
            obtain ⟨rfl, rfl⟩ := List.cons.inj heq
            exact hhere
        | cons e before =>
            obtain ⟨rfl, rfl⟩ := List.cons.inj heq
            exact hbehind before c after rfl
      · intro h
        exact ⟨h [] d cs rfl, fun before c after heq => h (d :: before) c after (heq ▸ rfl)⟩

theorem whole_of_not_mem {cs : List Char} (hpipe : '|' ∉ cs) (s : Scan) : Whole s cs := by
  rw [whole_iff_forall_cuts]
  rintro before c after rfl
  refine Scan.cuts_of_ne_pipe ?_ _ after
  rintro rfl
  exact hpipe (by simp)

/-- Nothing separates as long as a parenthesis is open. -/
theorem whole_of_paren_pos {cs : List Char} {s : Scan}
    (hpos : ∀ before, before <+: cs → 0 < (s.run before).paren) : Whole s cs := by
  rw [whole_iff_forall_cuts]
  rintro before c after rfl
  have hopen : (s.run before).atTopLevel = false := by
    rw [Bool.eq_false_iff, ne_eq, Scan.atTopLevel_iff_inside]
    intro htop
    exact Int.ne_of_gt (hpos before (List.prefix_append ..)) htop.paren
  simp [Scan.cuts, hopen]

namespace Whole

variable {s : Scan} {xs ys : List Char}

theorem append (hxs : Whole s xs) (hys : Whole (s.run xs) ys) : Whole s (xs ++ ys) := by
  induction xs generalizing s with
  | nil => exact hys
  | cons c xs ih =>
      obtain ⟨hcuts, hrest⟩ := whole_cons_iff.mp hxs
      refine whole_cons_iff.mpr ⟨?_, ih hrest hys⟩
      cases xs with
      | nil => exact Scan.cuts_of_cuts_nil hcuts ys
      | cons d xs => exact hcuts

theorem left (h : Whole s (xs ++ ys)) (hys : ys.head? ≠ some '|') : Whole s xs := by
  rw [whole_iff_forall_cuts] at h ⊢
  rintro before c after rfl
  rw [← Scan.cuts_append _ c after hys]
  exact h before c (after ++ ys) (by simp)

theorem left_of_isBlank (h : Whole s (xs ++ ys)) (hblank : ∀ c ∈ ys, isBlank c = true) :
    Whole s xs := by
  apply h.left
  intro hhead
  exact absurd (hblank _ (List.mem_of_head? hhead)) (by decide)

theorem right (h : Whole s (xs ++ ys)) : Whole (s.run xs) ys := by
  rw [whole_iff_forall_cuts] at h ⊢
  rintro before c after rfl
  rw [← Scan.run_append]
  exact h (xs ++ before) c after (by simp)

end Whole

theorem Scan.Nested.whole_iff {s t : Scan} (h : s.Nested 0 t) {cs : List Char} :
    Whole t cs ↔ Whole s cs := by
  unfold Whole
  rw [h.splitPipes_eq]

theorem whole_of_snd_eq_nil {s : Scan} {cs : List Char} (h : (splitPipes s cs).2 = []) :
    Whole s cs := by
  induction cs generalizing s with
  | nil => rfl
  | cons c cs ih =>
      cases hcuts : s.cuts c cs with
      | true => simp [splitPipes, hcuts] at h
      | false =>
          simp only [splitPipes, hcuts] at h
          exact whole_cons_iff.mpr ⟨hcuts, ih h⟩

/-- Reading an expression gives nothing but its trimmed text just if it is whole. -/
theorem parse_eq_trim_iff {exp : String} :
    Pipeline.parse exp = ⟨trim exp, []⟩ ↔ Whole Scan.start exp.toList := by
  constructor
  · intro hparse
    have hfilters := congrArg Pipeline.filters hparse
    exact whole_of_snd_eq_nil (List.map_eq_nil_iff.mp hfilters)
  · intro h
    unfold Whole at h
    simp [Pipeline.parse, h, trim]

/-! ## String literals -/

/-- The literal that a quote opens. -/
def literalOf : Quote → Literal
  | .single => .singleQuoted
  | .double => .doubleQuoted

@[simp] theorem delimiter_literalOf (q : Quote) : (literalOf q).delimiter = q.mark := by
  cases q <;> rfl

theorem isPlain_mark (q : Quote) : isPlain q.mark = false := by
  cases q <;> rfl

theorem contents_of_isPlain {Escapable : Char → Prop} {q : Quote} {cs : List Char}
    (hplain : ∀ c ∈ cs, isPlain c = true) : Contents Escapable q cs := by
  induction cs with
  | nil => exact .nil
  | cons c cs ih =>
      rw [List.forall_mem_cons] at hplain
      exact .char (ne_of_isPlain hplain.1 (isPlain_mark q))
        (ne_of_isPlain hplain.1 (by decide)) (ih hplain.2)

namespace Scan

/-- A literal is open, and of the brackets around it only some parentheses are. -/
structure Within (l : Literal) (depth : Int) (s : Scan) : Prop where
  literal : s.literal = some l
  paren : s.paren = depth
  square : s.square = 0
  curly : s.curly = 0

namespace Within

variable {l : Literal} {depth : Int} {s : Scan}

theorem cuts_eq_false (h : s.Within l depth) (c : Char) (rest : List Char) :
    s.cuts c rest = false := by
  simp [cuts, atTopLevel, h.literal]

/-- A literal stays open behind a character that does not close it. -/
theorem step_of_open (h : s.Within l depth) {c : Char}
    (hopen : ¬ (c = l.delimiter ∧ s.previous ≠ some '\\')) : (s.step c).Within l depth := by
  have hstep : s.step c =
      { s with previous := some c, solid := if c = ' ' then s.solid else some c } := by
    simp only [step, h.literal, if_neg hopen]
  rw [hstep]
  exact ⟨h.literal, h.paren, h.square, h.curly⟩

theorem step_delimiter (h : s.Within l depth) (hescape : s.previous ≠ some '\\') :
    (s.step l.delimiter).Inside depth := by
  have hstep : s.step l.delimiter = { s with
      literal := none
      previous := some l.delimiter
      solid := if l.delimiter = ' ' then s.solid else some l.delimiter } := by
    simp only [step, h.literal, ne_eq, hescape, not_false_eq_true, and_self, if_true]
  rw [hstep]
  exact ⟨rfl, h.paren, h.square, h.curly⟩

/-- Contents never close their literal, whatever stands in front of them. -/
theorem run_contents {Escapable : Char → Prop} {q : Quote} {cs : List Char}
    (hcs : Contents Escapable q cs) (h : s.Within (literalOf q) depth) :
    (s.run cs).Within (literalOf q) depth ∧ Whole s cs := by
  induction hcs generalizing s with
  | nil => exact ⟨h, rfl⟩
  | char hquote _ _ ih =>
      have hstep := h.step_of_open fun hclose => hquote (hclose.1.trans (delimiter_literalOf q))
      exact ⟨(ih hstep).1, whole_cons_iff.mpr ⟨h.cuts_eq_false .., (ih hstep).2⟩⟩
  | @escape c cs _ _ ih =>
      have hmark : '\\' ≠ (literalOf q).delimiter := by cases q <;> decide
      have hbackslash := h.step_of_open fun hclose => hmark hclose.1
      have hstep : ((s.step '\\').step c).Within (literalOf q) depth :=
        hbackslash.step_of_open fun hclose => hclose.2 rfl
      exact ⟨(ih hstep).1, whole_cons_iff.mpr ⟨h.cuts_eq_false ..,
        whole_cons_iff.mpr ⟨hbackslash.cuts_eq_false .., (ih hstep).2⟩⟩⟩

theorem run_of_isPlain (h : s.Within l depth)
    (hescape : s.previous ≠ some '\\') {cs : List Char} (hplain : ∀ c ∈ cs, isPlain c = true) :
    (s.run cs).Within l depth ∧ (s.run cs).previous ≠ some '\\' := by
  induction cs generalizing s with
  | nil => exact ⟨h, hescape⟩
  | cons c cs ih =>
      rw [List.forall_mem_cons] at hplain
      refine ih (h.step_of_open ?_) ?_ hplain.2
      · exact fun hclose => ne_of_isPlain hplain.1 l.isPlain_delimiter hclose.1
      · simpa using ne_of_isPlain hplain.1 (by decide : isPlain '\\' = false)

end Within

theorem Inside.step_quote {depth : Int} {s : Scan} (h : s.Inside depth) (q : Quote) :
    (s.step q.mark).Within (literalOf q) depth := by
  rw [h.step_eq]
  cases q <;> exact ⟨rfl, h.paren, h.square, h.curly⟩

/-- Where the contents do not end with a backslash, a string literal is closed
by its last quote. -/
theorem Inside.run_quoted {depth : Int} {s : Scan} (h : s.Inside depth)
    {Escapable : Char → Prop} {q : Quote} {cs : List Char} (hcs : Contents Escapable q cs)
    (hlast : cs.getLast? ≠ some '\\') :
    (s.run (quoted q cs)).Inside depth ∧ Whole s (quoted q cs) := by
  obtain ⟨hwithin, hwhole⟩ := (h.step_quote q).run_contents hcs
  have hmark : q.mark ≠ '|' ∧ q.mark ≠ '\\' := by cases q <;> decide
  have hprevious : ((s.step q.mark).run cs).previous ≠ some '\\' := by
    rw [previous_run, previous_step]
    cases hcs : cs.getLast? with
    | none => simpa using hmark.2
    | some c => rwa [hcs] at hlast
  constructor
  · have hclosed := hwithin.step_delimiter hprevious
    rw [delimiter_literalOf] at hclosed
    rw [quoted, run_cons, run_append]
    exact hclosed
  · refine whole_cons_iff.mpr ⟨s.cuts_of_ne_pipe hmark.1 _, hwhole.append ?_⟩
    exact whole_of_not_mem (by simpa using Ne.symm hmark.1) _

end Scan

end Stencil.Filter
