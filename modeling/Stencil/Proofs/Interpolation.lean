import Stencil.Interpolation
import Stencil.Proofs.Text.Cut

/-!
# Interpolations are taken leftmost and shortest

`Interpolation.parse?` walks over a text and takes the interpolations it meets.
This file says what it finds without the walk.  A text is cut into pieces, each
a gap and an interpolation behind it, and a tail:

* `Legal` says which texts may stand between the delimiters, and `Occurs` that a
  text holds an interpolation at all;
* `FirstMatch` says that an interpolation starts as far left as possible and has
  the shortest interior among those that start there;
* `LeftmostShortest` says this of every piece, in the text that starts behind
  the piece before it, and that the tail holds no interpolation.

`parse?_leftmost_shortest` proves that a text has exactly one such cut and that
the tokens are those of its gaps and interiors.
-/

namespace Stencil.Interpolation

open Text

/-! ## Interiors -/

/-- No separator, and a carriage return only in front of a line feed. -/
structure Unbroken (interior : List Char) : Prop where
  no_separator : ∀ c ∈ interior, c ≠ '\u2028' ∧ c ≠ '\u2029'
  line_ends : ∀ before after, interior = before ++ '\r' :: after → ∃ rest, after = '\n' :: rest

/-- What may stand between two delimiters. -/
structure Legal (interior : List Char) : Prop extends Unbroken interior where
  ne_nil : interior ≠ []

theorem isSeparator_iff (c : Char) : isSeparator c = true ↔ c = '\u2028' ∨ c = '\u2029' := by
  have htoNat : ∀ d : Char, c.toNat = d.toNat ↔ c = d := fun d => Char.toNat_inj
  simp only [isSeparator, Bool.or_eq_true, beq_iff_eq]
  exact or_congr (htoNat '\u2028') (htoNat '\u2029')

theorem unbroken_nil : Unbroken [] where
  no_separator _ hc := nomatch hc
  line_ends before after heq := by simp at heq

theorem unbroken_cons_iff {c : Char} {interior : List Char} (hreturn : c ≠ '\r')
    (hseparator : isSeparator c = false) : Unbroken (c :: interior) ↔ Unbroken interior := by
  have hc : c ≠ '\u2028' ∧ c ≠ '\u2029' := by
    rw [← not_or, ← isSeparator_iff, hseparator]
    exact Bool.false_ne_true
  constructor
  · intro h
    refine ⟨fun x hx => h.no_separator x (List.mem_cons_of_mem c hx), ?_⟩
    intro before after heq
    exact h.line_ends (c :: before) after (by rw [heq, List.cons_append])
  · intro h
    refine ⟨List.forall_mem_cons.mpr ⟨hc, h.no_separator⟩, ?_⟩
    intro before after heq
    cases before with
    | nil => exact absurd (List.cons.inj heq).1 hreturn
    | cons d before => exact h.line_ends before after (List.cons.inj heq).2

/-- A line end of two characters counts as one. -/
theorem unbroken_lineEnd_iff {interior : List Char} :
    Unbroken ('\r' :: '\n' :: interior) ↔ Unbroken interior := by
  have hfeed : Unbroken ('\n' :: interior) ↔ Unbroken interior :=
    unbroken_cons_iff (by decide) (by decide)
  rw [← hfeed]
  constructor
  · intro h
    refine ⟨fun x hx => h.no_separator x (List.mem_cons_of_mem _ hx), ?_⟩
    intro before after heq
    exact h.line_ends ('\r' :: before) after (by rw [heq, List.cons_append])
  · intro h
    refine ⟨List.forall_mem_cons.mpr ⟨by decide, h.no_separator⟩, ?_⟩
    intro before after heq
    cases before with
    | nil => exact ⟨interior, (List.cons.inj heq).2.symm⟩
    | cons d before => exact h.line_ends before after (List.cons.inj heq).2

/-- A character that `interior?` refuses cannot start an unbroken text. -/
theorem not_unbroken_cons {c : Char} {interior : List Char}
    (hrefused : (c = '\r' || isSeparator c) = true)
    (hfeed : ∀ rest, c = '\r' → interior ≠ '\n' :: rest) :
    ¬ Unbroken (c :: interior) := by
  intro h
  rw [Bool.or_eq_true, decide_eq_true_eq] at hrefused
  rcases hrefused with rfl | hseparator
  · obtain ⟨rest, hrest⟩ := h.line_ends [] interior rfl
    exact hfeed rest rfl hrest
  · obtain ⟨hline, hparagraph⟩ := h.no_separator c List.mem_cons_self
    exact ((isSeparator_iff c).mp hseparator).elim hline hparagraph

/-- A text starts with an interior that may end at the closing delimiter; one
that is not `started` yet needs a character of its own. -/
structure Closes (close : List Char) (started : Bool) (text interior rest : List Char) : Prop where
  text_eq : text = interior ++ close ++ rest
  unbroken : Unbroken interior
  ne_nil : started = false → interior ≠ []

section Scan

variable {close text interior rest : List Char} {started : Bool}

/-- Where the delimiter does not close an interior at once, the interior takes
the first character. -/
theorem Closes.exists_cons
    (hopen : ∀ rest, started = true → dropStart? close text = some rest → False)
    (h : Closes close started text interior rest) : ∃ c more, interior = c :: more := by
  cases interior with
  | cons c more => exact ⟨c, more, rfl⟩
  | nil =>
      cases started with
      | false => exact absurd rfl (h.ne_nil rfl)
      | true => exact (hopen rest rfl (dropStart?_eq_some_iff.mpr h.text_eq)).elim

/-- An interior that goes on with a line end or with a legal character goes on
as an interior that has started. -/
theorem closes_append_iff {unit : List Char} (hunit : unit ≠ [])
    (hunbroken : ∀ interior, Unbroken (unit ++ interior) ↔ Unbroken interior) :
    Closes close started (unit ++ text) (unit ++ interior) rest ↔
      Closes close true text interior rest := by
  constructor
  · intro h
    refine ⟨?_, (hunbroken interior).mp h.unbroken, fun hstarted => absurd hstarted (by decide)⟩
    have htext := h.text_eq
    rwa [List.append_assoc, List.append_assoc, List.append_cancel_left_eq,
      ← List.append_assoc] at htext
  · intro h
    refine ⟨?_, (hunbroken interior).mpr h.unbroken, fun _ hnil => ?_⟩
    · rw [h.text_eq, List.append_assoc, List.append_assoc, List.append_assoc]
    · exact hunit (List.append_eq_nil_iff.mp hnil).1

/-- What a scan for the end of an interior has to find: the shortest interior
that can be closed, if there is any. -/
def FindsEnd (close : List Char) (started : Bool) (text : List Char) :
    Option (List Char × List Char) → Prop
  | none => ∀ interior rest, ¬ Closes close started text interior rest
  | some (interior, rest) => Closes close started text interior rest ∧
      ∀ other behind, Closes close started text other behind → interior.length ≤ other.length

/-- A scan that must take one unit of the text finds what the scan behind it
finds. -/
theorem FindsEnd.append (unit : List Char) {found : Option (List Char × List Char)}
    (hunit : unit ≠ [])
    (hunbroken : ∀ interior, Unbroken (unit ++ interior) ↔ Unbroken interior)
    (hforced : ∀ interior rest, Closes close started (unit ++ text) interior rest →
      ∃ more, interior = unit ++ more)
    (hfound : FindsEnd close true text found) :
    FindsEnd close started (unit ++ text) (found.map fun (i, r) => (unit ++ i, r)) := by
  cases found with
  | none =>
      intro interior rest hcloses
      obtain ⟨more, rfl⟩ := hforced interior rest hcloses
      exact hfound more rest ((closes_append_iff hunit hunbroken).mp hcloses)
  | some parts =>
      obtain ⟨hcloses, hshortest⟩ := hfound
      refine ⟨(closes_append_iff hunit hunbroken).mpr hcloses, ?_⟩
      intro other behind hother
      obtain ⟨more, rfl⟩ := hforced other behind hother
      have := hshortest more behind ((closes_append_iff hunit hunbroken).mp hother)
      simp only [List.length_append]
      omega

/-- **Interiors are the shortest ones.** -/
theorem findsEnd_interior? (close : List Char) (started : Bool) (text : List Char) :
    FindsEnd close started text (interior? close started text) := by
  fun_induction interior? close started text with
  | case1 text rest hdrop =>
      have hcloses : Closes close true text [] rest :=
        ⟨dropStart?_eq_some_iff.mp hdrop, unbroken_nil, fun hstarted => absurd hstarted (by decide)⟩
      exact ⟨hcloses, fun _ _ _ => Nat.zero_le _⟩
  | case2 started hopen =>
      intro interior rest hcloses
      obtain ⟨c, more, rfl⟩ := hcloses.exists_cons hopen
      simpa using hcloses.text_eq
  | case3 started tail hopen ih =>
      refine FindsEnd.append ['\r', '\n'] (by simp) (fun _ => unbroken_lineEnd_iff) ?_ ih
      intro interior rest hcloses
      obtain ⟨c, more, rfl⟩ := hcloses.exists_cons hopen
      obtain ⟨rfl, htail⟩ := List.cons.inj hcloses.text_eq
      obtain ⟨more, rfl⟩ := hcloses.unbroken.line_ends [] more rfl
      exact ⟨more, rfl⟩
  | case4 started c tail hfeed hrefused hopen =>
      intro interior rest hcloses
      obtain ⟨d, more, rfl⟩ := hcloses.exists_cons hopen
      obtain ⟨rfl, htail⟩ := List.cons.inj hcloses.text_eq
      refine not_unbroken_cons hrefused (fun behind hreturn hmore => ?_) hcloses.unbroken
      exact hfeed (behind ++ close ++ rest) hreturn (by rw [htail, hmore]; rfl)
  | case5 started c tail hfeed hlegal hopen ih =>
      obtain ⟨hreturn, hseparator⟩ : c ≠ '\r' ∧ isSeparator c = false := by
        simpa using hlegal
      refine FindsEnd.append [c] (List.cons_ne_nil c [])
        (fun _ => unbroken_cons_iff hreturn hseparator) ?_ ih
      intro interior rest hcloses
      obtain ⟨d, more, rfl⟩ := hcloses.exists_cons hopen
      obtain ⟨rfl, -⟩ := List.cons.inj hcloses.text_eq
      exact ⟨more, rfl⟩

end Scan

/-! ## One interpolation -/

/-- A gap, an interpolation with some interior, and what follows it. -/
def surround (d : Delimiters) (gap interior rest : List Char) : List Char :=
  gap ++ d.openText.toList ++ interior ++ d.closeText.toList ++ rest

/-- A text holds an interpolation. -/
def Occurs (d : Delimiters) (text : List Char) : Prop :=
  ∃ gap interior rest, text = surround d gap interior rest ∧ Legal interior

/-- The interpolation behind a gap is the first one of a text, and it has the
shortest interior among those that start at its place. -/
structure FirstMatch (d : Delimiters) (text gap interior rest : List Char) : Prop where
  text_eq : text = surround d gap interior rest
  legal : Legal interior
  leftmost : ∀ gap' interior' rest', text = surround d gap' interior' rest' → Legal interior' →
    gap.length ≤ gap'.length
  shortest : ∀ interior' rest', text = surround d gap interior' rest' → Legal interior' →
    interior.length ≤ interior'.length

section Matches

variable {d : Delimiters} {text gap interior rest : List Char}

@[simp] theorem surround_cons (c : Char) :
    surround d (c :: gap) interior rest = c :: surround d gap interior rest := rfl

/-- An interpolation at the start of a text is an interior that closes behind the
opening delimiter. -/
theorem eq_surround_nil_iff :
    (text = surround d [] interior rest ∧ Legal interior) ↔
      ∃ inside, dropStart? d.openText.toList text = some inside ∧
        Closes d.closeText.toList false inside interior rest := by
  simp only [dropStart?_eq_some_iff]
  constructor
  · rintro ⟨rfl, hlegal⟩
    refine ⟨interior ++ d.closeText.toList ++ rest, by simp [surround], rfl, hlegal.toUnbroken, ?_⟩
    exact fun _ => hlegal.ne_nil
  · rintro ⟨inside, rfl, rfl, hunbroken, hne⟩
    exact ⟨by simp [surround], hunbroken, hne rfl⟩

theorem firstMatch_of_matchHere? (hmatch : matchHere? d text = some (interior, rest)) :
    FirstMatch d text [] interior rest := by
  unfold matchHere? at hmatch
  split at hmatch
  · next inside hopen =>
      have hend := findsEnd_interior? d.closeText.toList false inside
      rw [hmatch] at hend
      obtain ⟨htext, hlegal⟩ := eq_surround_nil_iff.mpr ⟨inside, hopen, hend.1⟩
      refine ⟨htext, hlegal, fun _ _ _ _ _ => Nat.zero_le _, ?_⟩
      intro other behind hother hlegal'
      obtain ⟨inside', hopen', hcloses⟩ := eq_surround_nil_iff.mp ⟨hother, hlegal'⟩
      obtain rfl : inside = inside' := Option.some.inj (hopen.symm.trans hopen')
      exact hend.2 other behind hcloses
  · exact absurd hmatch (by simp)

theorem ne_surround_nil_of_matchHere? (hmatch : matchHere? d text = none)
    (hlegal : Legal interior) : text ≠ surround d [] interior rest := by
  intro htext
  obtain ⟨inside, hopen, hcloses⟩ := eq_surround_nil_iff.mp ⟨htext, hlegal⟩
  have hend := findsEnd_interior? d.closeText.toList false inside
  simp only [matchHere?, hopen] at hmatch
  rw [hmatch] at hend
  exact hend interior rest hcloses

/-- What a search for the first interpolation has to find. -/
def FindsFirst (d : Delimiters) (text : List Char) :
    Option (List Char × List Char × List Char) → Prop
  | none => ¬ Occurs d text
  | some (gap, interior, rest) => FirstMatch d text gap interior rest

/-- **The first interpolation is found.** -/
theorem findsFirst_splitFirst? (d : Delimiters) (text : List Char) :
    FindsFirst d text (splitFirst? d text) := by
  fun_induction splitFirst? d text with
  | case1 text interior rest hmatch => exact firstMatch_of_matchHere? hmatch
  | case2 hmatch =>
      rintro ⟨gap, interior, rest, htext, hlegal⟩
      cases gap with
      | nil => exact ne_surround_nil_of_matchHere? hmatch hlegal htext
      | cons c gap => exact absurd htext (by simp)
  | case3 c tail hmatch ih =>
      -- No interpolation starts here, so every one lies in the tail.
      have htail : ∀ {gap interior rest}, c :: tail = surround d gap interior rest →
          Legal interior → ∃ gap', gap = c :: gap' ∧ tail = surround d gap' interior rest := by
        intro gap interior rest htext hlegal
        cases gap with
        | nil => exact absurd htext (ne_surround_nil_of_matchHere? hmatch hlegal)
        | cons c' gap =>
            obtain ⟨rfl, hrest⟩ := List.cons.inj htext
            exact ⟨gap, rfl, hrest⟩
      cases hfound : splitFirst? d tail with
      | none =>
          rw [hfound] at ih
          rintro ⟨gap, interior, rest, htext, hlegal⟩
          obtain ⟨gap', -, htext'⟩ := htail htext hlegal
          exact ih ⟨gap', interior, rest, htext', hlegal⟩
      | some parts =>
          obtain ⟨gap, interior, rest⟩ := parts
          rw [hfound] at ih
          refine ⟨?_, ih.legal, ?_, ?_⟩
          · rw [surround_cons, ← ih.text_eq]
          · intro other interior' rest' htext hlegal
            obtain ⟨gap', rfl, htext'⟩ := htail htext hlegal
            have := ih.leftmost gap' interior' rest' htext' hlegal
            simpa using this
          · intro interior' rest' htext hlegal
            exact ih.shortest interior' rest' (List.cons.inj htext).2 hlegal

theorem FirstMatch.occurs (h : FirstMatch d text gap interior rest) : Occurs d text :=
  ⟨gap, interior, rest, h.text_eq, h.legal⟩

/-- A text has only one first interpolation. -/
theorem FirstMatch.unique {gap' interior' rest' : List Char}
    (h : FirstMatch d text gap interior rest) (h' : FirstMatch d text gap' interior' rest') :
    gap = gap' ∧ interior = interior' ∧ rest = rest' := by
  have hgap : gap.length = gap'.length :=
    Nat.le_antisymm (h.leftmost _ _ _ h'.text_eq h'.legal) (h'.leftmost _ _ _ h.text_eq h.legal)
  have htext : surround d gap interior rest = surround d gap' interior' rest' :=
    h.text_eq.symm.trans h'.text_eq
  simp only [surround, List.append_assoc] at htext
  obtain ⟨rfl, hopen⟩ := List.append_inj htext hgap
  have hinterior : interior.length = interior'.length :=
    Nat.le_antisymm (h.shortest _ _ h'.text_eq h'.legal) (h'.shortest _ _ h.text_eq h.legal)
  obtain ⟨rfl, hclose⟩ := List.append_inj (List.append_cancel_left hopen) hinterior
  exact ⟨rfl, rfl, List.append_cancel_left hclose⟩

end Matches

/-! ## All interpolations -/

/-- A text cut at interpolations. -/
inductive Cut where
  /-- What stands behind the last interpolation. -/
  | tail (text : List Char)
  /-- A gap, the interior of the interpolation behind it, and the cut of what
  follows. -/
  | piece (gap interior : List Char) (rest : Cut)

/-- The literal of a gap or a tail; an empty one has none. -/
def literals (text : List Char) : List Token :=
  if text = [] then [] else [.literal (String.ofList text)]

namespace Cut

/-- The text that is cut. -/
def text (d : Delimiters) : Cut → List Char
  | tail text => text
  | piece gap interior rest => surround d gap interior (rest.text d)

/-- The tokens of the gaps, the interiors and the tail, in their order. -/
def tokens : Cut → List Token
  | tail text => literals text
  | piece gap interior rest =>
      literals gap ++ .binding (Filter.compile (trim (String.ofList interior))) :: rest.tokens

/-- Each interpolation is the first one behind the one before it, and none is
left in the tail. -/
def LeftmostShortest (d : Delimiters) : Cut → Prop
  | tail text => ¬ Occurs d text
  | piece gap interior rest =>
      FirstMatch d (surround d gap interior (rest.text d)) gap interior (rest.text d) ∧
        rest.LeftmostShortest d

/-- There is only one way to cut a text leftmost and shortest. -/
theorem LeftmostShortest.unique {d : Delimiters} {cut other : Cut} (hcut : cut.LeftmostShortest d)
    (hother : other.LeftmostShortest d) (htext : cut.text d = other.text d) : cut = other := by
  induction cut generalizing other with
  | tail text =>
      cases other with
      | tail text' => exact congrArg tail htext
      | piece gap interior rest =>
          obtain rfl : text = surround d gap interior (rest.text d) := htext
          exact absurd hother.1.occurs hcut
  | piece gap interior rest ih =>
      cases other with
      | tail text =>
          obtain rfl : surround d gap interior (rest.text d) = text := htext
          exact absurd hcut.1.occurs hother
      | piece gap' interior' rest' =>
          have hfirst : FirstMatch d (surround d gap interior (rest.text d)) gap' interior'
              (rest'.text d) := by
            rw [show surround d gap interior (rest.text d) = _ from htext]
            exact hother.1
          obtain ⟨rfl, rfl, hrest⟩ := hcut.1.unique hfirst
          rw [ih hcut.2 hother.2 hrest]

end Cut

theorem gapTokens_eq_literals (text : List Char) : gapTokens text = literals text := by
  simp only [gapTokens, literals, List.isEmpty_iff]

theorem bindingToken_eq (interior : List Char) :
    bindingToken interior = .binding (Filter.compile (trim (String.ofList interior))) := by
  rw [bindingToken, trim, String.toList_ofList]

/-- The tokens of a text are those of a leftmost and shortest cut. -/
theorem exists_cut_tokenize (d : Delimiters) (text : List Char) :
    ∃ cut : Cut, cut.text d = text ∧ cut.LeftmostShortest d ∧ tokenize d text = cut.tokens := by
  fun_induction tokenize d text with
  | case1 text hnone =>
      have hfound := findsFirst_splitFirst? d text
      rw [hnone] at hfound
      exact ⟨.tail text, rfl, hfound, gapTokens_eq_literals text⟩
  | case2 text gap interior rest hsome ih =>
      have hfound := findsFirst_splitFirst? d text
      rw [hsome] at hfound
      obtain ⟨cut, rfl, hcut, htokens⟩ := ih
      refine ⟨.piece gap interior cut, hfound.text_eq.symm, ⟨?_, hcut⟩, ?_⟩
      · rw [← hfound.text_eq]
        exact hfound
      · rw [gapTokens_eq_literals, bindingToken_eq, htokens, Cut.tokens]

/-- **Parsing takes the interpolations leftmost and shortest and loses nothing.**
A text has none exactly if no part of it is an opening delimiter, a legal
interior and a closing delimiter.  Otherwise there is exactly one way to cut it
into gaps and interpolations, each of which starts as early as possible behind
the one before it and is as short as possible there, and its tokens are the
literals of the gaps that are not empty and the bindings of the interiors. -/
theorem parse?_leftmost_shortest (text : String) (delimiters : Option Delimiters) :
    (parse? text delimiters = none ↔ ¬ Occurs (delimiters.getD .standard) text.toList) ∧
      ∀ parsed, parse? text delimiters = some parsed →
        (∃! cut : Cut, cut.text (delimiters.getD .standard) = text.toList ∧
          cut.LeftmostShortest (delimiters.getD .standard)) ∧
        ∀ cut : Cut, cut.text (delimiters.getD .standard) = text.toList →
          cut.LeftmostShortest (delimiters.getD .standard) → parsed.tokens = cut.tokens := by
  have hfound := findsFirst_splitFirst? (delimiters.getD .standard) text.toList
  obtain ⟨cut, htext, hcut, htokens⟩ := exists_cut_tokenize (delimiters.getD .standard) text.toList
  have hunique : ∀ other : Cut, other.text (delimiters.getD .standard) = text.toList →
      other.LeftmostShortest (delimiters.getD .standard) → other = cut :=
    fun other hother hleftmost => hleftmost.unique hcut (hother.trans htext.symm)
  simp only [parse?]
  cases hsplit : splitFirst? (delimiters.getD .standard) text.toList with
  | none =>
      rw [hsplit] at hfound
      exact ⟨iff_of_true rfl hfound, nofun⟩
  | some parts =>
      rw [hsplit] at hfound
      refine ⟨iff_of_false nofun (not_not_intro hfound.occurs), ?_⟩
      intro parsed hparsed
      obtain rfl := Option.some.inj hparsed
      refine ⟨⟨cut, ⟨htext, hcut⟩, fun other hother => hunique other hother.1 hother.2⟩, ?_⟩
      intro other hother hleftmost
      rw [hunique other hother hleftmost]
      exact htokens

end Stencil.Interpolation
