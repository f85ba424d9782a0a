import Mathlib.Data.List.Infix
import Stencil.Proofs.Filter.Reading

/-!
# Compiled expressions hold no pipes

Compiling an expression puts its base inside one call per filter, and what was a
segment behind a pipe becomes the end of a call.  This file proves that a second
pass over the result finds nothing to cut, so that compiling is idempotent.

The proof follows the nesting from the inside out.

* `Closed cs`: read anywhere inside parentheses, the text gives no cut and leaves
  as many open as there were.  The base is closed (`closed_trimChars`), because
  its own parentheses are never closed below the level it starts at.
* `Closed.wrap`: a filter around a closed text gives a closed text.  Its arguments
  are read as in the segment they come from, some parentheses deeper.
* The last filter is the outermost call.  Its arguments are read at the depth
  they had, so what keeps them whole is that no pipe separated there before.
-/

namespace Stencil.Filter

open Text

/-! ## Parentheses that are closed were opened -/

/-- At no point of the pass are more parentheses closed than opened. -/
def NeverOvercloses (s : Scan) (cs : List Char) : Prop :=
  ∀ before, before <+: cs → 0 ≤ (s.run before).paren

theorem neverOvercloses_cons_iff {s : Scan} {c : Char} {cs : List Char} :
    NeverOvercloses s (c :: cs) ↔ 0 ≤ s.paren ∧ NeverOvercloses (s.step c) cs := by
  constructor
  · intro h
    refine ⟨h [] List.nil_prefix, fun before hbefore => ?_⟩
    exact h (c :: before) (List.cons_prefix_cons.mpr ⟨rfl, hbefore⟩)
  · rintro ⟨hhere, hbehind⟩ before hbefore
    rcases List.prefix_cons_iff.mp hbefore with rfl | ⟨behind, rfl, hbehind'⟩
    · exact hhere
    · exact hbehind behind hbehind'

theorem NeverOvercloses.infix {s : Scan} {first second third : List Char}
    (h : NeverOvercloses s (first ++ second ++ third)) : NeverOvercloses (s.run first) second := by
  intro before hbefore
  rw [← Scan.run_append]
  refine h (first ++ before) ?_
  rw [List.append_assoc, List.prefix_append_right_inj]
  exact hbefore.trans (List.prefix_append ..)

theorem Scan.Nested.whole_of_pos {depth : Int} {s t : Scan} (h : s.Nested depth t)
    (hdepth : 0 < depth) {cs : List Char} (hcs : NeverOvercloses s cs) : Whole t cs := by
  refine whole_of_paren_pos fun before hbefore => ?_
  have hparen := hcs before hbefore
  rw [(h.run before).paren]
  omega

/-! ## The segments of a pass -/

/-- Segments as a pass leaves them behind: those in front of a cut end at top
level, and the last one is whole. -/
def CutInto (s : Scan) (first : List Char) : List (List Char) → Prop
  | [] => Whole s first
  | next :: rest =>
      NeverOvercloses s first ∧ (s.run first).Inside 0 ∧ CutInto ((s.run first).step '|') next rest

theorem cutInto_splitPipes {s : Scan} {cs : List Char} (hcs : NeverOvercloses s cs) :
    CutInto s (splitPipes s cs).1 (splitPipes s cs).2 := by
  induction cs generalizing s with
  | nil => exact rfl
  | cons c cs ih =>
      obtain ⟨hparen, hcs⟩ := neverOvercloses_cons_iff.mp hcs
      have hrest := ih hcs
      cases hcuts : s.cuts c cs with
      | true =>
          obtain rfl := s.eq_pipe_of_cuts hcuts
          have htop := ((Scan.cuts_pipe_iff s cs).mp hcuts).2.2
          have hnil : NeverOvercloses s [] := by
            intro before hbefore
            rwa [List.prefix_nil.mp hbefore]
          simp only [splitPipes, hcuts, if_true]
          exact ⟨hnil, (Scan.atTopLevel_iff_inside s).mp htop, hrest⟩
      | false =>
          simp only [splitPipes, hcuts]
          cases hsegments : (splitPipes (s.step c) cs).2 with
          | nil =>
              have hwhole := whole_of_snd_eq_nil hsegments
              have hfirst : (splitPipes (s.step c) cs).1 = cs := congrArg Prod.fst hwhole
              simp only [Bool.false_eq_true, if_false, hfirst]
              exact whole_cons_iff.mpr ⟨hcuts, hwhole⟩
          | cons next rest =>
              rw [hsegments] at hrest
              simp only [Bool.false_eq_true, if_false]
              exact ⟨neverOvercloses_cons_iff.mpr ⟨hparen, hrest.1⟩, hrest.2⟩

/-! ## The text of a call -/

/-- A call up to the expression that the filter is applied to. -/
def callHead (name : List Char) : List Char :=
  '_' :: 'f' :: '(' :: (quoted .double name ++ [')', '('])

/-- A call behind the expression that the filter is applied to. -/
def callTail : Option String → List Char
  | none => [')']
  | some args => if args = ")" then [')'] else ',' :: args.toList

theorem toList_wrap (call : Call) (exp : String) :
    (call.wrap exp).toList = callHead call.name.toList ++ (exp.toList ++ callTail call.args) := by
  obtain ⟨name, args⟩ := call
  have hopening : "(\"".toList = ['(', '"'] := rfl
  have hclosing : "\")(".toList = ['"', ')', '('] := rfl
  have hhelper : resolveHelper.toList = ['_', 'f'] := rfl
  have hmark : Quote.double.mark = '"' := rfl
  cases args with
  | none =>
      simp [Call.wrap, callHead, callTail, quoted, hopening, hclosing, hhelper, hmark]
  | some args =>
      by_cases hargs : args = ")" <;>
        simp [Call.wrap, callHead, callTail, quoted, hargs, hopening, hclosing, hhelper, hmark]

theorem Scan.Inside.nested_run_callHead {depth : Int} {s : Scan} (h : s.Inside depth)
    {name : List Char} (hname : ∀ c ∈ name, isPlain c = true) :
    Scan.start.Nested (depth + 1) (s.run (callHead name)) := by
  have hlast : name.getLast? ≠ some '\\' := by
    intro heq
    exact absurd (hname _ (List.mem_of_getLast? heq)) (by decide)
  have hhelper : ((s.step '_').step 'f').Inside depth :=
    (inside_step_iff (by decide)).mpr ((inside_step_iff (by decide)).mpr h)
  have hopening : (((s.step '_').step 'f').step '(').Inside (depth + 1) := by
    simpa using hhelper.nested_step_opening.inside inside_start
  have hcontents : Contents (fun _ => True) .double name := contents_of_isPlain hname
  have hquoted := (hopening.run_quoted hcontents hlast).1
  rw [callHead, run_cons, run_cons, run_cons, run_append]
  exact hquoted.step_closing.nested_step_opening

theorem whole_callHead {name : List Char} (hname : ∀ c ∈ name, isPlain c = true) (s : Scan) :
    Whole s (callHead name) := by
  refine whole_of_not_mem ?_ s
  have hpipe : '|' ∉ name := fun hmem => absurd (hname _ hmem) (by decide)
  simp [callHead, quoted, Quote.mark, hpipe]

/-! ## The end of a call is the end of a segment -/

theorem ofSpec_cases (spec : List Char) :
    Call.ofSpec spec = ⟨String.ofList spec, none⟩ ∨
      ∃ name args, spec = name ++ '(' :: args ∧
        Call.ofSpec spec = ⟨String.ofList name, some (String.ofList args)⟩ := by
  unfold Call.ofSpec
  cases hsplit : splitFirst? '(' spec with
  | none => exact Or.inl rfl
  | some parts =>
      exact Or.inr ⟨parts.1, parts.2, (splitFirst?_eq_some_iff.mp hsplit).1, rfl⟩

/-- Behind the expression, a call is closed, or goes on with the text behind the
first parenthesis of its segment.  There the pass over the segment was in a
state like that at the start, inside one parenthesis. -/
theorem callTail_cases {s : Scan} (hs : s.Inside 0) {segment : List Char}
    (hname : ∀ c ∈ (Call.ofSpec (trimChars segment)).name.toList, isPlain c = true) :
    callTail (Call.ofSpec (trimChars segment)).args = [')'] ∨
      ∃ front args trail, segment = front ++ args ++ trail ∧ (∀ c ∈ trail, isBlank c = true) ∧
        Scan.start.Nested 1 (s.run front) ∧
        callTail (Call.ofSpec (trimChars segment)).args = ',' :: args := by
  rcases ofSpec_cases (trimChars segment) with hspec | ⟨name, args, hsplit, hspec⟩
  · rw [hspec]
    exact Or.inl rfl
  · rw [hspec, String.toList_ofList] at hname
    rw [hspec, callTail]
    by_cases hargs : String.ofList args = ")"
    · exact Or.inl (if_pos hargs)
    · obtain ⟨lead, trail, heq, hlead, htrail⟩ := exists_trimChars segment
      refine Or.inr ⟨lead ++ name ++ ['('], args, trail, ?_, htrail, ?_, ?_⟩
      · rw [hsplit] at heq
        simpa using heq
      · have hplain : ∀ c ∈ lead ++ name, isPlain c = true := by
          intro c hc
          rcases List.mem_append.mp hc with hc | hc
          · exact isPlain_of_isBlank (hlead c hc)
          · exact hname c hc
        rw [Scan.run_append]
        exact ((Scan.inside_run_iff hplain).mpr hs).nested_step_opening
      · rw [if_neg hargs, String.toList_ofList]

/-! ## Closed texts -/

/-- Read inside parentheses, the text gives no cut and leaves as many open as
there were. -/
def Closed (cs : List Char) : Prop :=
  ∀ (depth : Int) (t : Scan), 0 < depth → Scan.start.Nested depth t →
    Whole t cs ∧ (t.run cs).Inside depth

theorem closed_trimChars {cs : List Char} (hover : NeverOvercloses Scan.start cs)
    (hend : (Scan.start.run cs).Inside 0) : Closed (trimChars cs) := by
  intro depth t hdepth ht
  obtain ⟨lead, trail, heq, hlead, htrail⟩ := exists_trimChars cs
  have hnested : (Scan.start.run lead).Nested depth t :=
    .of_common ((Scan.Nested.refl _).run_of_isBlank hlead) (by rwa [Int.zero_add])
  rw [heq] at hover hend
  rw [Scan.run_append, Scan.run_append,
    Scan.inside_run_iff fun c hc => isPlain_of_isBlank (htrail c hc)] at hend
  refine ⟨hnested.whole_of_pos hdepth hover.infix, ?_⟩
  simpa using (hnested.run (trimChars cs)).inside hend

section Wrapping

variable {exp : String} {s : Scan} {segment : List Char}

/-- The pass over a call up to the end of the expression inside it. -/
theorem Closed.run_callHead (hexp : Closed exp.toList) {name : List Char}
    (hname : ∀ c ∈ name, isPlain c = true) {depth : Int} {t : Scan} (hdepth : 0 ≤ depth)
    (ht : t.Inside depth) :
    Whole t (callHead name ++ exp.toList) ∧
      (t.run (callHead name ++ exp.toList)).Inside (depth + 1) := by
  obtain ⟨hwhole, hinside⟩ := hexp (depth + 1) _ (by omega) (ht.nested_run_callHead hname)
  rw [Scan.run_append]
  exact ⟨(whole_callHead hname t).append hwhole, hinside⟩

theorem Closed.wrap (hexp : Closed exp.toList) (hs : s.Inside 0)
    (hname : ∀ c ∈ (Call.ofSpec (trimChars segment)).name.toList, isPlain c = true)
    (hover : NeverOvercloses s segment) (hend : (s.run segment).Inside 0) :
    Closed ((Call.ofSpec (trimChars segment)).wrap exp).toList := by
  intro depth t hdepth ht
  have htop : t.Inside depth := by simpa using ht.inside Scan.inside_start
  obtain ⟨hwhole, hinside⟩ := hexp.run_callHead hname (Int.le_of_lt hdepth) htop
  rw [toList_wrap, ← List.append_assoc, Scan.run_append]
  rcases callTail_cases hs hname with htail | ⟨front, args, trail, rfl, htrail, hfront, htail⟩
  · rw [htail]
    exact ⟨hwhole.append (whole_of_not_mem (by decide) _), hinside.step_closing⟩
  · have hnested := Scan.Nested.of_common hfront
      ((Int.add_comm depth 1) ▸ hinside.nested_step_comma)
    rw [Scan.run_append, Scan.run_append,
      Scan.inside_run_iff fun c hc => isPlain_of_isBlank (htrail c hc)] at hend
    have hargs : Whole _ args := hnested.whole_of_pos hdepth hover.infix
    rw [htail, Scan.run_cons]
    refine ⟨hwhole.append (whole_cons_iff.mpr ⟨Scan.cuts_of_ne_pipe (by decide) _ _, hargs⟩), ?_⟩
    simpa using (hnested.run args).inside hend

/-- The outermost call holds no separating pipe if its segment held none. -/
theorem Closed.whole_wrap (hexp : Closed exp.toList) (hs : s.Inside 0)
    (hname : ∀ c ∈ (Call.ofSpec (trimChars segment)).name.toList, isPlain c = true)
    (hsegment : Whole s segment) :
    Whole Scan.start ((Call.ofSpec (trimChars segment)).wrap exp).toList := by
  obtain ⟨hwhole, hinside⟩ := hexp.run_callHead hname (Int.le_refl 0) Scan.inside_start
  rw [toList_wrap, ← List.append_assoc]
  refine hwhole.append ?_
  rcases callTail_cases hs hname with htail | ⟨front, args, trail, rfl, htrail, hfront, htail⟩
  · rw [htail]
    exact whole_of_not_mem (by decide) _
  · have hnested : Scan.Nested 0 (s.run front) _ := .of_common hfront hinside.nested_step_comma
    rw [htail]
    refine whole_cons_iff.mpr ⟨Scan.cuts_of_ne_pipe (by decide) _ _, ?_⟩
    exact hnested.whole_iff.mpr (Whole.right (hsegment.left_of_isBlank htrail))

theorem trimmed_wrap (exp : String) (segment : List Char) :
    Trimmed ((Call.ofSpec (trimChars segment)).wrap exp).toList where
  head := by
    intro c hhead
    obtain rfl : '_' = c := by simpa [toList_wrap, callHead] using hhead
    rfl
  last := by
    intro c hlast
    rw [toList_wrap, List.getLast?_append, List.getLast?_append] at hlast
    rcases ofSpec_cases (trimChars segment) with hspec | ⟨name, args, hsplit, hspec⟩
    · obtain rfl : ')' = c := by simpa [hspec, callTail] using hlast
      rfl
    · rw [hspec, callTail] at hlast
      split_ifs at hlast with hargs
      · obtain rfl : ')' = c := by simpa using hlast
        rfl
      · rw [String.toList_ofList] at hlast
        cases args with
        | nil =>
            obtain rfl : ',' = c := by simpa using hlast
            rfl
        | cons d args =>
            -- the arguments end where the segment ends, and that is trimmed
            refine (trimmed_trimChars segment).last c ?_
            rw [hsplit, List.getLast?_append]
            simpa [List.getLast?_cons] using hlast

end Wrapping

/-! ## The whole expression -/

/-- The code of some segments behind a closed text. -/
theorem whole_foldl_wrap {exp : String} (hexp : Closed exp.toList) {s : Scan} (hs : s.Inside 0)
    {first : List Char} {rest : List (List Char)} (hcut : CutInto s first rest)
    (hnames : ∀ segment ∈ first :: rest,
      ∀ c ∈ (Call.ofSpec (trimChars segment)).name.toList, isPlain c = true) :
    Whole Scan.start ((first :: rest).foldl
      (fun exp segment => (Call.ofSpec (trimChars segment)).wrap exp) exp).toList := by
  induction rest generalizing exp s first with
  | nil => exact hexp.whole_wrap hs (hnames first (List.mem_cons_self ..)) hcut
  | cons next rest ih =>
      obtain ⟨hover, hend, hcut⟩ := hcut
      rw [List.forall_mem_cons] at hnames
      exact ih (hexp.wrap hs hnames.1 hover hend) hend.step_pipe hcut hnames.2

theorem compile_eq_foldl (exp : String) :
    compile exp = (splitPipes Scan.start exp.toList).2.foldl
      (fun exp segment => (Call.ofSpec (trimChars segment)).wrap exp)
      (String.ofList (trimChars (splitPipes Scan.start exp.toList).1)) := by
  simp only [compile, Pipeline.source, Pipeline.parse, List.foldl_map]

theorem whole_trimChars {cs : List Char} (h : Whole Scan.start cs) :
    Whole Scan.start (trimChars cs) := by
  obtain ⟨lead, trail, heq, hlead, htrail⟩ := exists_trimChars cs
  rw [heq] at h
  exact ((Scan.Nested.refl _).run_of_isBlank hlead).whole_iff.mp (h.left_of_isBlank htrail).right

theorem whole_compile {exp : String} (hover : NeverOvercloses Scan.start exp.toList)
    (hnames : ∀ call ∈ (Pipeline.parse exp).filters, ∀ c ∈ call.name.toList, isPlain c = true) :
    Whole Scan.start (compile exp).toList := by
  have hcut := cutInto_splitPipes hover
  have hsegments : ∀ segment ∈ (splitPipes Scan.start exp.toList).2,
      ∀ c ∈ (Call.ofSpec (trimChars segment)).name.toList, isPlain c = true := by
    intro segment hsegment
    exact hnames _ (List.mem_map_of_mem hsegment)
  rw [compile_eq_foldl]
  cases hrest : (splitPipes Scan.start exp.toList).2 with
  | nil =>
      rw [hrest] at hcut
      rw [List.foldl_nil, String.toList_ofList]
      exact whole_trimChars hcut
  | cons next rest =>
      rw [hrest] at hcut hsegments
      obtain ⟨hbase, hend, hcut⟩ := hcut
      refine whole_foldl_wrap ?_ hend.step_pipe hcut hsegments
      rw [String.toList_ofList]
      exact closed_trimChars hbase hend

theorem trimmed_compile (exp : String) : Trimmed (compile exp).toList := by
  rw [compile_eq_foldl]
  generalize (splitPipes Scan.start exp.toList).2 = segments
  cases segments using List.reverseRecOn with
  | nil =>
      rw [List.foldl_nil, String.toList_ofList]
      exact trimmed_trimChars _
  | append_singleton segments last =>
      rw [List.foldl_append]
      exact trimmed_wrap _ last

/-- Only blanks compile to nothing. -/
theorem compile_eq_empty_iff {exp : String} :
    compile exp = "" ↔ ∀ c ∈ exp.toList, isBlank c = true := by
  constructor
  · intro hempty
    have hnil : (compile exp).toList = [] := by rw [hempty, String.toList_empty]
    rw [compile_eq_foldl] at hnil
    cases hsegments : (splitPipes Scan.start exp.toList).2 using List.reverseRecOn with
    | nil =>
        have hfirst : (splitPipes Scan.start exp.toList).1 = exp.toList :=
          congrArg Prod.fst (whole_of_snd_eq_nil hsegments)
        rw [hsegments, List.foldl_nil, String.toList_ofList, hfirst] at hnil
        exact trimChars_eq_nil_iff.mp hnil
    | append_singleton segments last =>
        -- the last filter is a call, and that is never empty
        rw [hsegments, List.foldl_append, List.foldl_cons, List.foldl_nil,
          toList_wrap] at hnil
        exact nomatch hnil
  · intro hblank
    have hwhole : Whole Scan.start exp.toList :=
      whole_of_not_mem (fun hpipe => absurd (hblank '|' hpipe) (by decide)) _
    rw [compile, parse_eq_trim_iff.mpr hwhole, Pipeline.source, List.foldl_nil, trim,
      trimChars_eq_nil_iff.mpr hblank, String.ofList_nil]

/-- The characters of a filter name: ASCII letters and digits, `_` and `$`. -/
def isNameChar (c : Char) : Bool :=
  c.isAlphanum || c == '_' || c == '$'

theorem isPlain_of_isNameChar {c : Char} (hname : isNameChar c = true) : isPlain c = true := by
  have hend : endsOperand c = true := by
    simp only [isNameChar, Bool.or_eq_true, beq_iff_eq] at hname
    rcases hname with (halpha | rfl) | rfl
    · rw [endsOperand, halpha, Bool.true_or]
    · rfl
    · rfl
  exact ascii_forall (p := fun c => isNameChar c = true → isPlain c = true) (by decide)
    (lt_of_endsOperand hend) hname

/-- **A compiled expression is stable.**  If the expression never closes more
parentheses than it has opened, and its filters have names of letters, digits,
`_` and `$`, then the compiled expression is its own base and has no filters, so
that compiling it again changes nothing.  Brackets and braces need not match. -/
theorem compile_stable (exp : String)
    (hparen : ∀ before, before <+: exp.toList → 0 ≤ (Scan.start.run before).paren)
    (hnames : ∀ call ∈ (Pipeline.parse exp).filters,
      ∀ c ∈ call.name.toList, isNameChar c = true) :
    Pipeline.parse (compile exp) = ⟨compile exp, []⟩ ∧ compile (compile exp) = compile exp := by
  have hwhole : Whole Scan.start (compile exp).toList :=
    whole_compile hparen fun call hcall c hc => isPlain_of_isNameChar (hnames call hcall c hc)
  have hparse : Pipeline.parse (compile exp) = ⟨compile exp, []⟩ := by
    rw [parse_eq_trim_iff.mpr hwhole, trim, (trimmed_compile exp).trimChars_eq, String.ofList_toList]
  refine ⟨hparse, ?_⟩
  calc compile (compile exp)
      = (Pipeline.parse (compile exp)).source := rfl
    _ = compile exp := by rw [hparse, Pipeline.source, List.foldl_nil]

theorem compile_stable_nested :
    compile "(a || b) | f | g('|', x) | h" = "_f(\"h\")(_f(\"g\")(_f(\"f\")((a || b)),'|', x))" ∧
      compile (compile "(a || b) | f | g('|', x) | h") = compile "(a || b) | f | g('|', x) | h" := by
  have hparen : ∀ before ∈ "(a || b) | f | g('|', x) | h".toList.inits,
      0 ≤ (Scan.start.run before).paren := by decide
  have hnames : (Pipeline.parse "(a || b) | f | g('|', x) | h").filters.all fun call =>
      call.name.toList.all isNameChar := by decide
  refine ⟨by decide, (compile_stable "(a || b) | f | g('|', x) | h" ?_ ?_).2⟩
  · exact fun before hbefore => hparen before ((List.mem_inits before _).mpr hbefore)
  · exact fun call hcall => List.all_eq_true.mp (List.all_eq_true.mp hnames call hcall)

end Stencil.Filter
