import Stencil.Proofs.Filter.Reading

/-!
# Pipes compose

An expression with one more filter behind it, `a | b`, is read as the expression
`a` and then `b`, as if each were read alone.  Three facts carry this.

* `ofText_append`: the segments of two texts in a row are those of the two
  texts, except that the last one of the first text goes on in the second.
* `Scan.Inside.nested_step_pipe`: behind a separating pipe and a blank, a pass is
  in a state that reads like the one at the start.
* Trimming takes away the blanks around the pipe.
-/

namespace Stencil.Filter

open Text

/-! ## The segments of two texts in a row -/

namespace Segments

/-- Segments with more of them behind: the last one goes on in the first one of
the others. -/
def append (first : String) (more : Segments) : List String → Segments
  | [] => ⟨first ++ more.first, more.rest⟩
  | next :: rest => ⟨first, (append next more rest).first :: (append next more rest).rest⟩

theorem append_append (text first : String) (more : Segments) (rest : List String) :
    append (text ++ first) more rest =
      ⟨text ++ (append first more rest).first, (append first more rest).rest⟩ := by
  cases rest with
  | nil => simp only [append, String.append_assoc]
  | cons next rest => rfl

theorem ofText_append (s : Scan) (xs : List Char) {ys : List Char} (hys : ys.head? ≠ some '|') :
    ofText s (xs ++ ys) = append (ofText s xs).first (ofText (s.run xs) ys) (ofText s xs).rest := by
  induction xs generalizing s with
  | nil => simp [ofText, splitPipes, append]
  | cons c xs ih =>
      have hcuts := s.cuts_append c xs hys
      rw [List.cons_append, Scan.run_cons]
      cases h : s.cuts c xs with
      | true =>
          rw [ofText_cons_of_cuts (hcuts.trans h), ofText_cons_of_cuts h, ih (s.step c)]
          rfl
      | false =>
          rw [ofText_cons_of_not_cuts (hcuts.trans h), ofText_cons_of_not_cuts h, ih (s.step c),
            append_append]

/-- A blank behind the last segment is trimmed away. -/
theorem pipeline_append_blank (first : String) (rest more : List String) :
    (append first ⟨" ", more⟩ rest).pipeline =
      ⟨trim first, rest.map filter ++ more.map filter⟩ := by
  induction rest generalizing first with
  | nil => simp [append, pipeline, trim_append_blank]
  | cons next rest ih =>
      obtain ⟨hbase, hfilters⟩ := Pipeline.mk.inj (ih next)
      have hnext : filter (append next ⟨" ", more⟩ rest).first = filter next := by
        rw [filter, hbase, filter]
      simp only [append, pipeline, List.map_cons, hnext, hfilters, List.cons_append]

end Segments

/-! ## Behind a separating pipe -/

theorem Scan.Inside.nested_step_pipe {s : Scan} (h : s.Inside 0) :
    Scan.start.Nested 0 (((s.step ' ').step '|').step ' ') := by
  have hblank : (s.step ' ').Inside 0 := (inside_step_iff (by decide)).mpr h
  refine Inside.nested_start ((inside_step_iff (by decide)).mpr hblank.step_pipe) ?_ ?_ rfl
  · exact fun heq => absurd (Option.some.inj heq) (by decide)
  · exact fun heq => absurd (Option.some.inj heq) (by decide)

theorem ofText_pipe {s : Scan} (h : s.Inside 0) (cs : List Char) :
    Segments.ofText s (" | ".toList ++ cs) =
      ⟨" ", (" " ++ (Segments.ofText Scan.start cs).first) ::
        (Segments.ofText Scan.start cs).rest⟩ := by
  have hblank : (s.step ' ').Inside 0 := (Scan.inside_step_iff (by decide)).mpr h
  have hcuts : (s.step ' ').cuts '|' (' ' :: cs) = true := by
    rw [Scan.cuts_pipe_iff, Scan.atTopLevel_iff_inside]
    exact ⟨by simp, by simp, hblank⟩
  have hrest : Segments.ofText (((s.step ' ').step '|').step ' ') cs =
      Segments.ofText Scan.start cs := by
    rw [Segments.ofText, Segments.ofText, h.nested_step_pipe.splitPipes_eq cs]
  change Segments.ofText s (' ' :: '|' :: ' ' :: cs) = _
  rw [Segments.ofText_cons_of_not_cuts (s.cuts_of_ne_pipe (by decide) _),
    Segments.ofText_cons_of_cuts hcuts,
    Segments.ofText_cons_of_not_cuts (Scan.cuts_of_ne_pipe (by decide) _ _), hrest,
    String.append_empty]
  rfl

theorem parse_append_pipe {a : String} (htop : (Scan.start.run a.toList).atTopLevel = true)
    (b : String) :
    Pipeline.parse (a ++ " | " ++ b) =
      ⟨(Pipeline.parse a).base, (Pipeline.parse a).filters ++
        Call.ofSpec (Pipeline.parse b).base.toList :: (Pipeline.parse b).filters⟩ := by
  have hinside := (Scan.atTopLevel_iff_inside _).mp htop
  have hhead : (" | ".toList ++ b.toList).head? ≠ some '|' := by
    change some ' ' ≠ some '|'
    decide
  rw [← Segments.pipeline_ofText, ← Segments.pipeline_ofText a, ← Segments.pipeline_ofText b,
    String.toList_append, String.toList_append, List.append_assoc,
    Segments.ofText_append _ _ hhead, ofText_pipe hinside, Segments.pipeline_append_blank]
  simp only [Segments.pipeline, Segments.filter, List.map_cons, trim_blank_append]

theorem atTopLevel_append_pipe {a b : String} (ha : (Scan.start.run a.toList).atTopLevel = true)
    (hb : (Scan.start.run b.toList).atTopLevel = true) :
    (Scan.start.run (a ++ " | " ++ b).toList).atTopLevel = true := by
  rw [Scan.atTopLevel_iff_inside] at ha hb ⊢
  rw [String.toList_append, String.toList_append, Scan.run_append, Scan.run_append]
  exact (ha.nested_step_pipe.run b.toList).inside hb

/-! ## Chains -/

theorem whole_of_forall_not_topLevelPipe {b : String}
    (hpipe : ∀ i, ¬ TopLevelPipe b.toUTF8.data.toList i) : Whole Scan.start b.toList := by
  rw [whole_iff_forall_cuts]
  intro before c after heq
  by_contra hcuts
  have hcuts : (Scan.start.run before).cuts c after = true := Bool.of_not_eq_false hcuts
  obtain rfl := Scan.eq_pipe_of_cuts _ hcuts
  refine hpipe (utf8 before).length ?_
  rw [bytes_toUTF8, topLevelPipe_utf8_iff]
  exact ⟨before, after, heq, rfl, hcuts⟩

theorem compile_append_pipe {a b : String} (htop : (Scan.start.run a.toList).atTopLevel = true)
    (hpipe : ∀ i, ¬ TopLevelPipe b.toUTF8.data.toList i) :
    compile (a ++ " | " ++ b) = (Segments.filter b).wrap (compile a) := by
  have hb := parse_eq_trim_iff.mpr (whole_of_forall_not_topLevelPipe hpipe)
  simp only [compile, parse_append_pipe htop, hb, Pipeline.source, List.foldl_append,
    List.foldl_cons, List.foldl_nil, Segments.filter]

/-- An expression with filters written behind it, each behind a pipe. -/
def chain (a : String) (specs : List String) : String :=
  specs.foldl (fun exp spec => exp ++ " | " ++ spec) a

theorem compile_chain {a : String} {specs : List String}
    (htop : (Scan.start.run a.toList).atTopLevel = true)
    (hpipe : ∀ spec ∈ specs, ∀ i, ¬ TopLevelPipe spec.toUTF8.data.toList i)
    (hinner : ∀ spec ∈ specs.dropLast, (Scan.start.run spec.toList).atTopLevel = true) :
    compile (chain a specs) =
      specs.foldl (fun exp spec => (Segments.filter spec).wrap exp) (compile a) := by
  induction specs generalizing a with
  | nil => rfl
  | cons spec specs ih =>
      have hspec := compile_append_pipe htop (hpipe spec (List.mem_cons_self ..))
      rw [List.foldl_cons, ← hspec]
      cases specs with
      | nil => rfl
      | cons next specs =>
          rw [List.dropLast_cons_cons, List.forall_mem_cons] at hinner
          exact ih (atTopLevel_append_pipe htop hinner.1)
            (fun other hother => hpipe other (List.mem_cons_of_mem _ hother)) hinner.2

/-- **Pipes compose.**  Behind an expression that ends at top level, `a | b` has
the base and the filters of `a`, then the filter that the base of `b` specifies,
then the filters of `b`.  So if `b` has no top-level pipe it is applied to the
code of `a`, and in a chain of filters each is applied to the code of all that
stands before it: the rightmost one is the outermost call. -/
theorem pipes_compose (a b : String) (htop : (Scan.start.run a.toList).atTopLevel = true) :
    Pipeline.parse (a ++ " | " ++ b) =
      ⟨(Pipeline.parse a).base, (Pipeline.parse a).filters ++
        [Call.ofSpec (Pipeline.parse b).base.toList] ++ (Pipeline.parse b).filters⟩ ∧
    ((∀ i, ¬ TopLevelPipe b.toUTF8.data.toList i) →
      compile (a ++ " | " ++ b) = (Call.ofSpec (trim b).toList).wrap (compile a)) ∧
    ∀ specs : List String,
      (∀ spec ∈ specs, ∀ i, ¬ TopLevelPipe spec.toUTF8.data.toList i) →
      (∀ spec ∈ specs.dropLast, (Scan.start.run spec.toList).atTopLevel = true) →
      compile (chain a specs) =
        specs.foldl (fun exp spec => (Call.ofSpec (trim spec).toList).wrap exp) (compile a) := by
  refine ⟨?_, fun hpipe => compile_append_pipe htop hpipe,
    fun specs hpipe hinner => compile_chain htop hpipe hinner⟩
  rw [parse_append_pipe htop, List.append_assoc, List.singleton_append]

theorem pipes_compose_guarded :
    (Scan.start.run "a || '|'".toList).atTopLevel = true ∧
      Pipeline.parse ("a || '|'" ++ " | " ++ "f(x) | g") =
        ⟨"a || '|'", [⟨"f", some "x)"⟩, ⟨"g", none⟩]⟩ ∧
      compile (chain "a || '|'" ["f", "g(1)"]) = "_f(\"g\")(_f(\"f\")(a || '|'),1)" := by
  have htop : (Scan.start.run "a || '|'".toList).atTopLevel = true := by decide
  obtain ⟨hparse, -, hchain⟩ := pipes_compose "a || '|'" "f(x) | g" htop
  refine ⟨htop, hparse.trans (by decide), (hchain ["f", "g(1)"] ?_ (by decide)).trans (by decide)⟩
  intro spec hspec i hpipe
  have hbytes : ∀ spec ∈ ["f", "g(1)"], '|'.toUInt8 ∉ spec.toUTF8.data.toList := by decide
  exact hbytes spec hspec (List.mem_of_getElem? hpipe.pipe)

end Stencil.Filter
