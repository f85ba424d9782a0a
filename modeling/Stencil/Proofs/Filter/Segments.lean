import Mathlib.Data.List.Count
import Stencil.Proofs.Filter.ByteScan
import Stencil.Proofs.Text.Cut

/-!
# A pipeline is its expression cut at the top-level pipes

`Pipeline.parse` reads an expression as some segments joined by pipes.  This
file proves that the reading loses nothing and cuts exactly where it should:

* `toList_text_ofText`, `pipeline_ofText`: the segments that `splitPipes` finds
  join to the expression and give its pipeline;
* `mem_cutPoints_ofText_iff`: they are divided at the top-level pipes of
  `TopLevelPipe`, and only there;
* `Segments.eq_of_pipeline_eq`: no other segments of the same text give the same
  pipeline, because trimming never removes a pipe and a filter keeps all of the
  text it was read from.
-/

namespace Stencil.Filter

open Text

theorem Scan.eq_pipe_of_cuts (s : Scan) {c : Char} {rest : List Char}
    (hcuts : s.cuts c rest = true) : c = '|' := by
  simp only [Scan.cuts, Bool.and_eq_true, beq_iff_eq] at hcuts
  exact hcuts.1.1.1

/-- A text cut at some of its pipes: the part before the first cut, and the
parts behind the cuts. -/
structure Segments where
  first : String
  rest : List String
  deriving DecidableEq

namespace Segments

/-- The segments joined by pipes. -/
def text (s : Segments) : String :=
  "|".intercalate (s.first :: s.rest)

/-- The filter that a segment specifies. -/
def filter (segment : String) : Call :=
  Call.ofSpec (trim segment).toList

/-- The trimmed first segment with the filters that the other ones specify. -/
def pipeline (s : Segments) : Pipeline :=
  ⟨trim s.first, s.rest.map filter⟩

/-- The offsets of the cuts behind a segment that starts at `offset`. -/
def cutsFrom (offset : Nat) (first : String) : List String → List Nat
  | [] => []
  | next :: rest =>
      (offset + first.utf8ByteSize) :: cutsFrom (offset + first.utf8ByteSize + 1) next rest

/-- The byte offsets of the pipes at which the text is cut. -/
def cutPoints (s : Segments) : List Nat :=
  cutsFrom 0 s.first s.rest

/-- The characters of some segments behind their pipes. -/
def joined (rest : List String) : List Char :=
  rest.flatMap fun segment => '|' :: segment.toList

theorem toList_text (s : Segments) : s.text.toList = s.first.toList ++ joined s.rest := by
  obtain ⟨first, rest⟩ := s
  induction rest generalizing first with
  | nil => simp [text, joined]
  | cons next rest ih =>
      have hnext := ih next
      simp only [text, joined] at hnext ⊢
      rw [String.intercalate_cons_cons, String.toList_append, String.toList_append, hnext]
      simp

/-- The segments of an expression between its separating pipes, read from a
state of the pass. -/
def ofText (s : Scan) (cs : List Char) : Segments :=
  ⟨String.ofList (splitPipes s cs).1, (splitPipes s cs).2.map String.ofList⟩

theorem ofText_cons_of_cuts {s : Scan} {c : Char} {cs : List Char} (hcuts : s.cuts c cs = true) :
    ofText s (c :: cs) =
      ⟨"", (ofText (s.step c) cs).first :: (ofText (s.step c) cs).rest⟩ := by
  simp [ofText, splitPipes, hcuts]

theorem ofText_cons_of_not_cuts {s : Scan} {c : Char} {cs : List Char}
    (hcuts : s.cuts c cs = false) :
    ofText s (c :: cs) =
      ⟨String.singleton c ++ (ofText (s.step c) cs).first, (ofText (s.step c) cs).rest⟩ := by
  simp [ofText, splitPipes, hcuts]

/-! ## Nothing is lost -/

theorem toList_text_ofText (s : Scan) (cs : List Char) : (ofText s cs).text.toList = cs := by
  induction cs generalizing s with
  | nil => rfl
  | cons c cs ih =>
      have hrest := ih (s.step c)
      rw [toList_text] at hrest ⊢
      cases hcuts : s.cuts c cs with
      | true =>
          obtain rfl : c = '|' := s.eq_pipe_of_cuts hcuts
          rw [ofText_cons_of_cuts hcuts]
          simpa [joined] using hrest
      | false =>
          rw [ofText_cons_of_not_cuts hcuts]
          simpa using hrest

theorem pipeline_ofText (exp : String) :
    (ofText Scan.start exp.toList).pipeline = Pipeline.parse exp := by
  simp [pipeline, filter, ofText, Pipeline.parse, trim]

/-! ## The cuts are the top-level pipes -/

theorem cutsFrom_append (offset : Nat) (head first : String) (rest : List String) :
    cutsFrom offset (head ++ first) rest = cutsFrom (offset + head.utf8ByteSize) first rest := by
  cases rest with
  | nil => rfl
  | cons next rest => simp [cutsFrom, Nat.add_assoc]

/-- A place in a text is its start or a place behind its first character. -/
theorem exists_cons_eq_append_iff {c a : Char} {cs : List Char} {p : List Char → List Char → Prop} :
    (∃ before after, c :: cs = before ++ a :: after ∧ p before after) ↔
      (c = a ∧ p [] cs) ∨ ∃ before after, cs = before ++ a :: after ∧ p (c :: before) after := by
  constructor
  · rintro ⟨before, after, heq, hp⟩
    cases before with
    | nil =>
        obtain ⟨rfl, rfl⟩ := List.cons.inj heq
        exact Or.inl ⟨rfl, hp⟩
    | cons d before =>
        obtain ⟨rfl, rfl⟩ := List.cons.inj heq
        exact Or.inr ⟨before, after, rfl, hp⟩
  · rintro (⟨rfl, hp⟩ | ⟨before, after, rfl, hp⟩)
    · exact ⟨[], cs, rfl, hp⟩
    · exact ⟨c :: before, after, rfl, hp⟩

theorem mem_cutsFrom_ofText_iff (s : Scan) (cs : List Char) (offset i : Nat) :
    i ∈ cutsFrom offset (ofText s cs).first (ofText s cs).rest ↔
      ∃ before after, cs = before ++ '|' :: after ∧ offset + (utf8 before).length = i ∧
        (s.run before).cuts '|' after = true := by
  induction cs generalizing s offset with
  | nil => simp [ofText, splitPipes, cutsFrom]
  | cons c cs ih =>
      rw [exists_cons_eq_append_iff]
      simp only [utf8_nil, utf8_cons, List.length_nil, List.length_append, Scan.run_nil,
        Scan.run_cons, ← Nat.add_assoc, ← ih (s.step c)]
      cases hcuts : s.cuts c cs with
      | true =>
          obtain rfl : c = '|' := s.eq_pipe_of_cuts hcuts
          rw [ofText_cons_of_cuts hcuts, cutsFrom, List.mem_cons, hcuts,
            utf8EncodeChar_of_ascii (by decide), String.utf8ByteSize_empty, List.length_singleton,
            Nat.add_zero, eq_comm]
          simp
      | false =>
          have hhere : ¬ (c = '|' ∧ offset + 0 = i ∧ s.cuts '|' cs = true) := by
            rintro ⟨rfl, -, htrue⟩
            rw [hcuts] at htrue
            exact Bool.noConfusion htrue
          rw [ofText_cons_of_not_cuts hcuts, cutsFrom_append, or_iff_right hhere]
          simp

theorem mem_cutPoints_ofText_iff (exp : String) (i : Nat) :
    i ∈ (ofText Scan.start exp.toList).cutPoints ↔ TopLevelPipe exp.toUTF8.data.toList i := by
  rw [cutPoints, mem_cutsFrom_ofText_iff, bytes_toUTF8, topLevelPipe_utf8_iff]
  simp

/-! ## No other segments give the pipeline -/

theorem count_trimStart {c : Char} (hsolid : isBlank c = false) (cs : List Char) :
    (trimStart cs).count c = cs.count c := by
  induction cs with
  | nil => rfl
  | cons d cs ih =>
      cases hd : isBlank d with
      | true =>
          have hne : d ≠ c := by
            rintro rfl
            rw [hsolid] at hd
            exact Bool.noConfusion hd
          rw [trimStart, List.dropWhile_cons_of_pos hd, List.count_cons_of_ne hne]
          exact ih
      | false => rw [trimStart, List.dropWhile_cons_of_neg (by simp [hd])]

theorem count_trimChars {c : Char} (hsolid : isBlank c = false) (cs : List Char) :
    (trimChars cs).count c = cs.count c := by
  rw [trimChars, trimEnd, List.count_reverse, count_trimStart hsolid, List.count_reverse,
    count_trimStart hsolid]

theorem head?_joined (rest : List String) :
    (joined rest).head? = none ∨ (joined rest).head? = some '|' := by
  cases rest with
  | nil => exact Or.inl rfl
  | cons segment rest => exact Or.inr rfl

theorem eq_nil_of_count_pipe {xs more behind : List Char}
    (hhead : (more ++ behind).head? = none ∨ (more ++ behind).head? = some '|')
    (hcount : (xs ++ more).count '|' = xs.count '|') : more = [] := by
  cases more with
  | nil => rfl
  | cons d more =>
      obtain rfl : d = '|' := by simpa using hhead
      rw [List.count_append, List.count_cons_self] at hcount
      omega

/-- A segment is known from its trimmed form, for a longer one would hold one
more pipe. -/
theorem eq_of_trimChars_eq {xs ys us vs : List Char} (happend : xs ++ us = ys ++ vs)
    (hus : us.head? = none ∨ us.head? = some '|') (hvs : vs.head? = none ∨ vs.head? = some '|')
    (htrim : trimChars xs = trimChars ys) : xs = ys := by
  have hcount : xs.count '|' = ys.count '|' := by
    rw [← count_trimChars (by decide) xs, htrim, count_trimChars (by decide)]
  rcases List.append_eq_append_iff.mp happend with ⟨more, rfl, rfl⟩ | ⟨more, rfl, rfl⟩
  · rw [eq_nil_of_count_pipe hus hcount.symm, List.append_nil]
  · rw [eq_nil_of_count_pipe hvs hcount, List.append_nil]

/-- A filter keeps all of the text that specifies it. -/
theorem ofSpec_injective : Function.Injective Call.ofSpec := by
  intro xs ys heq
  unfold Call.ofSpec at heq
  cases hxs : splitFirst? '(' xs with
  | none =>
      cases hys : splitFirst? '(' ys with
      | none => simpa [hxs, hys, String.ofList_inj] using heq
      | some parts => simp [hxs, hys] at heq
  | some parts =>
      cases hys : splitFirst? '(' ys with
      | none => simp [hxs, hys] at heq
      | some others =>
          obtain ⟨hname, hargs⟩ : parts.1 = others.1 ∧ parts.2 = others.2 := by
            simpa [hxs, hys, String.ofList_inj] using heq
          rw [(splitFirst?_eq_some_iff.mp hxs).1, (splitFirst?_eq_some_iff.mp hys).1, hname, hargs]

theorem eq_of_joined_eq {first other : String} {rest others : List String}
    (htext : first.toList ++ joined rest = other.toList ++ joined others)
    (hbase : trim first = trim other) (hfilters : rest.map filter = others.map filter) :
    first = other ∧ rest = others := by
  induction rest generalizing first other others with
  | nil =>
      obtain rfl : others = [] := by simpa using hfilters.symm
      exact ⟨String.toList_inj.mp (List.append_cancel_right htext), rfl⟩
  | cons segment rest ih =>
      obtain ⟨next, others, rfl, hnext, hothers⟩ := List.map_eq_cons_iff.mp hfilters.symm
      have hfirst : first = other := by
        have htrim : trimChars first.toList = trimChars other.toList := by
          simpa [trim, String.ofList_inj] using hbase
        exact String.toList_inj.mp (eq_of_trimChars_eq htext (head?_joined _) (head?_joined _) htrim)
      have hrest : segment.toList ++ joined rest = next.toList ++ joined others := by
        rw [hfirst] at htext
        exact (List.cons.inj (List.append_cancel_left htext)).2
      have hspec : trim segment = trim next :=
        String.toList_inj.mp (ofSpec_injective hnext.symm)
      obtain ⟨rfl, rfl⟩ := ih hrest hspec hothers.symm
      exact ⟨hfirst, rfl⟩

/-- **Segments are known from their text and their pipeline.** -/
theorem eq_of_pipeline_eq {s t : Segments} (htext : s.text = t.text)
    (hpipeline : s.pipeline = t.pipeline) : s = t := by
  obtain ⟨first, rest⟩ := s
  obtain ⟨other, others⟩ := t
  have hlists := congrArg String.toList htext
  rw [toList_text, toList_text] at hlists
  obtain ⟨hbase, hfilters⟩ := Pipeline.mk.inj hpipeline
  obtain ⟨rfl, rfl⟩ := eq_of_joined_eq hlists hbase hfilters
  rfl

end Segments

/-- **Parsing cuts an expression exactly at its top-level pipes.**  Every
expression is in one way only a list of segments joined by pipes whose trimmed
first part is the base and whose other parts specify the filters, and these
segments are divided at the top-level pipes of the expression, no more and no
fewer. -/
theorem parse_cuts_at_top_level_pipes (exp : String) :
    (∃! s : Segments, s.text = exp ∧ s.pipeline = Pipeline.parse exp) ∧
      ∀ s : Segments, s.text = exp → s.pipeline = Pipeline.parse exp →
        ∀ i, i ∈ s.cutPoints ↔ TopLevelPipe exp.toUTF8.data.toList i := by
  have htext : (Segments.ofText Scan.start exp.toList).text = exp :=
    String.toList_inj.mp (Segments.toList_text_ofText _ _)
  have hpipeline := Segments.pipeline_ofText exp
  have hunique : ∀ s : Segments, s.text = exp → s.pipeline = Pipeline.parse exp →
      s = Segments.ofText Scan.start exp.toList := by
    intro s hs hparse
    exact Segments.eq_of_pipeline_eq (hs.trans htext.symm) (hparse.trans hpipeline.symm)
  refine ⟨⟨_, ⟨htext, hpipeline⟩, fun s hs => hunique s hs.1 hs.2⟩, ?_⟩
  intro s hs hparse i
  rw [hunique s hs hparse]
  exact Segments.mem_cutPoints_ofText_iff exp i

end Stencil.Filter
