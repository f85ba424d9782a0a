import Mathlib.Data.List.Pairwise
import Stencil.Proofs.Filter.Reading

/-!
# Pipes inside string literals

An expression is made of plain text and of string literals.  A pipe in a string
literal never separates segments as long as the pass closes the literal where it
ends, and the pass takes every quote behind a backslash for an escaped one.
Contents that end with a backslash, as in `'\\'`, end with an escaped backslash,
so that the quote behind them does end the literal; but the pass reads on, and
what it takes for code then is the contents of later literals.

* `Piece`: plain text or a string literal, with its well-formedness.
* `Shape`: a piece without the contents of the literal, of which it only says
  whether they end with a backslash.
* `pieces_stay_whole_iff`: whatever their string literals hold, all expressions
  of given shapes stay whole if and only if no string literal stands behind one
  that ends with a backslash.
-/

namespace Stencil.Filter

open Text

/-! ## Pieces and shapes -/

/-- A piece of an expression: plain text, or a string literal in which every
character can be escaped. -/
abbrev Piece : Type :=
  Text.Piece (fun text => ∀ c ∈ text, isPlain c = true) (Contents fun _ => True)

/-- A piece without the contents of a string literal. -/
inductive Shape where
  | plain (text : List Char) (hplain : ∀ c ∈ text, isPlain c = true)
  | string (q : Quote) (endsInBackslash : Bool)

/-- The shape of a piece. -/
def Piece.shape : Piece → Shape
  | .code text hplain => .plain text hplain
  | .literal q contents _ => .string q (contents.getLast? == some '\\')

namespace Shape

/-- Whether a piece is a string literal. -/
def isString : Shape → Bool
  | plain .. => false
  | string .. => true

/-- Whether a piece is a string literal whose contents end with a backslash. -/
def endsInBackslash : Shape → Bool
  | plain .. => false
  | string _ backslash => backslash

/-- No string literal stands behind one that ends with a backslash. -/
def Safe (shapes : List Shape) : Prop :=
  shapes.Pairwise fun earlier later => earlier.endsInBackslash = true → later.isString = false

end Shape

/-! ## Expressions that stay whole -/

namespace Piece

variable {p : Piece} {s : Scan}

theorem not_mem_chars_of_not_isString (hplain : p.shape.isString = false) : '|' ∉ p.chars := by
  cases p with
  | code text htext => exact fun hmem => absurd (htext _ hmem) (by decide)
  | literal => exact Bool.noConfusion hplain

theorem run_chars (h : s.Inside 0) (hsound : p.shape.endsInBackslash = false) :
    (s.run p.chars).Inside 0 ∧ Whole s p.chars := by
  cases p with
  | code text htext =>
      have hpipe : '|' ∉ text := fun hmem => absurd (htext _ hmem) (by decide)
      exact ⟨(Scan.inside_run_iff htext).mpr h, whole_of_not_mem hpipe s⟩
  | literal q contents hcontents =>
      refine h.run_quoted hcontents fun hlast => ?_
      simp [shape, Shape.endsInBackslash, hlast] at hsound

theorem previous_run_quoted (s : Scan) (q : Quote) (contents : List Char) :
    (s.run (quoted q contents)).previous = some q.mark := by
  simp [Scan.previous_run, quoted]

/-- Behind contents that end with a backslash the pass is still inside of the
literal. -/
theorem run_chars_of_endsInBackslash {Escapable : Char → Prop} {q : Quote} {contents : List Char}
    (hcontents : Contents Escapable q contents) (hlast : contents.getLast? = some '\\')
    (h : s.Inside 0) :
    (s.run (quoted q contents)).Within (literalOf q) 0 ∧ Whole s (quoted q contents) := by
  obtain ⟨hwithin, hwhole⟩ := (h.step_quote q).run_contents hcontents
  have hmark : q.mark ≠ '|' := by cases q <;> decide
  constructor
  · rw [quoted, Scan.run_cons, Scan.run_append]
    refine hwithin.step_of_open fun hclose => hclose.2 ?_
    rw [Scan.previous_run, hlast, Option.some_or]
  · refine whole_cons_iff.mpr ⟨s.cuts_of_ne_pipe hmark _, hwhole.append ?_⟩
    exact whole_of_not_mem (by simpa using Ne.symm hmark) _

end Piece

theorem whole_of_safe {ps : List Piece} (hps : Shape.Safe (ps.map Piece.shape)) {s : Scan}
    (h : s.Inside 0) : Whole s (ps.flatMap Piece.chars) := by
  induction ps generalizing s with
  | nil => rfl
  | cons p ps ih =>
      obtain ⟨hbehind, hps⟩ := List.pairwise_cons.mp hps
      rw [List.flatMap_cons]
      by_cases hsound : p.shape.endsInBackslash = true
      · -- the literal is never closed, but all that follows is plain
        have hrest : '|' ∉ ps.flatMap Piece.chars := by
          intro hmem
          obtain ⟨later, hlater, hpipe⟩ := List.mem_flatMap.mp hmem
          exact Piece.not_mem_chars_of_not_isString
            (hbehind _ (List.mem_map_of_mem hlater) hsound) hpipe
        refine Whole.append ?_ (whole_of_not_mem hrest _)
        cases p with
        | code => exact Bool.noConfusion hsound
        | literal q contents hcontents =>
            have hlast : contents.getLast? = some '\\' := by
              simpa [Piece.shape, Shape.endsInBackslash] using hsound
            exact (Piece.run_chars_of_endsInBackslash hcontents hlast h).2
      · obtain ⟨hinside, hwhole⟩ := Piece.run_chars h (Bool.eq_false_iff.mpr hsound)
        exact hwhole.append (ih hps hinside)

/-! ## Expressions that are torn apart -/

namespace Shape

/-- In shapes that are not safe there is a first string literal that ends
with a backslash and a first one behind it. -/
theorem exists_first_of_not_safe {shapes : List Shape} (h : ¬ Safe shapes) :
    ∃ before q between later after,
      shapes = before ++ string q true :: (between ++ later :: after) ∧
        (∀ x ∈ before, x.endsInBackslash = false) ∧ (∀ x ∈ between, x.isString = false) ∧
        later.isString = true := by
  induction shapes with
  | nil => exact absurd List.Pairwise.nil h
  | cons shape shapes ih =>
      by_cases hbad : shape.endsInBackslash = true
      · have hfind : (shapes.find? isString).isSome = true := by
          rw [List.find?_isSome]
          by_contra hnone
          have hplain : ∀ later ∈ shapes, later.isString = false :=
            fun later hlater => Bool.eq_false_iff.mpr fun hstring => hnone ⟨later, hlater, hstring⟩
          refine h (List.pairwise_cons.mpr ⟨fun later hlater _ => hplain later hlater, ?_⟩)
          exact List.pairwise_of_forall_mem_list fun _ _ later hlater _ => hplain later hlater
        obtain ⟨later, hlater⟩ := Option.isSome_iff_exists.mp hfind
        obtain ⟨hstring, between, after, rfl, hbetween⟩ :=
          List.find?_eq_some_iff_append.mp hlater
        cases shape with
        | plain => exact Bool.noConfusion hbad
        | string q backslash =>
            obtain rfl : backslash = true := hbad
            exact ⟨[], q, between, later, after, rfl, by simp, by simpa using hbetween, hstring⟩
      · have hrest : ¬ Safe shapes := by
          intro hsafe
          exact h (List.pairwise_cons.mpr ⟨fun later _ hshape => absurd hshape hbad, hsafe⟩)
        obtain ⟨before, q, between, later, after, rfl, hbefore, hrest⟩ := ih hrest
        refine ⟨shape :: before, q, between, later, after, rfl, ?_, hrest⟩
        exact List.forall_mem_cons.mpr ⟨Bool.eq_false_iff.mpr hbad, hbefore⟩

/-- A piece of a shape, with contents that are empty or an escaped backslash. -/
def fill : Shape → Piece
  | plain text hplain => .code text hplain
  | string q true => .literal q ['\\', '\\'] (.escape trivial .nil)
  | string q false => .literal q [] .nil

theorem shape_fill (shape : Shape) : shape.fill.shape = shape := by
  rcases shape with _ | ⟨q, _ | _⟩ <;> rfl

theorem map_shape_fill (shapes : List Shape) : (shapes.map fill).map Piece.shape = shapes := by
  simp [Function.comp_def, shape_fill]

end Shape

theorem eq_of_mark_eq {q r : Quote} (hmark : r.mark = q.mark) : r = q := by
  revert hmark
  cases q <;> cases r <;> decide

/-- Contents for a literal with quote `r` such that their pipe is read at top
level if a literal with quote `q` has been left open. -/
def tearing (q r : Quote) : List Char :=
  if r = q then ['|'] else [q.mark, '|', q.mark]

theorem contents_tearing {Escapable : Char → Prop} (q r : Quote) {rest : List Char}
    (hrest : Contents Escapable r rest) : Contents Escapable r (tearing q r ++ rest) := by
  cases q <;> cases r
  case single.single | double.double => exact .char (by decide) (by decide) hrest
  all_goals
    exact .char (by decide) (by decide) (.char (by decide) (by decide)
      (.char (by decide) (by decide) hrest))

theorem not_whole_tearing {q r : Quote} {s : Scan} (h : s.Within (literalOf q) 0)
    (hescape : s.previous ≠ some '\\') {rest more : List Char}
    (hrest : (rest ++ [r.mark]).head? ≠ some '|') :
    ¬ Whole s (quoted r (tearing q r ++ rest) ++ more) := by
  have hmark : r.mark ≠ '|' ∧ r.mark ≠ '\\' ∧ q.mark ≠ '|' := by
    cases q <;> cases r <;> decide
  intro hwhole
  rw [whole_iff_forall_cuts] at hwhole
  unfold tearing at hwhole
  split_ifs at hwhole with hsame
  · -- the quote that opens this literal closes the earlier one
    subst hsame
    have hcuts := hwhole [r.mark] '|' ((rest ++ [r.mark]) ++ more) (by simp [quoted])
    have htop : (s.step r.mark).Inside 0 := delimiter_literalOf r ▸ h.step_delimiter hescape
    have hhead : ((rest ++ [r.mark]) ++ more).head? ≠ some '|' := by
      rw [List.head?_append_of_ne_nil _ (by simp)]
      exact hrest
    refine absurd ((Scan.cuts_pipe_iff _ _).mpr ⟨?_, hhead, ?_⟩) (Bool.eq_false_iff.mp hcuts)
    · simpa using hmark.1
    · exact (Scan.atTopLevel_iff_inside _).mpr htop
  · -- the first character of this literal closes the earlier one
    have hcuts := hwhole [r.mark, q.mark] '|' (q.mark :: (rest ++ [r.mark]) ++ more)
      (by simp [quoted])
    have hopen : (s.step r.mark).Within (literalOf q) 0 := by
      refine h.step_of_open fun hclose => hsame ?_
      exact eq_of_mark_eq (hclose.1.trans (delimiter_literalOf q))
    have htop : ((s.step r.mark).step q.mark).Inside 0 :=
      delimiter_literalOf q ▸ hopen.step_delimiter (by simpa using hmark.2.1)
    refine absurd ((Scan.cuts_pipe_iff _ _).mpr ⟨?_, ?_, ?_⟩) (Bool.eq_false_iff.mp hcuts)
    · simpa using hmark.2.2
    · simpa using hmark.2.2
    · exact (Scan.atTopLevel_iff_inside _).mpr htop

theorem run_fill_of_sound {shapes : List Shape}
    (hsound : ∀ shape ∈ shapes, shape.endsInBackslash = false) {s : Scan} (h : s.Inside 0) :
    (s.run ((shapes.map Shape.fill).flatMap Piece.chars)).Inside 0 := by
  induction shapes generalizing s with
  | nil => exact h
  | cons shape shapes ih =>
      rw [List.forall_mem_cons] at hsound
      rw [List.map_cons, List.flatMap_cons, Scan.run_append]
      exact ih hsound.2 (Piece.run_chars h (by rw [Shape.shape_fill]; exact hsound.1)).1

theorem isPlain_of_mem_fill {shapes : List Shape}
    (hplain : ∀ shape ∈ shapes, shape.isString = false) {c : Char}
    (hc : c ∈ (shapes.map Shape.fill).flatMap Piece.chars) : isPlain c = true := by
  obtain ⟨p, hp, hc⟩ := List.mem_flatMap.mp hc
  obtain ⟨shape, hshape, rfl⟩ := List.mem_map.mp hp
  cases shape with
  | plain text htext => exact htext c hc
  | string => exact Bool.noConfusion (hplain _ hshape)

/-- Shapes that are not safe have an expression that is cut. -/
theorem exists_not_whole {shapes : List Shape} (h : ¬ Shape.Safe shapes) :
    ∃ ps : List Piece, ps.map Piece.shape = shapes ∧
      ¬ Whole Scan.start (ps.flatMap Piece.chars) := by
  obtain ⟨before, q, between, later, after, rfl, hbefore, hbetween, hlater⟩ :=
    Shape.exists_first_of_not_safe h
  cases later with
  | plain => exact Bool.noConfusion hlater
  | string r backslash =>
      obtain ⟨rest, hcontents, hlast, hhead⟩ : ∃ rest, Contents (fun _ => True) r rest ∧
          ((tearing q r ++ rest).getLast? == some '\\') = backslash ∧
          (rest ++ [r.mark]).head? ≠ some '|' := by
        cases backslash with
        | true =>
            exact ⟨['\\', '\\'], .escape trivial .nil, by cases q <;> cases r <;> rfl, by simp⟩
        | false =>
            refine ⟨[], .nil, ?_, ?_⟩
            · cases q <;> cases r <;> decide
            · cases r <;> decide
      refine ⟨before.map Shape.fill ++ (Shape.string q true).fill ::
        (between.map Shape.fill ++ .literal r _ (contents_tearing q r hcontents) ::
          after.map Shape.fill), ?_, ?_⟩
      · rw [List.map_append, List.map_cons, List.map_append, List.map_cons, Shape.map_shape_fill,
          Shape.map_shape_fill, Shape.map_shape_fill, Shape.shape_fill, Piece.shape, hlast]
      · intro hwhole
        simp only [List.flatMap_append, List.flatMap_cons] at hwhole
        have hfirst := run_fill_of_sound hbefore Scan.inside_start
        have hopen := (Piece.run_chars_of_endsInBackslash
          (.escape trivial .nil : Contents (fun _ => True) q ['\\', '\\']) rfl hfirst).1
        have hmark : (some q.mark : Option Char) ≠ some '\\' := by cases q <;> decide
        obtain ⟨hbehind, hescape⟩ := hopen.run_of_isPlain (by rwa [Piece.previous_run_quoted])
          fun c hc => isPlain_of_mem_fill hbetween hc
        exact not_whole_tearing hbehind hescape hhead hwhole.right.right.right

/-- **Which expressions keep the pipes of their string literals.**  For pieces
of given shapes, every expression is its own base, trimmed, and has no filters,
whatever pipes its string literals hold, if and only if no string literal stands
behind one whose contents end with a backslash. -/
theorem pieces_stay_whole_iff (shapes : List Shape) :
    (∀ ps : List Piece, ps.map Piece.shape = shapes →
      Pipeline.parse (Piece.expression ps) = ⟨trim (Piece.expression ps), []⟩) ↔
    Shape.Safe shapes := by
  constructor
  · intro hwhole
    by_contra hunsafe
    obtain ⟨ps, hshapes, htorn⟩ := exists_not_whole hunsafe
    have hparse := parse_eq_trim_iff.mp (hwhole ps hshapes)
    rw [Text.Piece.expression, String.toList_ofList] at hparse
    exact htorn hparse
  · rintro hsafe ps rfl
    rw [parse_eq_trim_iff, Text.Piece.expression, String.toList_ofList]
    exact whole_of_safe hsafe Scan.inside_start

/-- Of the two string literals in `'\\'+'a|b'`, the first one is read on into the
second one, so that the pipe in it separates. -/
theorem pipe_in_string_separates :
    (∃ ps : List Piece, Piece.expression ps = "'\\\\'+'a|b'") ∧
      Pipeline.parse "'\\\\'+'a|b'" = ⟨"'\\\\'+'a", [⟨"b'", none⟩]⟩ := by
  have hsecond : Contents (fun _ => True) .single ['a', '|', 'b'] :=
    .char (by decide) (by decide) (.char (by decide) (by decide)
      (.char (by decide) (by decide) .nil))
  have hplus : ∀ c ∈ ['+'], isPlain c = true := by simp [isPlain, marks]
  refine ⟨⟨[.literal .single ['\\', '\\'] (.escape trivial .nil), .code ['+'] hplus,
    .literal .single _ hsecond], rfl⟩, by decide⟩

end Stencil.Filter
