import Stencil.Compiler.Session

/-!
# Spans that cut no character

Spans count bytes and a source is made of characters, so a span may start or
end inside of a character.  `Frame.fits` finds this out by cutting the source;
`fits_iff` says what it finds without a cut: the source is a text before the
span, a text inside of it and a text behind it, of the sizes that the span gives.
A diagnostic can be printed in a template if its span fits (`isPrintable_iff`).
-/

namespace Stencil

namespace Frame

/-! ## Characters and bytes -/

theorem byteCount_cons (c : Char) (text : List Char) :
    byteCount (c :: text) = c.utf8Size + byteCount text := rfl

theorem byteCount_toList (text : String) : byteCount text.toList = text.utf8ByteSize := by
  rw [← String.ofList_toList (s := text)]
  generalize text.toList = cs
  rw [String.toList_ofList]
  induction cs with
  | nil => rfl
  | cons c cs ih =>
      rw [String.ofList_cons, String.utf8ByteSize_append, String.utf8ByteSize_singleton,
        byteCount_cons, ih]

theorem takeBytes_isPrefix (n : Nat) (text : List Char) : takeBytes n text <+: text := by
  induction text generalizing n with
  | nil => exact List.nil_prefix
  | cons c text ih =>
      unfold takeBytes
      split
      · exact (List.prefix_cons_inj c).mpr (ih _)
      · exact List.nil_prefix

theorem takeBytes_mono {m n : Nat} (hle : m ≤ n) (text : List Char) :
    takeBytes m text <+: takeBytes n text := by
  induction text generalizing m n with
  | nil => exact List.nil_prefix
  | cons c text ih =>
      unfold takeBytes
      by_cases hm : c.utf8Size ≤ m
      · rw [if_pos hm, if_pos (Nat.le_trans hm hle)]
        exact (List.prefix_cons_inj c).mpr (ih (Nat.sub_le_sub_right hle _))
      · rw [if_neg hm]
        exact List.nil_prefix

/-- As many bytes as a text has are that text, whatever follows. -/
theorem takeBytes_byteCount (text rest : List Char) :
    takeBytes (byteCount text) (text ++ rest) = text := by
  induction text with
  | nil =>
      cases rest with
      | nil => rfl
      | cons c rest => exact if_neg (Nat.not_le_of_gt c.utf8Size_pos)
  | cons c text ih =>
      rw [List.cons_append, takeBytes, byteCount_cons, if_pos (Nat.le_add_right _ _),
        Nat.add_sub_cancel_left, ih]

theorem takeBytes_utf8ByteSize (text rest : String) :
    takeBytes text.utf8ByteSize (text ++ rest).toList = text.toList := by
  rw [← byteCount_toList, String.toList_append, takeBytes_byteCount]

/-! ## Spans -/

/-- A span, cut off at the end of a source, starts and ends between characters of
the source or at an end of it. -/
def Fits (source : String) (span : Span) : Prop :=
  ∃ before inside behind, source = before ++ inside ++ behind ∧
    (before ++ inside).utf8ByteSize = min span.stop.toNat source.utf8ByteSize ∧
    before.utf8ByteSize = min span.start.toNat (before ++ inside).utf8ByteSize

theorem fits_iff (source : String) (span : Span) : fits source span = true ↔ Fits source span := by
  simp only [fits, bounds, isBoundary, Bool.and_eq_true, beq_iff_eq, byteCount_toList]
  generalize hstop : min span.stop.toNat source.utf8ByteSize = stop
  constructor
  · rintro ⟨hstart, hend⟩
    obtain ⟨inside, hinside⟩ :=
      takeBytes_mono (Nat.min_le_right span.start.toNat stop) source.toList
    obtain ⟨behind, hbehind⟩ := takeBytes_isPrefix stop source.toList
    generalize takeBytes (min span.start.toNat stop) source.toList = before at hstart hinside
    have hsize : (String.ofList before ++ String.ofList inside).utf8ByteSize = stop := by
      rw [← byteCount_toList, ← String.ofList_append, String.toList_ofList, hinside, hend]
    refine ⟨String.ofList before, String.ofList inside, String.ofList behind, ?_, ?_, ?_⟩
    · rw [← String.ofList_append, ← String.ofList_append, hinside, hbehind, String.ofList_toList]
    · rw [hsize, hstop]
    · rw [hsize, ← byteCount_toList, String.toList_ofList, hstart]
  · rintro ⟨before, inside, behind, rfl, hend, hstart⟩
    rw [hstop] at hend
    rw [hend] at hstart
    constructor
    · rw [← hstart, String.append_assoc, takeBytes_utf8ByteSize, byteCount_toList]
    · rw [← hend, takeBytes_utf8ByteSize, byteCount_toList]

end Frame

/-! ## Diagnostics -/

/-- A diagnostic is printed without a frame, or its span cuts no character of the
template. -/
def Printable (source : Option String) (d : Diagnostic) : Prop :=
  ∀ text ∈ source, ∀ span ∈ d.span, Frame.Fits text span

theorem isPrintable_iff {source : Option String} {d : Diagnostic} :
    isPrintable source d = true ↔ Printable source d := by
  unfold isPrintable Printable
  cases source with
  | none => simp
  | some text =>
      cases d.span with
      | none => simp
      | some span => simp [Frame.fits_iff]

end Stencil
