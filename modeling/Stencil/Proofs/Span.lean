import Mathlib.Data.List.Basic
import Stencil.Proofs.Text.Utf8
import Stencil.Span

/-!
# Spans and the bytes that they cover

A span covers bytes of a text (`Span.slice`).  A span inside of a text that
stands behind another text covers the same bytes once it is moved by the number
of bytes before it, as long as offsets do not run out (`Span.slice_shift`).
-/

namespace Stencil

open Text

/-! ## Offsets -/

theorem toNat_offsetOfNat {n : Nat} (hn : n < UInt32.size) : (offsetOfNat n).toNat = n := by
  rw [offsetOfNat, if_pos hn]
  exact UInt32.toNat_ofNat_of_lt hn

theorem toNat_addSaturating (a b : UInt32) :
    (addSaturating a b).toNat = min (a.toNat + b.toNat) (UInt32.size - 1) := by
  unfold addSaturating
  split_ifs with hlt
  · rw [UInt32.toNat_add, Nat.mod_eq_of_lt hlt, Nat.min_eq_left (by omega)]
  · rw [Nat.min_eq_right (by omega)]
    rfl

namespace Span

/-- The bytes of a text that a span covers. -/
def slice (s : Span) (bytes : List UInt8) : List UInt8 :=
  bytes.extract s.start.toNat s.stop.toNat

/-- A span does not go beyond the end of a text. -/
def Inside (s : Span) (bytes : List UInt8) : Prop :=
  s.stop.toNat ≤ bytes.length

instance (s : Span) (bytes : List UInt8) : Decidable (s.Inside bytes) :=
  inferInstanceAs (Decidable (s.stop.toNat ≤ bytes.length))

theorem start_le_stop (s : Span) : s.start.toNat ≤ s.stop.toNat := by
  have := s.start.toNat_lt_size
  rw [stop, toNat_addSaturating]
  omega

/-- A span that still fits once it is moved starts and ends so much later. -/
theorem bounds_shift (s : Span) (offset : UInt32)
    (hroom : s.stop.toNat + offset.toNat < UInt32.size) :
    (s.shift offset).start.toNat = s.start.toNat + offset.toNat ∧
      (s.shift offset).stop.toNat = s.stop.toNat + offset.toNat := by
  have hle := s.start_le_stop
  have hstart : (s.shift offset).start.toNat = s.start.toNat + offset.toNat := by
    rw [shift, toNat_addSaturating]
    omega
  refine ⟨hstart, ?_⟩
  -- an end that does not fit leaves no room to move by more than zero
  have hstop : s.stop.toNat = min (s.start.toNat + s.length.toNat) (UInt32.size - 1) :=
    toNat_addSaturating _ _
  rw [stop, toNat_addSaturating, hstart]
  change min (s.start.toNat + offset.toNat + s.length.toNat) _ = _
  omega

/-- Moved behind the bytes that stand before a text, a span covers the same. -/
theorem slice_shift {s : Span} {offset : UInt32} {before text after : List UInt8}
    (hinside : s.Inside text) (hoffset : offset.toNat = before.length)
    (hroom : (before ++ text ++ after).length < UInt32.size) :
    (s.shift offset).Inside (before ++ text ++ after) ∧
      (s.shift offset).slice (before ++ text ++ after) = s.slice text := by
  unfold Inside at hinside
  simp only [List.length_append] at hroom
  obtain ⟨hstart, hstop⟩ := s.bounds_shift offset (by omega)
  constructor
  · rw [Inside, hstop]
    simp only [List.length_append]
    omega
  · have hdrop : (before ++ text ++ after).drop (s.start.toNat + before.length) =
        text.drop s.start.toNat ++ after.drop (s.start.toNat - text.length) := by
      rw [List.append_assoc, Nat.add_comm, ← List.drop_drop, List.drop_left, List.drop_append]
    have hlength : s.stop.toNat - s.start.toNat ≤ (text.drop s.start.toNat).length := by
      rw [List.length_drop]
      omega
    rw [slice, slice, hstart, hstop, hoffset, List.extract_eq_take_drop, List.extract_eq_take_drop,
      hdrop, Nat.add_sub_add_right, List.take_append_of_le_length hlength]

end Span

end Stencil
