import Mathlib.Data.List.Basic
import Mathlib.Data.List.Induction

/-!
# Texts as bytes

A text is stored in UTF-8.  This file relates positions among its bytes to
positions among its characters, as far as ASCII characters are concerned:

* an ASCII character is the single byte `Char.toUInt8` (`utf8EncodeChar_of_ascii`);
* every byte of another character is at least `128` (`le_of_mem_utf8EncodeChar`);
* hence an ASCII byte at offset `i` is an ASCII character whose prefix takes
  `i` bytes (`getElem?_utf8_eq_some_iff`), and the byte before or behind a place
  is a given ASCII byte exactly when the character there is
  (`getLast?_utf8_eq_some_iff`, `head?_utf8_eq_some_iff`).
-/

namespace Stencil.Text

open String (utf8EncodeChar)

/-- The UTF-8 bytes of a text. -/
def utf8 (cs : List Char) : List UInt8 :=
  cs.flatMap utf8EncodeChar

@[simp] theorem utf8_nil : utf8 [] = [] := rfl

@[simp] theorem utf8_cons (c : Char) (cs : List Char) :
    utf8 (c :: cs) = utf8EncodeChar c ++ utf8 cs := rfl

@[simp] theorem utf8_append (cs ds : List Char) : utf8 (cs ++ ds) = utf8 cs ++ utf8 ds := by
  simp [utf8]

/-- The bytes of a string are the bytes of its characters. -/
theorem bytes_toUTF8 (s : String) : s.toUTF8.data.toList = utf8 s.toList := by
  have hbytes : s.toByteArray = (utf8 s.toList).toByteArray := by
    rw [← String.utf8Encode_toList]
    rfl
  rw [String.toUTF8_eq_toByteArray, hbytes, List.data_toByteArray]

/-! ## Bytes of one character -/

theorem utf8EncodeChar_of_ascii {c : Char} (hascii : c.toNat < 128) :
    utf8EncodeChar c = [c.toUInt8] := by
  have hle : c.val.toNat ≤ 0x7f := Nat.le_of_lt_succ hascii
  unfold utf8EncodeChar
  rw [if_pos hle]
  rfl

theorem le_of_mem_utf8EncodeChar {c : Char} (hwide : 128 ≤ c.toNat) {b : UInt8}
    (hb : b ∈ utf8EncodeChar c) : 128 ≤ b.toNat := by
  have hnot : ¬ c.val.toNat ≤ 0x7f := Nat.not_le_of_lt hwide
  unfold utf8EncodeChar at hb
  rw [if_neg hnot] at hb
  -- the marker bits of a byte already exceed `127`, and the sum stays below `256`
  split at hb
  · simp only [List.mem_cons, List.not_mem_nil, or_false] at hb
    rcases hb with rfl | rfl <;> simp only [UInt8.toNat_ofNat'] <;> omega
  · split at hb
    · simp only [List.mem_cons, List.not_mem_nil, or_false] at hb
      rcases hb with rfl | rfl | rfl <;> simp only [UInt8.toNat_ofNat'] <;> omega
    · simp only [List.mem_cons, List.not_mem_nil, or_false] at hb
      rcases hb with rfl | rfl | rfl | rfl <;> simp only [UInt8.toNat_ofNat'] <;> omega

theorem toNat_toUInt8_of_ascii {c : Char} (hascii : c.toNat < 128) :
    c.toUInt8.toNat = c.toNat := by
  have hmod : c.toUInt8.toNat = c.toNat % 256 := rfl
  rw [hmod, Nat.mod_eq_of_lt (by omega)]

theorem toUInt8_inj_of_ascii {a c : Char} (ha : a.toNat < 128) (hc : c.toNat < 128) :
    a.toUInt8 = c.toUInt8 ↔ a = c := by
  constructor
  · intro hbyte
    apply Char.toNat_inj.mp
    rw [← toNat_toUInt8_of_ascii ha, ← toNat_toUInt8_of_ascii hc, hbyte]
  · rintro rfl
    rfl

/-- An ASCII byte of a character is that character. -/
theorem eq_of_toUInt8_mem {a c : Char} (hascii : a.toNat < 128)
    (hmem : a.toUInt8 ∈ utf8EncodeChar c) : c = a := by
  rcases Nat.lt_or_ge c.toNat 128 with hc | hc
  · rw [utf8EncodeChar_of_ascii hc, List.mem_singleton, toUInt8_inj_of_ascii hascii hc] at hmem
    exact hmem.symm
  · have := le_of_mem_utf8EncodeChar hc hmem
    rw [toNat_toUInt8_of_ascii hascii] at this
    omega

/-! ## ASCII bytes of a text -/

/-- **ASCII bytes are characters.**  A byte of an ASCII character stands at
offset `i` exactly when the character itself stands behind a text of `i`
bytes. -/
theorem getElem?_utf8_eq_some_iff {a : Char} (hascii : a.toNat < 128) (cs : List Char) (i : Nat) :
    (utf8 cs)[i]? = some a.toUInt8 ↔
      ∃ before after, cs = before ++ a :: after ∧ (utf8 before).length = i := by
  constructor
  · induction cs generalizing i with
    | nil => simp
    | cons c cs ih =>
        intro hbyte
        rw [utf8_cons] at hbyte
        rcases Nat.lt_or_ge i (utf8EncodeChar c).length with hi | hi
        · rw [List.getElem?_append_left hi] at hbyte
          obtain rfl : c = a := eq_of_toUInt8_mem hascii (List.mem_of_getElem? hbyte)
          rw [utf8EncodeChar_of_ascii hascii, List.length_singleton] at hi
          exact ⟨[], cs, rfl, by simp; omega⟩
        · rw [List.getElem?_append_right hi] at hbyte
          obtain ⟨before, after, rfl, hlength⟩ := ih _ hbyte
          refine ⟨c :: before, after, rfl, ?_⟩
          rw [utf8_cons, List.length_append, hlength]
          omega
  · rintro ⟨before, after, rfl, rfl⟩
    rw [utf8_append, List.getElem?_append_right (Nat.le_refl _), Nat.sub_self, utf8_cons,
      utf8EncodeChar_of_ascii hascii]
    rfl

theorem head?_utf8_eq_some_iff {a : Char} (hascii : a.toNat < 128) (cs : List Char) :
    (utf8 cs).head? = some a.toUInt8 ↔ cs.head? = some a := by
  rw [List.head?_eq_getElem?, getElem?_utf8_eq_some_iff hascii]
  constructor
  · rintro ⟨before, after, rfl, hlength⟩
    cases before with
    | nil => rfl
    | cons c before =>
        exact absurd (List.length_eq_zero_iff.mp hlength) (by simp)
  · intro hhead
    cases cs with
    | nil => simp at hhead
    | cons c cs =>
        obtain rfl : c = a := by simpa using hhead
        exact ⟨[], cs, rfl, rfl⟩

theorem getLast?_utf8_eq_some_iff {a : Char} (hascii : a.toNat < 128) (cs : List Char) :
    (utf8 cs).getLast? = some a.toUInt8 ↔ cs.getLast? = some a := by
  cases cs using List.reverseRecOn with
  | nil => simp
  | append_singleton cs c =>
      rw [utf8_append, utf8_cons, utf8_nil, List.append_nil,
        List.getLast?_append_of_ne_nil _ String.utf8EncodeChar_ne_nil, List.getLast?_concat]
      constructor
      · intro hlast
        rw [eq_of_toUInt8_mem hascii (List.mem_of_getLast? hlast)]
      · intro hlast
        obtain rfl : c = a := by simpa using hlast
        rw [utf8EncodeChar_of_ascii hascii]
        rfl

end Stencil.Text
