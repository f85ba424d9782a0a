import Mathlib.Data.List.Basic
import Mathlib.Data.List.TakeDrop
import Mathlib.Data.List.TakeWhile
import Stencil.Json.Reader
import Stencil.Proofs.Double

/-!
# Reading the text of a value gives the value back

`Json.value?` reads what `Json.chars` writes: strings with all their escapes,
numbers of 32 bits, and arrays and objects of such values.  A reader stops where
the written value ends as long as what follows cannot continue a number, as with
the marks that close or divide values (`Ends`).

The readers of strings and lists count down a bound and that of values a depth.
The bounds are the lengths of the texts, and `Storable` carries the depth.
-/

namespace Stencil.Json

open Text

/-- What may follow a value: nothing, or a mark that divides or closes. -/
def Ends (rest : List Char) : Prop :=
  ∀ c ∈ rest.head?, c = ',' ∨ c = ']' ∨ c = '\x7d'

theorem skipSpace_cons {c : Char} (hc : isSpace c = false) (text : List Char) :
    skipSpace (c :: text) = c :: text := by
  rw [skipSpace, List.dropWhile_cons_of_neg]
  simp [hc]

/-! ## Strings -/

theorem hexValue?_hexDigit {n : Nat} (hn : n < 16) : hexValue? (hexDigit n) = some n := by
  decide +revert

/-- A control character is read from its number. -/
theorem numericEscape?_control {c : Char} (hc : c.toNat < 0x20) (rest : List Char) :
    numericEscape? .keep
        ('0' :: '0' :: hexDigit (c.toNat / 16) :: hexDigit (c.toNat % 16) :: rest) =
      some (c, rest) := by
  have hhigh := hexValue?_hexDigit (n := c.toNat / 16) (by omega)
  have hlow := hexValue?_hexDigit (n := c.toNat % 16) (by omega)
  have hzero : hexValue? '0' = some 0 := by decide
  have hunit : hexUnit? ('0' :: '0' :: hexDigit (c.toNat / 16) :: hexDigit (c.toNat % 16) :: rest) =
      some (c.toNat, rest) := by
    simp only [hexUnit?, hzero, hhigh, hlow, Option.bind_eq_bind, Option.bind_some, Option.pure_def,
      Option.some.injEq, Prod.mk.injEq, and_true]
    omega
  have hplain : ¬ (0xDC00 ≤ c.toNat) ∧ ¬ (0xD800 ≤ c.toNat) := by omega
  simp [numericEscape?, hunit, hplain]

/-- One character is read from how it is written. -/
theorem stringTail?_escapeChar (bound : Nat) (c : Char) (text : List Char) :
    stringTail? .keep (bound + 1) (escapeChar c ++ text) =
      (stringTail? .keep bound text).map fun (cs, rest) => (c :: cs, rest) := by
  have hescaped : ∀ {tail : List Char}, escape? .keep tail = some (c, text) →
      stringTail? .keep (bound + 1) ('\\' :: tail) =
        (stringTail? .keep bound text).map fun (cs, rest) => (c :: cs, rest) := by
    intro tail htail
    simp only [stringTail?, htail, Option.bind_eq_bind, Option.bind_some]
    cases stringTail? .keep bound text <;> rfl
  unfold escapeChar
  split_ifs with hquote hslash hback hfeed hline hreturn htab hcontrol
  · subst hquote
    exact hescaped rfl
  · subst hslash
    exact hescaped rfl
  · subst hback
    exact hescaped rfl
  · subst hfeed
    exact hescaped rfl
  · subst hline
    exact hescaped rfl
  · subst hreturn
    exact hescaped rfl
  · subst htab
    exact hescaped rfl
  · exact hescaped (numericEscape?_control hcontrol text)
  · rw [List.singleton_append, stringTail?, if_neg hcontrol]
    · cases stringTail? .keep bound text <;> rfl
    · exact hquote
    · exact hslash

/-- The tail of a written string is read up to its closing quote. -/
theorem stringTail?_quoted {bound : Nat} {cs : List Char} (hbound : cs.length < bound)
    (rest : List Char) :
    stringTail? .keep bound (cs.flatMap escapeChar ++ '"' :: rest) = some (cs, rest) := by
  induction cs generalizing bound with
  | nil =>
      obtain ⟨bound, rfl⟩ := Nat.exists_eq_succ_of_ne_zero (Nat.ne_zero_of_lt hbound)
      rfl
  | cons c cs ih =>
      obtain ⟨bound, rfl⟩ := Nat.exists_eq_succ_of_ne_zero (Nat.ne_zero_of_lt hbound)
      rw [List.flatMap_cons, List.append_assoc, stringTail?_escapeChar,
        ih (Nat.lt_of_succ_lt_succ hbound)]
      rfl

/-! ## Numbers -/

theorem Ends.not_isDigit {rest : List Char} (hends : Ends rest) :
    ∀ c ∈ rest.head?, c.isDigit = false := by
  intro c hc
  rcases hends c hc with rfl | rfl | rfl <;> decide

theorem ne_of_isDigit {c : Char} (hc : c.isDigit = true) (d : Char) (hd : d.isDigit = false) :
    c ≠ d := by
  rintro rfl
  rw [hc] at hd
  exact nomatch hd

theorem isSpace_of_isDigit {c : Char} (hc : c.isDigit = true) : isSpace c = false := by
  have hne := ne_of_isDigit hc
  simp [isSpace, hne ' ' rfl, hne '\n' rfl, hne '\t' rfl, hne '\r' rfl]

theorem digits?_append {digits rest : List Char} (hdigits : ∀ c ∈ digits, c.isDigit = true)
    (hne : digits ≠ []) (hends : Ends rest) : digits? (digits ++ rest) = some (digits, rest) := by
  have hstop : rest.takeWhile Char.isDigit = [] ∧ rest.dropWhile Char.isDigit = rest := by
    cases rest with
    | nil => exact ⟨rfl, rfl⟩
    | cons c rest =>
        have hc : ¬ c.isDigit = true := by simp [hends.not_isDigit c rfl]
        exact ⟨List.takeWhile_cons_of_neg hc, List.dropWhile_cons_of_neg hc⟩
  have hspan : (digits ++ rest).span Char.isDigit = (digits, rest) := by
    rw [List.span_eq_takeWhile_dropWhile, List.takeWhile_append_of_pos hdigits,
      List.dropWhile_append_of_pos hdigits, hstop.1, hstop.2, List.append_nil]
  cases digits with
  | nil => exact absurd rfl hne
  | cons c digits => rw [digits?, hspan]

theorem natOfDigits_eq (digits : List Char) :
    natOfDigits digits = Nat.ofDigitChars 10 digits 0 := by
  rw [natOfDigits, Nat.ofDigitChars_eq_foldl]
  congr 1
  funext n c
  rw [Nat.mul_comm]
  rfl

/-- Digits only make a number greater. -/
theorem le_ofDigitChars (n : Nat) (digits : List Char) : n ≤ Nat.ofDigitChars 10 digits n := by
  induction digits generalizing n with
  | nil => exact Nat.le_refl n
  | cons c digits ih =>
      refine Nat.le_trans ?_ (ih (10 * n + (c.toNat - '0'.toNat)))
      omega

/-- A number below the bound keeps all its digits. -/
theorem extend_eq {n : Nat} {digits : List Char}
    (hbound : Nat.ofDigitChars 10 digits n < digitBound) :
    extend n digits = (Nat.ofDigitChars 10 digits n, []) := by
  induction digits generalizing n with
  | nil => rfl
  | cons c digits ih =>
      have hnext : n * 10 + (c.toNat - 0x30) = 10 * n + (c.toNat - '0'.toNat) := by
        rw [Nat.mul_comm]
        rfl
      have hlt : n * 10 + (c.toNat - 0x30) < digitBound := by
        rw [hnext]
        exact Nat.lt_of_le_of_lt (le_ofDigitChars _ digits) hbound
      simp only [extend, if_pos hlt]
      rw [hnext]
      exact ih hbound

/-- Natural numbers of 64 bits are in range. -/
theorem inRange_toDigits {n : Nat} (hn : n < 2 ^ 64) : inRange (Nat.toDigits 10 n) [] 0 = true := by
  have hvalue : Nat.ofDigitChars 10 (Nat.toDigits 10 n) 0 = n :=
    Nat.ofDigitChars_toDigits (by decide) (by decide)
  have hextend : extend 0 (Nat.toDigits 10 n) = (n, []) := by
    rw [extend_eq (by rw [hvalue]; exact hn), hvalue]
  obtain ⟨x, hx, hsignificand, hexponent⟩ := Double.exists_ofDecimal? hn
  obtain ⟨y, hy, hone, hunit⟩ := Double.exists_ofDecimal? (n := 1) (by decide)
  obtain ⟨z, hz⟩ := Double.exists_mul? hsignificand hone (by omega)
  simp [inRange, hextend, extend, hx, hy, hz]

/-- Only the number zero starts with the digit zero. -/
theorem head?_toDigits {n : Nat} (hn : n ≠ 0) : (Nat.toDigits 10 n).head? ≠ some '0' := by
  induction n using Nat.strong_induction_on with
  | _ n ih =>
      by_cases hsmall : n < 10
      · rw [Nat.toDigits_of_lt_base hsmall]
        exact fun hhead => hn (Nat.digitChar_eq_zero.mp (Option.some.inj hhead))
      · rw [Nat.toDigits_of_base_le (by decide) (by omega),
          List.head?_append_of_ne_nil _ Nat.toDigits_ne_nil]
        exact ih (n / 10) (by omega) (by omega)

/-- A number starts with a digit. -/
theorem toDigits_eq_cons (n : Nat) :
    ∃ c digits, Nat.toDigits 10 n = c :: digits ∧ c.isDigit = true := by
  obtain ⟨c, digits, hdigits⟩ := List.exists_cons_of_ne_nil (Nat.toDigits_ne_nil (b := 10) (n := n))
  refine ⟨c, digits, hdigits,
    Nat.isDigit_of_mem_toDigits (b := 10) (n := n) (by decide) (by decide) ?_⟩
  rw [hdigits]
  exact List.mem_cons_self

/-- A natural number of 64 bits is read from its digits. -/
theorem number?_toDigits {n : Nat} (hn : n < 2 ^ 64) {rest : List Char} (hends : Ends rest) :
    number? .keep (Nat.toDigits 10 n ++ rest) = some (.natural n, rest) := by
  have hdigit : ∀ c ∈ Nat.toDigits 10 n, c.isDigit = true :=
    fun c => Nat.isDigit_of_mem_toDigits (by decide) (by decide)
  have hread := digits?_append hdigit Nat.toDigits_ne_nil hends
  have hleading : ¬ ((Nat.toDigits 10 n).head? = some '0' ∧ Nat.toDigits 10 n ≠ ['0']) := by
    rintro ⟨hhead, hne⟩
    obtain rfl : n = 0 := by
      by_contra hpositive
      exact head?_toDigits hpositive hhead
    exact hne rfl
  have htail : fraction? rest = some ([], rest) ∧ exponent? rest = some ([], rest) := by
    cases rest with
    | nil => exact ⟨rfl, rfl⟩
    | cons c rest => rcases hends c rfl with rfl | rfl | rfl <;> exact ⟨rfl, rfl⟩
  have hvalue : natOfDigits (Nat.toDigits 10 n) = n := by
    rw [natOfDigits_eq, Nat.ofDigitChars_toDigits (by decide) (by decide)]
  have hunsigned : unsigned? .keep (Nat.toDigits 10 n ++ rest) = some (.natural n, rest) := by
    have hzero : exponentValue [] = 0 := rfl
    simp [unsigned?, hread, hleading, htail.1, htail.2, hvalue, hzero, inRange_toDigits hn]
  rw [number?]
  · exact hunsigned
  · -- The first character is a digit and no sign.
    intro tail hminus
    obtain ⟨c, digits, hdigits, hc⟩ := toDigits_eq_cons n
    rw [hdigits, List.cons_append] at hminus
    exact ne_of_isDigit hc '-' rfl (List.cons.inj hminus).1

/-! ## Lists of items -/

section Lists

variable {α : Type}

theorem length_le_flatMap {β : Type} {f : α → List β} (hf : ∀ a, f a ≠ []) (items : List α) :
    items.length ≤ (items.flatMap f).length := by
  induction items with
  | nil => exact Nat.le_refl 0
  | cons a items ih =>
      have hpositive := List.length_pos_iff.mpr (hf a)
      rw [List.flatMap_cons, List.length_append, List.length_cons]
      omega

/-- A text starts with a visible character that closes no list, and a reader gets
an item from it. -/
structure Reads (item? : List Char → Option (α × List Char)) (text : List Char) (item : α) :
    Prop where
  starts : ∃ c tail, text = c :: tail ∧ isSpace c = false ∧ c ≠ ']' ∧ c ≠ '\x7d'
  reads : ∀ rest, Ends rest → item? (text ++ rest) = some (item, rest)

variable {item? : List Char → Option (α × List Char)} {write : α → List Char} {mark : Char}

/-- Written items behind their commas, up to the closing mark. -/
def continued (write : α → List Char) (mark : Char) (items : List α) : List Char :=
  items.flatMap (fun item => ',' :: write item) ++ [mark]

/-- Written items with commas between them, up to the closing mark. -/
def separated (write : α → List Char) (mark : Char) : List α → List Char
  | [] => [mark]
  | item :: items => write item ++ continued write mark items

theorem ends_continued (write : α → List Char) (hmark : mark = ']' ∨ mark = '\x7d')
    (items : List α) (rest : List Char) : Ends (continued write mark items ++ rest) := by
  intro c hc
  cases items with
  | nil => exact .inr (hmark.imp (Option.some.inj hc ▸ ·) (Option.some.inj hc ▸ ·))
  | cons item items => exact .inl (Option.some.inj hc).symm

theorem moreItems?_continued (hmark : mark = ']' ∨ mark = '\x7d') {items : List α} {bound : Nat}
    (hitems : ∀ item ∈ items, Reads item? (write item) item) (hbound : items.length < bound)
    (rest : List Char) :
    moreItems? item? mark bound (continued write mark items ++ rest) = some (items, rest) := by
  induction items generalizing bound with
  | nil =>
      obtain ⟨bound, rfl⟩ := Nat.exists_eq_succ_of_ne_zero (Nat.ne_zero_of_lt hbound)
      rcases hmark with rfl | rfl <;> rfl
  | cons item items ih =>
      obtain ⟨bound, rfl⟩ := Nat.exists_eq_succ_of_ne_zero (Nat.ne_zero_of_lt hbound)
      obtain ⟨hitem, hitems⟩ := List.forall_mem_cons.mp hitems
      have htext : continued write mark (item :: items) ++ rest =
          ',' :: (write item ++ (continued write mark items ++ rest)) := by
        simp [continued]
      rw [htext]
      simp only [moreItems?, skipSpace_cons (show isSpace ',' = false by decide)]
      rw [hitem.reads _ (ends_continued write hmark items rest)]
      simp [ih hitems (Nat.lt_of_succ_lt_succ hbound)]

theorem items?_separated (hmark : mark = ']' ∨ mark = '\x7d') {items : List α}
    (hitems : ∀ item ∈ items, Reads item? (write item) item) (rest : List Char) :
    items? item? mark (separated write mark items ++ rest) = some (items, rest) := by
  cases items with
  | nil => rcases hmark with rfl | rfl <;> simp [separated, items?, skipSpace_cons, isSpace]
  | cons item items =>
      obtain ⟨hitem, hitems⟩ := List.forall_mem_cons.mp hitems
      obtain ⟨c, tail, hwrite, hspace, hsquare, hcurly⟩ := hitem.starts
      have hc : c ≠ mark := by
        rcases hmark with rfl | rfl
        · exact hsquare
        · exact hcurly
      have hread := hitem.reads _ (ends_continued write hmark items rest)
      have hbound : items.length < (continued write mark items ++ rest).length + 1 := by
        have hlength := length_le_flatMap (f := fun item => ',' :: write item) (by simp) items
        simp only [continued, List.length_append]
        omega
      have htext : separated write mark (item :: items) ++ rest =
          c :: (tail ++ (continued write mark items ++ rest)) := by
        simp [separated, hwrite]
      rw [hwrite, List.cons_append] at hread
      rw [items?, htext, skipSpace_cons hspace]
      simp only [if_neg hc, hread, Option.bind_eq_bind, Option.bind_some,
        moreItems?_continued hmark hitems hbound, Option.pure_def]

end Lists

/-! ## Values -/

/-- The characters of a field. -/
def fieldChars (field : String × Json) : List Char :=
  quoteChars field.1.toList ++ ':' :: chars field.2

theorem itemsChars_eq (items : List Json) : itemsChars items = continued chars ']' items := by
  induction items with
  | nil => rfl
  | cons item items ih =>
      change ',' :: chars item ++ itemsChars items = _
      rw [ih]
      simp [continued]

theorem fieldsChars_eq (fields : List (String × Json)) :
    fieldsChars fields = continued fieldChars '\x7d' fields := by
  induction fields with
  | nil => rfl
  | cons field fields ih =>
      change ',' :: quoteChars field.1.toList ++ ':' :: chars field.2 ++ fieldsChars fields = _
      rw [ih]
      simp [continued, fieldChars]

theorem chars_array (items : List Json) :
    chars (.array items) = '[' :: separated chars ']' items := by
  cases items with
  | nil => rfl
  | cons item items =>
      change '[' :: chars item ++ itemsChars items = _
      rw [itemsChars_eq, separated, List.cons_append]

theorem chars_object (fields : List (String × Json)) :
    chars (.object fields) = '\x7b' :: separated fieldChars '\x7d' fields := by
  cases fields with
  | nil => rfl
  | cons field fields =>
      change '\x7b' :: quoteChars field.1.toList ++ ':' :: chars field.2 ++ fieldsChars fields = _
      rw [fieldsChars_eq, separated]
      simp [fieldChars]

/-- A value nested at most to some depth that holds no numbers but natural ones
of 32 bits. -/
inductive Storable : Nat → Json → Prop
  | null (n : Nat) : Storable n .null
  | bool (n : Nat) (b : Bool) : Storable n (.bool b)
  | word (n : Nat) (k : UInt32) : Storable n (.nat k.toNat)
  | string (n : Nat) (text : String) : Storable n (.string text)
  | array {n : Nat} {items : List Json} (hitems : ∀ item ∈ items, Storable n item) :
      Storable (n + 1) (.array items)
  | object {n : Nat} {fields : List (String × Json)}
      (hfields : ∀ field ∈ fields, Storable n field.2) : Storable (n + 1) (.object fields)

/-- A written string is read behind its opening quote. -/
theorem stringTail?_written (cs rest : List Char) :
    stringTail? .keep ((cs.flatMap escapeChar ++ '"' :: rest).length + 1)
      (cs.flatMap escapeChar ++ '"' :: rest) = some (cs, rest) := by
  apply stringTail?_quoted
  have hlength : cs.length ≤ (cs.flatMap escapeChar).length := by
    refine length_le_flatMap (fun c => ?_) cs
    unfold escapeChar
    split_ifs <;> simp
  rw [List.length_append]
  omega

theorem reads_field (read? : String → List Char → Option (Json × List Char))
    {field : String × Json} (hvalue : Reads (read? field.1) (chars field.2) field.2) :
    Reads (field? .keep read?) (fieldChars field) field where
  starts := ⟨'"', _, rfl, by decide, by decide, by decide⟩
  reads rest hends := by
    have htext : fieldChars field ++ rest =
        '"' :: (field.1.toList.flatMap escapeChar ++ '"' :: ':' :: (chars field.2 ++ rest)) := by
      simp [fieldChars, quoteChars]
    rw [htext, field?, skipSpace_cons (by decide)]
    simp only [stringTail?_written, Option.bind_eq_bind, Option.bind_some,
      skipSpace_cons (show isSpace ':' = false by decide), String.ofList_toList,
      hvalue.reads rest hends, Option.pure_def]

section Value

variable (m : Nat) (text : List Char)

theorem value?_quote : value? .keep (m + 1) ('"' :: text) =
    (stringTail? .keep (text.length + 1) text).map fun (cs, rest) =>
      (.string (String.ofList cs), rest) := rfl

theorem value?_bracket : value? .keep (m + 1) ('[' :: text) =
    (items? (value? .keep m) ']' text).map fun (items, rest) => (.array items, rest) := rfl

theorem value?_brace : value? .keep (m + 1) ('\x7b' :: text) =
    (items? (field? .keep fun _ => value? .keep m) '\x7d' text).map fun (fields, rest) =>
      (.object fields, rest) := rfl

theorem value?_digit {c : Char} (hc : c.isDigit = true) : value? .keep (m + 1) (c :: text) =
    (number? .keep (c :: text)).map fun (n, rest) => (.number n, rest) := by
  have hne := ne_of_isDigit hc
  rw [value?, skipSpace_cons (isSpace_of_isDigit hc)]
  split
  · next heq => exact absurd (List.cons.inj heq).1 (hne 'n' rfl)
  · next heq => exact absurd (List.cons.inj heq).1 (hne 't' rfl)
  · next heq => exact absurd (List.cons.inj heq).1 (hne 'f' rfl)
  · next heq => exact absurd (List.cons.inj heq).1 (hne '"' rfl)
  · next heq => exact absurd (List.cons.inj heq).1 (hne '[' rfl)
  · next heq => exact absurd (List.cons.inj heq).1 (hne '\x7b' rfl)
  · rfl

end Value

theorem Storable.reads {n : Nat} {j : Json} (h : Storable n j) {m : Nat} (hm : n ≤ m) :
    Reads (value? .keep (m + 1)) (chars j) j := by
  induction h generalizing m with
  | null => exact ⟨⟨'n', _, rfl, by decide, by decide, by decide⟩, fun rest _ => rfl⟩
  | bool n b =>
      cases b with
      | true => exact ⟨⟨'t', _, rfl, by decide, by decide, by decide⟩, fun rest _ => rfl⟩
      | false => exact ⟨⟨'f', _, rfl, by decide, by decide, by decide⟩, fun rest _ => rfl⟩
  | word n k =>
      have hk : k.toNat < 2 ^ 64 := k.toNat_lt.trans (by decide)
      obtain ⟨c, digits, hdigits, hc⟩ := toDigits_eq_cons k.toNat
      refine ⟨⟨c, digits, hdigits, isSpace_of_isDigit hc, ne_of_isDigit hc ']' rfl,
        ne_of_isDigit hc '\x7d' rfl⟩, fun rest hends => ?_⟩
      have hnumber := number?_toDigits hk hends
      have htext : chars (.nat k.toNat) ++ rest = c :: (digits ++ rest) := by
        rw [← List.cons_append, ← hdigits]
        rfl
      rw [hdigits, List.cons_append] at hnumber
      rw [htext, value?_digit m _ hc, hnumber]
      rfl
  | string n text =>
      refine ⟨⟨'"', _, rfl, by decide, by decide, by decide⟩, fun rest _ => ?_⟩
      have htext : chars (.string text) ++ rest =
          '"' :: (text.toList.flatMap escapeChar ++ '"' :: rest) := by
        change quoteChars text.toList ++ rest = _
        simp [quoteChars]
      rw [htext, value?_quote]
      simp only [stringTail?_written, Option.map_some, String.ofList_toList]
  | array hitems ih =>
      obtain ⟨m, rfl⟩ := Nat.exists_eq_succ_of_ne_zero (Nat.ne_zero_of_lt hm)
      have hread := items?_separated (.inl rfl) fun item hitem =>
        ih item hitem (Nat.le_of_succ_le_succ hm)
      rw [chars_array]
      refine ⟨⟨'[', _, rfl, by decide, by decide, by decide⟩, fun rest _ => ?_⟩
      rw [List.cons_append, value?_bracket, hread, Option.map_some]
  | object hfields ih =>
      obtain ⟨m, rfl⟩ := Nat.exists_eq_succ_of_ne_zero (Nat.ne_zero_of_lt hm)
      have hread := items?_separated (.inr rfl) fun field hfield =>
        reads_field (fun _ => value? .keep (m + 1)) (ih field hfield (Nat.le_of_succ_le_succ hm))
      rw [chars_object]
      refine ⟨⟨'\x7b', _, rfl, by decide, by decide, by decide⟩, fun rest _ => ?_⟩
      rw [List.cons_append, value?_brace, hread, Option.map_some]

theorem itemsDepth_le {n : Nat} {items : List Json} (hitems : ∀ item ∈ items, item.depth ≤ n) :
    itemsDepth items ≤ n := by
  induction items with
  | nil => exact Nat.zero_le n
  | cons item items ih =>
      obtain ⟨hitem, hitems⟩ := List.forall_mem_cons.mp hitems
      exact Nat.max_le.mpr ⟨hitem, ih hitems⟩

theorem fieldsDepth_le {n : Nat} {fields : List (String × Json)}
    (hfields : ∀ field ∈ fields, field.2.depth ≤ n) : fieldsDepth fields ≤ n := by
  induction fields with
  | nil => exact Nat.zero_le n
  | cons field fields ih =>
      obtain ⟨hfield, hfields⟩ := List.forall_mem_cons.mp hfields
      exact Nat.max_le.mpr ⟨hfield, ih hfields⟩

theorem Storable.depth_le {n : Nat} {j : Json} (h : Storable n j) : j.depth ≤ n := by
  induction h with
  | null | bool | word | string => exact Nat.zero_le _
  | array _ ih => exact Nat.succ_le_succ (itemsDepth_le ih)
  | object _ ih => exact Nat.succ_le_succ (fieldsDepth_le ih)

/-! ## Records -/

/-- A record is read from its text if all its fields are known. -/
theorem parseRecord?_render {names : List String} {fields : List (String × Json)} {n : Nat}
    (hnames : ∀ field ∈ fields, field.1 ∈ names) (hfields : ∀ field ∈ fields, Storable n field.2)
    (hdepth : n ≤ (render (.object fields)).toList.length) :
    parseRecord? names (render (.object fields)) = some (.object fields) := by
  have htext : (render (.object fields)).toList = '\x7b' :: separated fieldChars '\x7d' fields := by
    rw [render, String.toList_ofList, chars_object]
  -- A known field is read for its contents, so the bound on the depth suffices.
  have hreads : ∀ field ∈ fields, Reads (field? .keep fun name =>
      value? (if names.contains name then .keep else .skip)
        ((render (.object fields)).toList.length + 1)) (fieldChars field) field := by
    intro field hfield
    apply reads_field
    rw [if_pos (List.contains_iff_mem.mpr (hnames field hfield))]
    exact (hfields field hfield).reads hdepth
  have hread := items?_separated (.inr rfl) hreads []
  rw [List.append_nil, htext] at hread
  simp only [parseRecord?, htext, skipSpace_cons (show isSpace '\x7b' = false by decide), hread]
  rfl

end Stencil.Json
