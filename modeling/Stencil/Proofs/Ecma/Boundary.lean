import Stencil.Proofs.Ecma.Brackets
import Stencil.Proofs.Text.Cut

/-!
# The last line of a script

A text `post` without quotes and slashes that stands on a line of its own at the end of a script is
always read as the same tokens.  Most readers of the lexer stay in a line (`InLine`).  Strings,
templates and comments can be longer, but they end with a mark of their own, which `post` does not
hold, so that they cannot pass the line feed before `post` either (`Onward`).

The main statement is `Inert.split_path`: on the way to the end of the script a parse takes a token
that stands where `post` starts.
-/

namespace Stencil.Ecma

open Text

/-! ## Reading in a line -/

/-- What is read from `cs` to `rest` holds no line feed. -/
def InLine (cs rest : List Char) : Prop :=
  ∃ used, cs = used ++ rest ∧ '\n' ∉ used

namespace InLine

variable {c : Char} {cs rest behind : List Char}

theorem refl (cs : List Char) : InLine cs cs :=
  ⟨[], rfl, by simp⟩

theorem trans (first : InLine cs rest) (second : InLine rest behind) : InLine cs behind := by
  obtain ⟨used, rfl, hused⟩ := first
  obtain ⟨more, rfl, hmore⟩ := second
  exact ⟨used ++ more, by simp, by simp [hused, hmore]⟩

theorem cons (hc : c ≠ '\n') (h : InLine cs rest) : InLine (c :: cs) rest := by
  obtain ⟨used, rfl, hused⟩ := h
  exact ⟨c :: used, rfl, by simp [hused, hc.symm]⟩

theorem isSuffix (h : InLine cs rest) : rest <:+ cs := by
  obtain ⟨used, rfl, -⟩ := h
  exact List.suffix_append ..

end InLine

theorem inLine_dropWhile {p : Char → Bool} (hp : p '\n' = false) (cs : List Char) :
    InLine cs (cs.dropWhile p) := by
  refine ⟨cs.takeWhile p, List.takeWhile_append_dropWhile.symm, fun hmem => ?_⟩
  have hline := List.all_eq_true.mp List.all_takeWhile _ hmem
  rw [hp] at hline
  exact Bool.false_ne_true hline

theorem ne_lineFeed_of_isDigitOf {radix : Nat} {c : Char} (h : isDigitOf radix c) : c ≠ '\n' := by
  rintro rfl
  exact Bool.false_ne_true h

/-! ## Numbers -/

theorem inLine_digitsFrom (radix : Nat) (d : Digits) (before : Option Char) (cs : List Char)
    (h : d.rest = cs) : InLine cs (digitsFrom radix d before cs).rest := by
  induction cs generalizing d before with
  | nil =>
    unfold digitsFrom
    exact h ▸ .refl _
  | cons c rest ih =>
    unfold digitsFrom
    split
    · rename_i hdigit
      exact .cons (ne_lineFeed_of_isDigitOf hdigit) (ih _ _ rfl)
    · split
      · rename_i hline
        exact .cons (by rw [hline]; decide) (ih _ _ rfl)
      · exact h ▸ .refl _

theorem inLine_digits (radix : Nat) (cs : List Char) : InLine cs (digits radix cs).rest :=
  inLine_digitsFrom radix _ _ cs rfl

theorem closeNumber_rest (t : Reading) : t.closeNumber.rest = t.rest := by
  unfold Reading.closeNumber
  split <;> rfl

theorem inLine_radixNumber (radix : Nat) (cs : List Char) :
    InLine cs (radixNumber radix cs).rest := by
  have hdigits := inLine_digits radix cs
  unfold radixNumber
  extract_lets d
  split
  · exact hdigits
  · split
    · rename_i after hrest
      rw [closeNumber_rest]
      rw [hrest] at hdigits
      exact hdigits.trans (.cons (by decide) (.refl after))
    · rw [closeNumber_rest]
      exact hdigits

theorem inLine_exponentPart {t : Reading} {cs : List Char} (h : InLine cs t.rest) :
    InLine cs (exponentPart t).rest := by
  refine h.trans ?_
  unfold exponentPart
  extract_lets read
  have hread : ∀ cs, InLine cs (read cs).rest := by
    intro cs
    change InLine cs (if _ then _ else _ : Reading).rest
    split
    · exact inLine_digits 10 cs
    · rw [closeNumber_rest]
      exact inLine_digits 10 cs
  split
  case h_5 | h_6 =>
    rename_i hrest
    exact hrest ▸ .cons (by decide) (hread _)
  case h_7 => exact closeNumber_rest t ▸ .refl _
  all_goals
    rename_i hrest
    exact hrest ▸ .cons (by decide) (.cons (by decide) (hread _))

theorem inLine_decimalNumber (cs : List Char) : InLine cs (decimalNumber cs).rest := by
  have hdigits := inLine_digits 10 cs
  unfold decimalNumber
  extract_lets d zero note legacy octal strictNote whole
  split
  · rw [closeNumber_rest]
    exact hdigits
  · split
    · rename_i after hrest
      have hafter : InLine cs after :=
        hdigits.trans (hrest ▸ .cons (by decide) (.refl after))
      split
      · rw [closeNumber_rest]
        exact hdigits
      · rw [closeNumber_rest]
        exact hafter
    · rename_i after hrest
      have hafter : InLine cs after :=
        hdigits.trans (hrest ▸ .cons (by decide) (.refl after))
      extract_lets fraction
      exact inLine_exponentPart (hafter.trans (inLine_digits 10 after))
    · exact inLine_exponentPart hdigits

theorem inLine_number (cs : List Char) : InLine cs (number cs).rest := by
  unfold number
  split
  case h_7 => exact inLine_decimalNumber cs
  all_goals exact .cons (by decide) (.cons (by decide) (inLine_radixNumber _ _))

/-! ## Escapes, names and regular expressions -/

theorem inLine_codePoint {cs after : List Char} {code : Nat}
    (h : codePoint cs = .ok (code, after)) : InLine cs after := by
  unfold codePoint at h
  split at h
  · rename_i rest
    extract_lets ds at h
    have hds : InLine rest (rest.drop ds.length) := by
      have hcut : rest = ds ++ rest.dropWhile (isDigitOf 16) :=
        List.takeWhile_append_dropWhile.symm
      have hdrop : rest.drop ds.length = rest.dropWhile (isDigitOf 16) := by
        conv => lhs; rw [hcut]
        exact List.drop_left
      rw [hdrop]
      exact inLine_dropWhile rfl rest
    split at h
    · cases h
    · split at h
      · rename_i hclose
        cases h
        rw [hclose] at hds
        exact .cons (by decide) (hds.trans (.cons (by decide) (.refl _)))
      · cases h
  · split at h
    · rename_i hhex
      cases h
      simp only [List.all_cons, List.all_nil, Bool.and_true, Bool.and_eq_true] at hhex
      obtain ⟨ha, hb, hc, hd⟩ := hhex
      refine .cons (ne_lineFeed_of_isDigitOf ha) (.cons (ne_lineFeed_of_isDigitOf hb) ?_)
      exact .cons (ne_lineFeed_of_isDigitOf hc) (.cons (ne_lineFeed_of_isDigitOf hd) (.refl _))
    · cases h
  · cases h

theorem ne_lineFeed_of_isIdentifierPart {c : Char} (h : isIdentifierPart c) : c ≠ '\n' := by
  rintro rfl
  exact absurd h (by decide)

theorem inLine_nameText {n : Nat} {text text' cs rest : List Char} {escaped escaped' : Bool}
    (h : nameText n text escaped cs = .ok (text', escaped', rest)) : InLine cs rest := by
  fun_induction nameText n text escaped cs with
  | case2 _ _ _ _ _ _ hcode _ _ ih =>
    exact .cons (by decide) (.cons (by decide) ((inLine_codePoint hcode).trans (ih h)))
  | case6 _ _ _ _ _ _ _ hpart ih => exact .cons (ne_lineFeed_of_isIdentifierPart hpart) (ih h)
  | case3 | case4 | case5 => cases h
  | case1 | case7 | case8 =>
    cases h
    exact .refl _

theorem ne_lineFeed_of_not_isLineEnd {c : Char} (h : ¬ isLineEnd c) : c ≠ '\n' := by
  rintro rfl
  exact h rfl

theorem inLine_regexEnd? {inClass : Bool} {cs rest : List Char}
    (h : regexEnd? inClass cs = some rest) : InLine cs rest := by
  fun_induction regexEnd? inClass cs with
  | case1 | case2 | case4 => cases h
  | case3 _ _ _ hline ih =>
    exact .cons (by decide) (.cons (ne_lineFeed_of_not_isLineEnd hline) (ih h))
  | case5 _ _ _ _ hline =>
    cases h
    exact .cons (ne_lineFeed_of_not_isLineEnd hline) (.refl _)
  | case6 _ _ _ hline _ ih => exact .cons (ne_lineFeed_of_not_isLineEnd hline) (ih h)
  | case7 _ _ _ hline _ _ ih => exact .cons (ne_lineFeed_of_not_isLineEnd hline) (ih h)
  | case8 _ _ _ _ hline _ _ _ ih => exact .cons (ne_lineFeed_of_not_isLineEnd hline) (ih h)

theorem inLine_regexFlagsAt {cs flags rest : List Char}
    (h : regexFlagsAt cs = .ok (flags, rest)) : InLine cs rest := by
  unfold regexFlagsAt at h
  split at h
  · cases hname : nameText cs.length [] false cs with
    | error e =>
      rw [hname] at h
      cases h
    | ok read =>
      obtain ⟨text, escaped, rest'⟩ := read
      rw [hname] at h
      cases h
      exact inLine_nameText hname
  · cases h
    exact .refl _

theorem inLine_punct? {cs rest : List Char} {p : Punct} (h : punct? cs = some (p, rest)) :
    InLine cs rest := by
  obtain ⟨⟨text, p'⟩, hmem, hentry⟩ := List.exists_of_findSome?_eq_some h
  have hline : ∀ entry ∈ Punct.table, '\n' ∉ entry.1.toList := by decide
  cases hdrop : dropStart? text.toList cs with
  | none => simp [hdrop] at hentry
  | some rest' =>
    dsimp only at hentry
    rw [hdrop] at hentry
    cases hentry
    exact ⟨text.toList, dropStart?_eq_some_iff.mp hdrop, hline _ hmem⟩

/-! ## Strings and templates -/

theorem isSuffix_of_skipEscape {cs after : List Char} (h : skipEscape cs = .ok after) :
    after <:+ cs := by
  unfold skipEscape at h
  split at h
  · rename_i rest
    cases hcode : codePoint rest with
    | error e =>
      rw [hcode] at h
      cases h
    | ok read =>
      rw [hcode] at h
      cases h
      exact (inLine_codePoint hcode).isSuffix.trans (List.suffix_cons ..)
  · split at h
    · split at h
      · cases h
        exact ⟨['x', _, _], rfl⟩
      · cases h
    · cases h
  · cases h
    exact ⟨['\x0d', '\n'], rfl⟩
  · cases h
    exact List.suffix_cons ..
  · cases h
    exact List.suffix_refl _

/-- A token that is read without a fault. -/
structure Reading.IsClean (t : Reading) : Prop where
  note : t.note = none
  token (e : Fault) : t.token ≠ .broken e

/-- A string that is read without a fault ends with its quote. -/
theorem isSuffix_of_stringFrom {quote : Char} {n : Nat} {raw cs : List Char} {octal : Bool}
    (h : (stringFrom quote n raw octal cs).IsClean) :
    quote :: (stringFrom quote n raw octal cs).rest <:+ cs := by
  fun_induction stringFrom quote n raw octal cs with
  | case1 | case2 | case3 | case7 => cases h.note
  | case4 _ _ _ _ _ _ hescape ih =>
    rw [hescape] at h ⊢
    exact (ih h).trans ((isSuffix_of_skipEscape hescape).trans (List.suffix_cons ..))
  | case5 _ _ _ _ _ _ hescape =>
    rw [hescape] at h
    exact absurd rfl (h.token _)
  | case6 => exact List.suffix_refl _
  | case8 _ _ _ _ _ _ _ _ ih => exact (ih h).trans (List.suffix_cons ..)

/-- A part of a template ends with a backquote or the start of a substitution. -/
theorem isSuffix_of_templatePart {n : Nat} {fault : Option Fault} {cs : List Char}
    {part : TemplatePart} (h : templatePart n fault cs = some part) :
    (if part.complete then '`' :: part.rest else '$' :: '{' :: part.rest) <:+ cs := by
  fun_induction templatePart n fault cs with
  | case1 | case2 | case5 => cases h
  | case3 | case4 =>
    cases h
    exact List.suffix_refl _
  | case6 _ _ _ _ hoctal ih =>
    rw [if_pos hoctal] at h
    exact (ih h).trans ⟨['\\', _], rfl⟩
  | case7 _ _ _ _ _ hoctal hescape ih =>
    rw [if_neg hoctal, hescape] at h
    exact (ih h).trans ((isSuffix_of_skipEscape hescape).trans (List.suffix_cons ..))
  | case8 _ _ _ _ _ hoctal hescape ih =>
    rw [if_neg hoctal, hescape] at h
    exact (ih h).trans ⟨['\\', _], rfl⟩
  | case9 _ _ _ _ _ _ _ ih => exact (ih h).trans (List.suffix_cons ..)

/-! ## Texts in which nothing ends -/

/-- A text behind which a token before its line cannot reach: no string, template, comment or
regular expression ends in it, and it starts with a token. -/
structure Inert (post : List Char) : Prop where
  marks : ∀ q ∈ ['"', '\'', '`', '$', '/'], q ∉ post
  starts (n : Nat) (line : Bool) : (skipTrivia n line post).rest = post

/-- Reading goes on from `cs` to `rest`, and does not pass the line feed before `post`. -/
structure Onward (post cs rest : List Char) : Prop where
  isSuffix : rest <:+ cs
  keeps : '\n' :: post <:+ cs → '\n' :: post <:+ rest

section Onward

variable {post cs rest behind : List Char} {q : Char}

theorem Onward.refl (cs : List Char) : Onward post cs cs :=
  ⟨List.suffix_refl cs, fun h => h⟩

theorem Onward.trans (first : Onward post cs rest) (second : Onward post rest behind) :
    Onward post cs behind :=
  ⟨second.isSuffix.trans first.isSuffix, fun h => second.keeps (first.keeps h)⟩

theorem InLine.onward (h : InLine cs rest) : Onward post cs rest := by
  refine ⟨h.isSuffix, ?_⟩
  obtain ⟨used, rfl, hused⟩ := h
  rintro ⟨before, hbefore⟩
  rcases List.append_eq_append_iff.mp hbefore with ⟨between, hcut, htail⟩ | ⟨between, -, hrest⟩
  · cases between with
    | nil => exact ⟨[], htail⟩
    | cons c between =>
      obtain rfl : '\n' = c := (List.cons.inj htail).1
      exact absurd (hcut ▸ List.mem_append_right _ List.mem_cons_self) hused
  · exact ⟨between, hrest.symm⟩

/-- Reading that ends with a mark does not pass a text without the mark. -/
theorem onward_of_mark (hq : q ∉ '\n' :: post) (h : q :: rest <:+ cs) : Onward post cs rest := by
  refine ⟨(List.suffix_cons ..).trans h, fun ht => ?_⟩
  rcases List.suffix_or_suffix_of_suffix ht h with hsuffix | hsuffix
  · rcases List.suffix_cons_iff.mp hsuffix with heq | hrest
    · exact absurd (heq ▸ List.mem_cons_self) hq
    · exact hrest
  · exact absurd (hsuffix.subset List.mem_cons_self) hq

theorem Inert.onward_of_mark (hpost : Inert post) (hq : q ∈ ['"', '\'', '`', '$', '/'])
    (h : q :: rest <:+ cs) : Onward post cs rest := by
  refine Ecma.onward_of_mark (fun hmem => ?_) h
  rcases List.mem_cons.mp hmem with rfl | hmem
  · exact absurd hq (by decide)
  · exact hpost.marks q hq hmem

theorem Inert.onward_templatePart (hpost : Inert post) {n : Nat} {fault : Option Fault}
    {part : TemplatePart} (h : templatePart n fault cs = some part) :
    Onward post cs part.rest := by
  have hmark := isSuffix_of_templatePart h
  split at hmark
  · exact hpost.onward_of_mark (by decide) hmark
  · have hopening := hpost.onward_of_mark (by decide) hmark
    exact hopening.trans (InLine.cons (by decide) (.refl _)).onward

theorem onward_nameReading (h : (nameReading cs).IsClean) :
    Onward post cs (nameReading cs).rest := by
  revert h
  unfold nameReading
  split
  · exact fun h => absurd rfl (h.token _)
  · rename_i hname
    intro _
    dsimp only
    have honward : Onward post cs _ := (inLine_nameText hname).onward
    split
    · exact honward
    · split
      · exact honward
      · exact honward

theorem Inert.onward_readToken (hpost : Inert post) (h : (readToken cs).IsClean) :
    Onward post cs (readToken cs).rest := by
  revert h
  cases cs with
  | nil => exact fun _ => .refl _
  | cons c cs =>
    unfold readToken
    dsimp only
    split
    · exact fun _ => (inLine_number _).onward
    · split
      · rename_i hquote
        intro h
        refine hpost.onward_of_mark ?_ ((isSuffix_of_stringFrom h).trans (List.suffix_cons ..))
        rw [Bool.or_eq_true, decide_eq_true_iff, decide_eq_true_iff] at hquote
        rcases hquote with rfl | rfl <;> decide
      · split
        · rename_i hquote
          split
          · rename_i hpart
            intro _
            have hc : c ≠ '\n' := by
              rw [hquote]
              decide
            exact (InLine.cons hc (.refl _)).onward.trans (hpost.onward_templatePart hpart)
          · exact fun h => absurd rfl (h.token _)
        · split
          · exact onward_nameReading
          · split
            · rename_i hpunct
              exact fun _ => (inLine_punct? hpunct).onward
            · exact fun h => absurd rfl (h.token _)

/-! ## Blanks and comments -/

theorem inLine_skipLine (cs : List Char) : InLine cs (skipLine cs) :=
  inLine_dropWhile rfl cs

theorem isSuffix_of_skipBlock? {after : List Char} {line : Bool}
    (h : skipBlock? cs = some (line, after)) : '/' :: after <:+ cs := by
  induction cs using skipBlock?.induct generalizing line with
  | case1 => cases h
  | case2 =>
    cases h
    exact ⟨['*'], rfl⟩
  | case3 c rest _ ih =>
    rw [skipBlock?, Option.map_eq_some_iff] at h
    · obtain ⟨⟨inside, after'⟩, hrest, hafter⟩ := h
      cases hafter
      exact (ih hrest).trans (List.suffix_cons ..)
    · assumption

theorem isSuffix_skipTrivia (n : Nat) (line : Bool) (cs : List Char) :
    (skipTrivia n line cs).rest <:+ cs := by
  fun_induction skipTrivia n line cs with
  | case1 | case7 | case10 | case11 => exact List.suffix_refl _
  | case4 => exact List.nil_suffix
  | case2 _ _ rest ih => exact ih.trans ((inLine_skipLine rest).isSuffix.trans ⟨['/', '/'], rfl⟩)
  | case3 _ _ _ _ _ hblock ih =>
    have hafter := (List.suffix_cons ..).trans (isSuffix_of_skipBlock? hblock)
    exact ih.trans (hafter.trans ⟨['/', '*'], rfl⟩)
  | case5 _ _ rest ih =>
    exact ih.trans ((inLine_skipLine rest).isSuffix.trans ⟨['<', '!', '-', '-'], rfl⟩)
  | case6 _ rest ih =>
    exact ih.trans ((inLine_skipLine rest).isSuffix.trans ⟨['-', '-', '>'], rfl⟩)
  | case8 _ _ _ _ _ _ _ _ _ ih => exact ih.trans (List.suffix_cons ..)
  | case9 _ _ _ _ _ _ _ _ _ _ ih => exact ih.trans (List.suffix_cons ..)

/-- Skipping blanks and comments stops before the line feed, or behind it. -/
theorem Inert.skipTrivia_cases (hpost : Inert post) {n : Nat} {line : Bool}
    (ht : '\n' :: post <:+ cs) (hfault : (skipTrivia n line cs).fault = none) :
    '\n' :: post <:+ (skipTrivia n line cs).rest ∨ (skipTrivia n line cs).rest = post := by
  have hcomment (mark : List Char) {rest : List Char} (hmark : '\n' ∉ mark)
      (h : '\n' :: post <:+ mark ++ rest) : '\n' :: post <:+ skipLine rest := by
    have hbehind : InLine (mark ++ rest) rest := ⟨mark, rfl, hmark⟩
    exact (hbehind.trans (inLine_skipLine rest)).onward.keeps h
  fun_induction skipTrivia n line cs with
  | case1 | case7 | case10 | case11 => exact .inl ht
  | case4 => cases hfault
  | case2 _ _ _ ih => exact ih (hcomment ['/', '/'] (by decide) ht) hfault
  | case3 _ _ _ _ _ hblock ih =>
    refine ih ((hpost.onward_of_mark (q := '/') (by decide) ?_).keeps ht) hfault
    exact (isSuffix_of_skipBlock? hblock).trans ⟨['/', '*'], rfl⟩
  | case5 _ _ _ ih => exact ih (hcomment ['<', '!', '-', '-'] (by decide) ht) hfault
  | case6 _ _ ih => exact ih (hcomment ['-', '-', '>'] (by decide) ht) hfault
  | case8 n _ _ _ _ _ _ _ _ ih =>
    -- The line feed itself is skipped when it comes first.
    rcases List.suffix_cons_iff.mp ht with hfeed | hrest
    · obtain ⟨-, rfl⟩ := List.cons.inj hfeed
      exact .inr (hpost.starts n true)
    · exact ih hrest hfault
  | case9 _ _ _ _ _ _ _ _ hline _ ih =>
    have hc := ne_lineFeed_of_not_isLineEnd hline
    exact ih ((InLine.cons hc (.refl _)).onward.keeps ht) hfault

/-! ## The end of the text -/

theorem closeNumber_ne_endOfInput {t : Reading} (h : t.token ≠ .endOfInput) :
    t.closeNumber.token ≠ .endOfInput := by
  unfold Reading.closeNumber
  split
  · exact Token.noConfusion
  · exact h

theorem exponentPart_ne_endOfInput {t : Reading} (h : t.token ≠ .endOfInput) :
    (exponentPart t).token ≠ .endOfInput := by
  unfold exponentPart
  extract_lets read
  have hread (cs : List Char) : (read cs).token ≠ .endOfInput := by
    unfold read
    extract_lets d note
    split
    · exact Token.noConfusion
    · exact closeNumber_ne_endOfInput h
  split
  case h_7 => exact closeNumber_ne_endOfInput h
  all_goals exact hread _

theorem number_ne_endOfInput (cs : List Char) : (number cs).token ≠ .endOfInput := by
  have hradix (radix : Nat) (cs : List Char) : (radixNumber radix cs).token ≠ .endOfInput := by
    unfold radixNumber
    extract_lets d
    split
    · exact Token.noConfusion
    · split <;> exact closeNumber_ne_endOfInput Token.noConfusion
  unfold number
  split
  case h_7 =>
    unfold decimalNumber
    extract_lets d zero note legacy octal strictNote whole
    split
    · exact closeNumber_ne_endOfInput Token.noConfusion
    · split
      · split <;> exact closeNumber_ne_endOfInput Token.noConfusion
      · exact exponentPart_ne_endOfInput Token.noConfusion
      · exact exponentPart_ne_endOfInput Token.noConfusion
  all_goals exact hradix _ _

theorem stringFrom_ne_endOfInput (quote : Char) (n : Nat) (raw : List Char) (octal : Bool)
    (cs : List Char) : (stringFrom quote n raw octal cs).token ≠ .endOfInput := by
  fun_induction stringFrom quote n raw octal cs with
  | case1 | case2 | case3 | case6 | case7 => exact Token.noConfusion
  | case4 _ _ _ _ _ _ hescape ih =>
    rw [hescape]
    exact ih
  | case5 _ _ _ _ _ _ hescape =>
    rw [hescape]
    exact Token.noConfusion
  | case8 _ _ _ _ _ _ _ _ ih => exact ih

theorem readToken_cons_ne_endOfInput (c : Char) (cs : List Char) :
    (readToken (c :: cs)).token ≠ .endOfInput := by
  unfold readToken
  dsimp only
  split
  · exact number_ne_endOfInput _
  · split
    · exact stringFrom_ne_endOfInput _ _ _ _ _
    · split
      · split <;> exact Token.noConfusion
      · split
        · unfold nameReading
          split
          · exact Token.noConfusion
          · extract_lets text
            split
            · exact Token.noConfusion
            · split <;> exact Token.noConfusion
        · split <;> exact Token.noConfusion

theorem start_of_endOfInput (h : (Lexeme.next cs).token = .endOfInput) :
    (Lexeme.next cs).start = [] := by
  have hend : (readToken (Lexeme.next cs).start).token = .endOfInput := h
  cases hstart : (Lexeme.next cs).start with
  | nil => rfl
  | cons c behind =>
    rw [hstart] at hend
    exact absurd hend (readToken_cons_ne_endOfInput c behind)

/-! ## From token to token -/

/-- A token that is taken is whole, and so is read without a fault. -/
theorem isClean_of_after? {st st' : List Opening} (hnote : (Lexeme.next cs).note = none)
    (hafter : (Lexeme.next cs).after? st = some st') :
    (readToken (Lexeme.next cs).start).IsClean := by
  refine ⟨(Option.or_eq_none_iff.mp hnote).2, fun fault hbroken => ?_⟩
  have htoken : (Lexeme.next cs).token = .broken fault := hbroken
  unfold Lexeme.after? at hafter
  rw [htoken] at hafter
  cases hafter

theorem ne_lineFeed_of_isClean {c : Char} (h : (readToken (c :: cs)).IsClean) : c ≠ '\n' := by
  rintro rfl
  exact h.token _ rfl

/-- A token that is taken starts before the line feed, not at it. -/
theorem length_lt_of_isClean (h : (readToken cs).IsClean) (ht : '\n' :: post <:+ cs) :
    post.length + 1 < cs.length := by
  refine Nat.lt_of_le_of_ne ht.length_le fun hlength => ?_
  obtain rfl := ht.eq_of_length hlength
  exact ne_lineFeed_of_isClean h rfl

theorem Inert.next_cases (hpost : Inert post) (ht : '\n' :: post <:+ cs)
    (hnote : (Lexeme.next cs).note = none) :
    '\n' :: post <:+ (Lexeme.next cs).start ∨ (Lexeme.next cs).start = post :=
  hpost.skipTrivia_cases ht (Option.or_eq_none_iff.mp hnote).1

/-- The text behind a token that is taken, wherever the parse goes on, does not pass the line
feed. -/
theorem Inert.onward_of_follows (hpost : Inert post) {st st' : List Opening} {m : Lexeme}
    (hnote : (Lexeme.next cs).note = none) (hafter : (Lexeme.next cs).after? st = some st')
    (hfollows : (Lexeme.next cs).Follows m) :
    ∃ behind, m = Lexeme.next behind ∧ Onward post (Lexeme.next cs).start behind := by
  have hclean := isClean_of_after? hnote hafter
  have hrest : Onward post (Lexeme.next cs).start (Lexeme.next cs).rest :=
    hpost.onward_readToken hclean
  cases hfollows with
  | rest => exact ⟨_, rfl, hrest⟩
  | regex htoken hend hflags =>
    refine ⟨_, rfl, ?_⟩
    have hslash : Onward post (Lexeme.next cs).start ((Lexeme.next cs).start.drop 1) := by
      generalize (Lexeme.next cs).start = start at hclean
      cases start with
      | nil => exact .refl _
      | cons c start => exact (InLine.cons (ne_lineFeed_of_isClean hclean) (.refl _)).onward
    exact hslash.trans ((inLine_regexEnd? hend).trans (inLine_regexFlagsAt hflags)).onward
  | template htoken hpart => exact ⟨_, rfl, hrest.trans (hpost.onward_templatePart hpart)⟩

/-- A path to the end of a text that ends in an inert text has a token that stands where the inert
text starts, and the tokens before it start before the line feed. -/
theorem Inert.split_path (hpost : Inert post) {l n : Lexeme} {st st' : List Opening}
    {ts : List Lexeme} (path : Path l st ts st' n) (hn : n.token = .endOfInput)
    (hl : ∃ cs, l = Lexeme.next cs) (hnote : l.note = none)
    (hstart : '\n' :: post <:+ l.start ∨ l.start = post) :
    ∃ own closing m st₁, ts = own ++ closing ∧ Path l st own st₁ m ∧ Path m st₁ closing st' n ∧
      (∃ cs, m = Lexeme.next cs) ∧ m.start = post ∧
      ∀ t ∈ own, post.length + 1 < t.start.length ∧ t.start <:+ l.start := by
  rcases hstart with hstart | hstart
  case inr => exact ⟨[], _, l, st, rfl, .nil, path, hl, hstart, by simp⟩
  -- A step from before the line feed ends before it again, or at the inert text.
  induction path with
  | nil =>
    obtain ⟨cs, rfl⟩ := hl
    rw [start_of_endOfInput hn] at hstart
    exact absurd hstart.length_le (by simp)
  | cons hafter hfollows hm path ih =>
    rename_i l m n st st₁ st'' ts
    obtain ⟨cs, rfl⟩ := hl
    obtain ⟨behind, rfl, honward⟩ := hpost.onward_of_follows hnote hafter hfollows
    have hsuffix : (Lexeme.next behind).start <:+ (Lexeme.next cs).start :=
      (isSuffix_skipTrivia ..).trans honward.isSuffix
    have hlength : post.length + 1 < (Lexeme.next cs).start.length :=
      length_lt_of_isClean (isClean_of_after? hnote hafter) hstart
    rcases hpost.next_cases (honward.keeps hstart) hm with hm' | hm'
    · obtain ⟨own, closing, m, st₂, rfl, hown, hclosing, hnext, hpost', hmem⟩ :=
        ih hn ⟨_, rfl⟩ hm hm'
      refine ⟨_ :: own, closing, m, st₂, rfl, .cons hafter hfollows hm hown, hclosing, hnext,
        hpost', fun t ht => ?_⟩
      rcases List.mem_cons.mp ht with rfl | ht
      · exact ⟨hlength, List.suffix_refl _⟩
      · exact ⟨(hmem t ht).1, (hmem t ht).2.trans hsuffix⟩
    · refine ⟨[_], ts, _, st₁, rfl, .cons hafter hfollows hm .nil, path, ⟨_, rfl⟩, hm', ?_⟩
      intro t ht
      obtain rfl := List.mem_singleton.mp ht
      exact ⟨hlength, List.suffix_refl _⟩

end Onward

end Stencil.Ecma
