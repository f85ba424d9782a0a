import Stencil.Proofs.Text.Cut
import Stencil.Validation.Word

/-!
# What the two searches find

Both searches of the validator go through a text from left to right and stop at
the first place where they find something.  `leftmost?` is what they share, and
`leftmost?_eq_some_iff` says once what such a search finds.

* `KeywordIn`: a reserved word stands in a text as a word of its own; where two
  of them could start at one place, both end there, so they are the same word.
  `findKeyword?` finds the leftmost one (`findKeyword?_eq_some_iff`).
* `CallIn`: a unary operator is called in a text.  `findUnary?` finds the call
  that starts first (`findUnary?_eq_some_iff`).
-/

namespace Stencil.Validation

open Text

/-! ## Leftmost places -/

/-- The first place of a text where `here` finds something, from left to right,
and the character before that place. -/
def leftmost? {α : Type} (here : Option Char → List Char → Option α) (before : Option Char) :
    List Char → Option (Option Char × α)
  | [] => none
  | c :: rest =>
    match here before (c :: rest) with
    | some found => some (before, found)
    | none => leftmost? here (some c) rest

theorem findUnary?_eq_leftmost? (before : Option Char) (text : List Char) :
    findUnary? before text = leftmost? unaryHere? before text := by
  induction text generalizing before with
  | nil => rfl
  | cons c text ih =>
      rw [findUnary?, leftmost?]
      cases unaryHere? before (c :: text) with
      | none => exact ih _
      | some call => rfl

theorem findKeyword?_eq_leftmost? (before : Option Char) (text : List Char) :
    findKeyword? before text = (leftmost? keywordHere? before text).map (·.2) := by
  induction text generalizing before with
  | nil => rfl
  | cons c text ih =>
      rw [findKeyword?, leftmost?]
      cases keywordHere? before (c :: text) with
      | none => exact ih _
      | some keyword => rfl

section Leftmost

variable {α : Type} {here : Option Char → List Char → Option α}

/-- Behind `before`, something is found. -/
def FoundAt (here : Option Char → List Char → Option α) (text before : List Char) (a : α) : Prop :=
  ∃ c rest, text = before ++ c :: rest ∧ here before.getLast? (c :: rest) = some a

/-- Behind `before`, something is found, and nothing further to the left. -/
structure FirstFoundAt (here : Option Char → List Char → Option α) (text before : List Char)
    (a : α) : Prop where
  found : FoundAt here text before a
  first : ∀ before' a', FoundAt here text before' a' → before.length ≤ before'.length

/-- At places of the same text that are equally far to the right the same is
found. -/
theorem FoundAt.unique {text before before' : List Char} {a a' : α}
    (h : FoundAt here text before a) (h' : FoundAt here text before' a')
    (hlength : before.length = before'.length) : before = before' ∧ a = a' := by
  obtain ⟨c, rest, htext, hhere⟩ := h
  obtain ⟨c', rest', htext', hhere'⟩ := h'
  obtain ⟨rfl, hrest⟩ := List.append_inj (htext.symm.trans htext') hlength
  rw [hrest] at hhere
  exact ⟨rfl, Option.some.inj (hhere.symm.trans hhere')⟩

/-- A search that has passed a part of a text and found nothing in it gives what
is at the first place of the whole text. -/
theorem leftmost?_passed (passed text : List Char)
    (hpassed : ∀ before a, FoundAt here (passed ++ text) before a →
      passed.length ≤ before.length) :
    (leftmost? here passed.getLast? text = none ∧
        ∀ before a, ¬ FoundAt here (passed ++ text) before a) ∨
      ∃ before a, leftmost? here passed.getLast? text = some (before.getLast?, a) ∧
        FirstFoundAt here (passed ++ text) before a := by
  induction text generalizing passed with
  | nil =>
      refine Or.inl ⟨rfl, fun before a hfound => ?_⟩
      have hle := hpassed before a hfound
      obtain ⟨c, rest, htext, -⟩ := hfound
      have hlength := congrArg List.length htext
      simp only [List.length_append, List.length_cons, List.length_nil] at hlength
      omega
  | cons c text ih =>
      rw [leftmost?]
      cases hhere : here passed.getLast? (c :: text) with
      | some a => exact Or.inr ⟨passed, a, rfl, ⟨c, text, rfl, hhere⟩, hpassed⟩
      | none =>
          -- nothing is at this place either, so this character has been passed too
          have hnext : ∀ before a, FoundAt here (passed ++ [c] ++ text) before a →
              (passed ++ [c]).length ≤ before.length := by
            intro before a hfound
            rw [List.append_assoc, List.singleton_append] at hfound
            have hle := hpassed before a hfound
            obtain ⟨d, rest, htext, hfound⟩ := hfound
            rw [List.length_append, List.length_singleton]
            by_contra hlt
            obtain ⟨rfl, hrest⟩ := List.append_inj htext (by omega)
            rw [← hrest, hhere] at hfound
            exact nomatch hfound
          have hfound := ih (passed ++ [c]) hnext
          rwa [List.getLast?_concat, List.append_assoc, List.singleton_append] at hfound

theorem leftmost?_cases (here : Option Char → List Char → Option α) (text : List Char) :
    (leftmost? here none text = none ∧ ∀ before a, ¬ FoundAt here text before a) ∨
      ∃ before a, leftmost? here none text = some (before.getLast?, a) ∧
        FirstFoundAt here text before a :=
  leftmost?_passed [] text fun _ _ _ => Nat.zero_le _

theorem leftmost?_eq_none_iff {text : List Char} :
    leftmost? here none text = none ↔ ∀ before a, ¬ FoundAt here text before a := by
  rcases leftmost?_cases here text with ⟨hnone, hnowhere⟩ | ⟨before, a, hsome, hfirst⟩
  · exact iff_of_true hnone hnowhere
  · rw [hsome]
    exact iff_of_false nofun fun hnowhere => hnowhere before a hfirst.found

theorem leftmost?_eq_some_iff {text : List Char} {last : Option Char} {a : α} :
    leftmost? here none text = some (last, a) ↔
      ∃ before, before.getLast? = last ∧ FirstFoundAt here text before a := by
  rcases leftmost?_cases here text with ⟨hnone, hnowhere⟩ | ⟨before, b, hsome, hfirst⟩
  · rw [hnone]
    refine iff_of_false nofun ?_
    rintro ⟨before, -, hfirst⟩
    exact hnowhere before a hfirst.found
  · rw [hsome, Option.some_inj, Prod.mk.injEq]
    constructor
    · rintro ⟨hlast, rfl⟩
      exact ⟨before, hlast, hfirst⟩
    · rintro ⟨before', hlast, hfirst'⟩
      have hlength := Nat.le_antisymm (hfirst.first _ _ hfirst'.found)
        (hfirst'.first _ _ hfirst.found)
      obtain ⟨rfl, rfl⟩ := hfirst.found.unique hfirst'.found hlength
      exact ⟨hlast, rfl⟩

end Leftmost

/-! ## Reserved words -/

/-- A reserved word stands in a text, behind `before`, as a word of its own. -/
structure KeywordIn (text before : List Char) (keyword : String) : Prop where
  prohibited : keyword ∈ prohibitedKeywords
  starts : before.getLast?.any isWord = false
  stands : ∃ behind, text = before ++ keyword.toList ++ behind ∧ behind.head?.any isWord = false

/-- No other reserved word stands further to the left. -/
def LeftmostKeyword (text : List Char) (keyword : String) : Prop :=
  ∃ before, KeywordIn text before keyword ∧
    ∀ before' keyword', KeywordIn text before' keyword' → before.length ≤ before'.length

theorem isWord_of_mem_keyword {keyword : String} (hkeyword : keyword ∈ prohibitedKeywords)
    {c : Char} (hc : c ∈ keyword.toList) : isWord c = true := by
  have hall : prohibitedKeywords.all (fun k => k.toList.all isWord) = true := by decide +kernel
  exact List.all_eq_true.mp (List.all_eq_true.mp hall keyword hkeyword) c hc

theorem keyword_ne_nil {keyword : String} (hkeyword : keyword ∈ prohibitedKeywords) :
    keyword.toList ≠ [] := by
  have hall : prohibitedKeywords.all (fun k => !k.toList.isEmpty) = true := by decide +kernel
  simpa using List.all_eq_true.mp hall keyword hkeyword

/-- Of two words that start at one place and end with it, neither is longer. -/
theorem length_le_of_ends {word word' behind behind' : List Char}
    (htext : word ++ behind = word' ++ behind') (hword : ∀ c ∈ word, isWord c = true)
    (hbehind' : behind'.head?.any isWord = false) : word.length ≤ word'.length := by
  rcases List.append_eq_append_iff.mp htext with ⟨more, rfl, -⟩ | ⟨more, rfl, rfl⟩
  · rw [List.length_append]
    omega
  · cases more with
    | nil => simp
    | cons c more =>
        have hc : isWord c = true := hword c (by simp)
        simp [hc] at hbehind'

/-- Whether a reserved word stands at the start of a text. -/
def keywordStands (before : Option Char) (text : List Char) (keyword : String) : Bool :=
  match dropStart? keyword.toList text with
  | some rest => isBoundary before text.head? && isBoundary keyword.toList.getLast? rest.head?
  | none => false

theorem keywordHere?_eq_find? (before : Option Char) (text : List Char) :
    keywordHere? before text = prohibitedKeywords.find? (keywordStands before text) := rfl

theorem keywordStands_iff {before : Option Char} {text : List Char} {keyword : String}
    (hkeyword : keyword ∈ prohibitedKeywords) :
    keywordStands before text keyword = true ↔ before.any isWord = false ∧
      ∃ behind, text = keyword.toList ++ behind ∧ behind.head?.any isWord = false := by
  have hne := keyword_ne_nil hkeyword
  have hlast : keyword.toList.getLast?.any isWord = true := by
    rw [List.getLast?_eq_some_getLast hne, Option.any_some]
    exact isWord_of_mem_keyword hkeyword (List.getLast_mem hne)
  unfold keywordStands
  cases hdrop : dropStart? keyword.toList text with
  | none =>
      refine iff_of_false Bool.false_ne_true ?_
      rintro ⟨-, behind, htext, -⟩
      rw [dropStart?_eq_some_iff.mpr htext] at hdrop
      exact nomatch hdrop
  | some rest =>
      have htext := dropStart?_eq_some_iff.mp hdrop
      have hhead : text.head?.any isWord = true := by
        obtain ⟨c, word, hword⟩ := List.exists_cons_of_ne_nil hne
        rw [htext, hword, List.cons_append, List.head?_cons, Option.any_some]
        exact isWord_of_mem_keyword hkeyword (by simp [hword])
      have hunique : ∀ behind, text = keyword.toList ++ behind ↔ behind = rest := by
        intro behind
        rw [htext, List.append_cancel_left_eq, eq_comm]
      simp [isBoundary, hhead, hlast, hunique]

theorem keywordHere?_eq_some_iff {before : Option Char} {text : List Char} {keyword : String} :
    keywordHere? before text = some keyword ↔
      keyword ∈ prohibitedKeywords ∧ before.any isWord = false ∧
        ∃ behind, text = keyword.toList ++ behind ∧ behind.head?.any isWord = false := by
  rw [keywordHere?_eq_find?]
  constructor
  · intro hfind
    have hkeyword := List.mem_of_find?_eq_some hfind
    exact ⟨hkeyword, (keywordStands_iff hkeyword).mp (List.find?_some hfind)⟩
  · rintro ⟨hkeyword, hstands⟩
    have hsome : (prohibitedKeywords.find? (keywordStands before text)).isSome = true :=
      List.find?_isSome.mpr ⟨keyword, hkeyword, (keywordStands_iff hkeyword).mpr hstands⟩
    obtain ⟨other, hother⟩ := Option.isSome_iff_exists.mp hsome
    have hmem := List.mem_of_find?_eq_some hother
    obtain ⟨-, behind', htext', hends'⟩ := (keywordStands_iff hmem).mp (List.find?_some hother)
    obtain ⟨-, behind, htext, hends⟩ := hstands
    -- whichever is found first starts and ends with the given one
    have hsame := htext'.symm.trans htext
    have hlength := Nat.le_antisymm
      (length_le_of_ends hsame (fun c => isWord_of_mem_keyword hmem) hends)
      (length_le_of_ends hsame.symm (fun c => isWord_of_mem_keyword hkeyword) hends')
    rw [hother, String.toList_inj.mp (List.append_inj hsame hlength).1]

theorem foundAt_keyword_iff {text before : List Char} {keyword : String} :
    FoundAt keywordHere? text before keyword ↔ KeywordIn text before keyword := by
  unfold FoundAt
  simp only [keywordHere?_eq_some_iff]
  constructor
  · rintro ⟨c, rest, htext, hkeyword, hstarts, behind, hrest, hends⟩
    exact ⟨hkeyword, hstarts, behind, by rw [htext, hrest, List.append_assoc], hends⟩
  · rintro ⟨hkeyword, hstarts, behind, htext, hends⟩
    obtain ⟨c, word, hword⟩ := List.exists_cons_of_ne_nil (keyword_ne_nil hkeyword)
    refine ⟨c, word ++ behind, ?_, hkeyword, hstarts, behind, ?_, hends⟩
    · rw [htext, hword, List.append_assoc, List.cons_append]
    · rw [hword, List.cons_append]

theorem findKeyword?_eq_none_iff {text : List Char} :
    findKeyword? none text = none ↔ ∀ before keyword, ¬ KeywordIn text before keyword := by
  rw [findKeyword?_eq_leftmost?, Option.map_eq_none_iff, leftmost?_eq_none_iff]
  simp only [foundAt_keyword_iff]

/-- The search for reserved words finds the leftmost one. -/
theorem findKeyword?_eq_some_iff {text : List Char} {keyword : String} :
    findKeyword? none text = some keyword ↔ LeftmostKeyword text keyword := by
  rw [findKeyword?_eq_leftmost?, Option.map_eq_some_iff]
  constructor
  · rintro ⟨⟨last, found⟩, hfound, rfl⟩
    obtain ⟨before, -, hfirst⟩ := leftmost?_eq_some_iff.mp hfound
    refine ⟨before, foundAt_keyword_iff.mp hfirst.found, fun before' keyword' hother => ?_⟩
    exact hfirst.first before' keyword' (foundAt_keyword_iff.mpr hother)
  · rintro ⟨before, hkeyword, hfirst⟩
    refine ⟨(before.getLast?, keyword), leftmost?_eq_some_iff.mpr ⟨before, rfl, ?_, ?_⟩, rfl⟩
    · exact foundAt_keyword_iff.mpr hkeyword
    · exact fun before' keyword' hother => hfirst before' keyword' (foundAt_keyword_iff.mp hother)

/-! ## Calls of unary operators -/

/-- A text is a call of a unary operator: the operator, blanks, and what stands
between two parentheses. -/
inductive UnaryCall : List Char → Prop
  | call {operator : String} {blanks inside : List Char} (hoperator : operator ∈ unaryOperators)
      (hblanks : ∀ c ∈ blanks, isBlank c = true) (hinside : ')' ∉ inside) :
      UnaryCall (operator.toList ++ blanks ++ '(' :: inside ++ [')'])

/-- A unary operator that starts a word is called in a text, behind `before`. -/
structure CallIn (text before call : List Char) : Prop where
  isCall : UnaryCall call
  starts : before.getLast?.any isWord = false
  stands : ∃ behind, text = before ++ call ++ behind

/-- No other call starts further to the left. -/
structure FirstCallIn (text before call : List Char) : Prop extends CallIn text before call where
  first : ∀ before' call', CallIn text before' call' → before.length ≤ before'.length

theorem operatorCall?_eq_some_iff {operator : String} {text call : List Char} :
    operatorCall? operator text = some call ↔
      ∃ blanks inside, (∀ c ∈ blanks, isBlank c = true) ∧ ')' ∉ inside ∧
        call = operator.toList ++ blanks ++ '(' :: inside ++ [')'] ∧
          ∃ behind, text = call ++ behind := by
  unfold operatorCall?
  constructor
  · intro hcall
    split at hcall
    · exact nomatch hcall
    · rename_i rest hdrop
      split at hcall
      · rename_i inside htrim
        split at hcall
        · rename_i arguments behind hsplit
          obtain ⟨rfl, harguments⟩ := splitFirst?_eq_some_iff.mp hsplit
          have hrest : rest = rest.takeWhile isBlank ++ '(' :: (arguments ++ ')' :: behind) := by
            rw [← htrim, trimStart, List.takeWhile_append_dropWhile]
          refine ⟨rest.takeWhile isBlank, arguments, ?_, harguments, (Option.some.inj hcall).symm,
            behind, ?_⟩
          · exact List.all_eq_true.mp List.all_takeWhile
          · rw [dropStart?_eq_some_iff.mp hdrop, ← Option.some.inj hcall]
            nth_rewrite 1 [hrest]
            simp
        · exact nomatch hcall
      · exact nomatch hcall
  · rintro ⟨blanks, inside, hblanks, hinside, rfl, behind, htext⟩
    have hdrop : dropStart? operator.toList text =
        some (blanks ++ '(' :: (inside ++ ')' :: behind)) := by
      rw [dropStart?_eq_some_iff, htext]
      simp
    have htrim : trimStart (blanks ++ '(' :: (inside ++ ')' :: behind)) =
        '(' :: (inside ++ ')' :: behind) := by
      rw [trimStart, List.dropWhile_append_of_pos hblanks]
      exact List.dropWhile_cons_of_neg (by decide)
    have htake : (blanks ++ '(' :: (inside ++ ')' :: behind)).takeWhile isBlank = blanks := by
      rw [List.takeWhile_append_of_pos hblanks, List.takeWhile_cons_of_neg (by decide),
        List.append_nil]
    have hsplit : splitFirst? ')' (inside ++ ')' :: behind) = some (inside, behind) :=
      splitFirst?_eq_some_iff.mpr ⟨rfl, hinside⟩
    simp only [hdrop, htrim, htake, hsplit]

theorem exists_append_of_operatorCall? {operator : String} {text call : List Char}
    (hcall : operatorCall? operator text = some call) : ∃ rest, text = operator.toList ++ rest := by
  obtain ⟨blanks, inside, -, -, rfl, behind, rfl⟩ := operatorCall?_eq_some_iff.mp hcall
  exact ⟨blanks ++ '(' :: inside ++ [')'] ++ behind, by simp only [List.append_assoc]⟩

theorem operator_ne_nil {operator : String} (hoperator : operator ∈ unaryOperators) :
    operator.toList ≠ [] := by
  have hall : ∀ a ∈ unaryOperators, a.toList ≠ [] := by simp [unaryOperators]
  exact hall operator hoperator

/-- Only one unary operator can stand at a place. -/
theorem operator_unique {operator operator' : String} (hoperator : operator ∈ unaryOperators)
    (hoperator' : operator' ∈ unaryOperators) {rest rest' : List Char}
    (htext : operator.toList ++ rest = operator'.toList ++ rest') : operator = operator' := by
  have hheads : ∀ a ∈ unaryOperators, ∀ b ∈ unaryOperators,
      a.toList.head? = b.toList.head? → a = b := by decide
  refine hheads operator hoperator operator' hoperator' ?_
  rw [← List.head?_append_of_ne_nil _ (operator_ne_nil hoperator), htext,
    List.head?_append_of_ne_nil _ (operator_ne_nil hoperator')]

/-- An operator can start where no word goes on. -/
theorem isBoundary_operator {operator : String} (hoperator : operator ∈ unaryOperators)
    (before : Option Char) (rest : List Char) :
    isBoundary before (operator.toList ++ rest).head? = true ↔ before.any isWord = false := by
  have hword : ∀ a ∈ unaryOperators, a.toList.head?.any isWord = true := by decide
  rw [List.head?_append_of_ne_nil _ (operator_ne_nil hoperator), isBoundary, hword _ hoperator]
  simp

theorem unaryHere?_eq_some_iff {before : Option Char} {text call : List Char} :
    unaryHere? before text = some call ↔
      UnaryCall call ∧ before.any isWord = false ∧ ∃ behind, text = call ++ behind := by
  unfold unaryHere?
  constructor
  · intro hhere
    split at hhere
    · rename_i hboundary
      obtain ⟨operator, hoperator, hcall⟩ := List.exists_of_findSome?_eq_some hhere
      obtain ⟨rest, hrest⟩ := exists_append_of_operatorCall? hcall
      obtain ⟨blanks, inside, hblanks, hinside, rfl, hbehind⟩ :=
        operatorCall?_eq_some_iff.mp hcall
      rw [hrest, isBoundary_operator hoperator] at hboundary
      exact ⟨.call hoperator hblanks hinside, hboundary, hbehind⟩
    · exact nomatch hhere
  · rintro ⟨⟨hoperator, hblanks, hinside⟩, hstarts, hbehind⟩
    rename_i operator blanks inside
    have hcall := operatorCall?_eq_some_iff.mpr ⟨blanks, inside, hblanks, hinside, rfl, hbehind⟩
    obtain ⟨rest, hrest⟩ := exists_append_of_operatorCall? hcall
    have hboundary : isBoundary before text.head? = true := by
      rwa [hrest, isBoundary_operator hoperator]
    have hsome : (unaryOperators.findSome? fun op => operatorCall? op text).isSome = true :=
      List.findSome?_isSome_iff.mpr ⟨operator, hoperator, by rw [hcall]; rfl⟩
    obtain ⟨found, hfound⟩ := Option.isSome_iff_exists.mp hsome
    obtain ⟨operator', hoperator', hcall'⟩ := List.exists_of_findSome?_eq_some hfound
    obtain ⟨rest', hrest'⟩ := exists_append_of_operatorCall? hcall'
    -- the operator that is found is the given one, and then so is its call
    rw [← operator_unique hoperator hoperator' (hrest.symm.trans hrest'), hcall] at hcall'
    rw [if_pos hboundary, hfound, hcall']

theorem foundAt_unary_iff {text before call : List Char} :
    FoundAt unaryHere? text before call ↔ CallIn text before call := by
  unfold FoundAt
  simp only [unaryHere?_eq_some_iff]
  constructor
  · rintro ⟨c, rest, htext, hcall, hstarts, behind, hrest⟩
    exact ⟨hcall, hstarts, behind, by rw [htext, hrest, List.append_assoc]⟩
  · rintro ⟨hcall, hstarts, behind, htext⟩
    obtain ⟨c, rest, hrest⟩ : ∃ c rest, call ++ behind = c :: rest := by
      refine List.exists_cons_of_ne_nil ?_
      cases hcall
      simp
    refine ⟨c, rest, ?_, hcall, hstarts, behind, hrest.symm⟩
    rw [htext, ← hrest, List.append_assoc]

theorem findUnary?_eq_none_iff {text : List Char} :
    findUnary? none text = none ↔ ∀ before call, ¬ CallIn text before call := by
  rw [findUnary?_eq_leftmost?, leftmost?_eq_none_iff]
  simp only [foundAt_unary_iff]

/-- The search for calls of unary operators finds the one that starts first. -/
theorem findUnary?_eq_some_iff {text call : List Char} {last : Option Char} :
    findUnary? none text = some (last, call) ↔
      ∃ before, before.getLast? = last ∧ FirstCallIn text before call := by
  rw [findUnary?_eq_leftmost?, leftmost?_eq_some_iff]
  constructor
  · rintro ⟨before, hlast, hfound, hfirst⟩
    refine ⟨before, hlast, foundAt_unary_iff.mp hfound, fun before' call' hother => ?_⟩
    exact hfirst before' call' (foundAt_unary_iff.mpr hother)
  · rintro ⟨before, hlast, hcall, hfirst⟩
    refine ⟨before, hlast, foundAt_unary_iff.mpr hcall, fun before' call' hother => ?_⟩
    exact hfirst before' call' (foundAt_unary_iff.mp hother)

theorem FirstCallIn.unique {text before call before' call' : List Char}
    (h : FirstCallIn text before call) (h' : FirstCallIn text before' call') :
    before = before' ∧ call = call' :=
  (foundAt_unary_iff.mpr h.toCallIn).unique (foundAt_unary_iff.mpr h'.toCallIn)
    (Nat.le_antisymm (h.first _ _ h'.toCallIn) (h'.first _ _ h.toCallIn))

theorem CallIn.exists_first {text before call : List Char} (h : CallIn text before call) :
    ∃ before call, FirstCallIn text before call := by
  cases hfind : findUnary? none text with
  | none => exact absurd h (findUnary?_eq_none_iff.mp hfind before call)
  | some found =>
      obtain ⟨last, first⟩ := found
      obtain ⟨before', -, hfirst⟩ := findUnary?_eq_some_iff.mp hfind
      exact ⟨before', first, hfirst⟩

end Stencil.Validation
