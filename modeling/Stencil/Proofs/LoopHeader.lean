import Stencil.LoopHeader
import Stencil.Proofs.Text.Cut
import Stencil.Proofs.Text.Trim

/-!
# Loop headers are read as they are written

A header is divided by the first keyword that has blanks around it, and its head
by the first comma behind which there is room for iterators only.  Both searches
can go wrong: a pattern such as `{ id, name }` has commas of its own, and a source
may hold further keywords.

* `Divided` says that a text holds a keyword between blanks, and the reader fails
  on just the texts that do not (`split?_eq_none_iff`).
* `ClosesCommas` says that behind every comma of a pattern the pattern is still
  closed somewhere, so that none of its commas starts the iterators
  (`splitIterators?_append`).
* `parse?_reads_back`: a header that is written in parentheses is read back.
-/

namespace Stencil.LoopHeader

open Text

/-! ## Dividers -/

/-- The words that divide a head from its source. -/
def keywords : List String := ["in", "of"]

/-- A keyword stands in a text, with a blank directly before and behind it. -/
def Divided (text : List Char) : Prop :=
  ∃ before after c d, ∃ keyword ∈ keywords, isBlank c = true ∧ isBlank d = true ∧
    text = before ++ c :: keyword.toList ++ d :: after

section Dividers

variable {text head rest source : List Char} {keyword : String} {c : Char}

theorem keyword?_eq_some_iff :
    keyword? text = some rest ↔ ∃ keyword ∈ keywords, text = keyword.toList ++ rest := by
  constructor
  · intro hrest
    unfold keyword? at hrest
    split at hrest
    · obtain rfl := Option.some.inj hrest
      exact ⟨"in", by decide, rfl⟩
    · obtain rfl := Option.some.inj hrest
      exact ⟨"of", by decide, rfl⟩
    · cases hrest
  · rintro ⟨keyword, hkeyword, rfl⟩
    rcases List.mem_pair.mp hkeyword with rfl | rfl
    · rfl
    · rfl

theorem not_isBlank_of_mem_keyword (hkeyword : keyword ∈ keywords) (hc : c ∈ keyword.toList) :
    isBlank c = false := by
  rcases List.mem_pair.mp hkeyword with rfl | rfl
  · rcases List.mem_pair.mp hc with rfl | rfl <;> decide
  · rcases List.mem_pair.mp hc with rfl | rfl <;> decide

/-- Blanks before a keyword are all skipped, and nothing of the keyword is. -/
theorem trimStart_blanks_keyword {blanks : List Char} (hblanks : ∀ c ∈ blanks, isBlank c = true)
    (hkeyword : keyword ∈ keywords) (rest : List Char) :
    trimStart (blanks ++ (keyword.toList ++ rest)) = keyword.toList ++ rest := by
  rw [trimStart, List.dropWhile_append_of_pos hblanks]
  apply trimStart_of_head?
  intro c hc
  have hmem : c ∈ keyword.toList := by
    rcases List.mem_pair.mp hkeyword with rfl | rfl <;>
      exact Option.some.inj hc ▸ List.mem_cons_self
  exact not_isBlank_of_mem_keyword hkeyword hmem

/-- What a divider at the start of a text is made of. -/
theorem divider?_eq_some_iff :
    divider? text = some source ↔
      ∃ blanks rest d, ∃ keyword ∈ keywords, blanks ≠ [] ∧ (∀ c ∈ blanks, isBlank c = true) ∧
        isBlank d = true ∧ text = blanks ++ (keyword.toList ++ d :: rest) ∧
        source = trimStart rest := by
  constructor
  · intro hsource
    unfold divider? at hsource
    split at hsource
    · cases hsource
    · next c tail =>
        split_ifs at hsource with hc
        split at hsource
        · next d rest hrest =>
            split_ifs at hsource with hd
            obtain ⟨keyword, hkeyword, htext⟩ := keyword?_eq_some_iff.mp hrest
            obtain ⟨blanks, hblanks, hall⟩ := exists_trimStart (c :: tail)
            refine ⟨blanks, rest, d, keyword, hkeyword, ?_, hall, hd, ?_, ?_⟩
            · -- the first character is blank, so that trimming takes it
              rintro rfl
              have hhead : (trimStart (c :: tail)).head? = some c := by
                rw [List.nil_append] at hblanks
                rw [← hblanks, List.head?_cons]
              rw [head?_trimStart _ c hhead] at hc
              exact Bool.false_ne_true hc
            · rw [← htext]
              exact hblanks
            · exact (Option.some.inj hsource).symm
        · cases hsource
  · rintro ⟨blanks, rest, d, keyword, hkeyword, hne, hall, hd, rfl, rfl⟩
    have hread : keyword? (trimStart (blanks ++ (keyword.toList ++ d :: rest))) =
        some (d :: rest) := by
      rw [trimStart_blanks_keyword hall hkeyword]
      exact keyword?_eq_some_iff.mpr ⟨keyword, hkeyword, rfl⟩
    obtain ⟨c, blanks, rfl⟩ := List.exists_cons_of_ne_nil hne
    rw [List.cons_append] at hread ⊢
    simp only [divider?, hall c List.mem_cons_self, hread, hd, if_true]

/-- A text is divided if a divider starts somewhere in it. -/
theorem divided_iff :
    Divided text ↔
      ∃ before after source, text = before ++ after ∧ divider? after = some source := by
  constructor
  · rintro ⟨before, after, c, d, keyword, hkeyword, hc, hd, rfl⟩
    refine ⟨before, c :: (keyword.toList ++ d :: after), trimStart after, by simp, ?_⟩
    refine divider?_eq_some_iff.mpr ⟨[c], after, d, keyword, hkeyword, by simp, ?_, hd, rfl, rfl⟩
    exact fun x hx => List.mem_singleton.mp hx ▸ hc
  · rintro ⟨before, after, source, rfl, hsource⟩
    obtain ⟨blanks, rest, d, keyword, hkeyword, hne, hall, hd, rfl, -⟩ :=
      divider?_eq_some_iff.mp hsource
    -- the last of the blanks stands directly before the keyword
    refine ⟨before ++ blanks.dropLast, rest, blanks.getLast hne, d, keyword, hkeyword,
      hall _ (List.getLast_mem hne), hd, ?_⟩
    conv_lhs => rw [← List.dropLast_append_getLast hne]
    simp

theorem split?_of_divider? (hhere : divider? text = some source) :
    split? text = some ([], source) := by
  cases text with
  | nil => cases hhere
  | cons c text =>
      rw [split?.eq_def]
      simp only [hhere]

theorem split?_cons (hhere : divider? (c :: text) = none) :
    split? (c :: text) = (split? text).map fun (head, source) => (c :: head, source) := by
  rw [split?.eq_def]
  simp only [hhere]

theorem split?_eq_none_iff : split? text = none ↔ ¬ Divided text := by
  rw [divided_iff]
  induction text with
  | nil =>
      refine iff_of_true rfl ?_
      rintro ⟨before, after, source, hnil, hsource⟩
      obtain ⟨-, rfl⟩ := List.append_eq_nil_iff.mp hnil.symm
      cases hsource
  | cons c text ih =>
      cases hhere : divider? (c :: text) with
      | some source =>
          rw [split?_of_divider? hhere]
          exact iff_of_false (Option.some_ne_none _) fun hnone => hnone ⟨[], _, source, rfl, hhere⟩
      | none =>
          rw [split?_cons hhere, Option.map_eq_none_iff, ih]
          apply not_congr
          constructor
          · rintro ⟨before, after, source, rfl, hsource⟩
            exact ⟨c :: before, after, source, rfl, hsource⟩
          · rintro ⟨before, after, source, htext, hsource⟩
            cases before with
            | nil =>
                rw [List.nil_append] at htext
                rw [htext, hsource] at hhere
                cases hhere
            | cons d before =>
                obtain ⟨-, rfl⟩ := List.cons.inj htext
                exact ⟨before, after, source, rfl, hsource⟩

theorem Divided.cons (h : Divided text) (c : Char) : Divided (c :: text) := by
  obtain ⟨before, after, source, rfl, hsource⟩ := divided_iff.mp h
  exact divided_iff.mpr ⟨c :: before, after, source, rfl, hsource⟩

/-- No divider goes past a parenthesis. -/
theorem divider?_append_paren (hhead : ¬ Divided (head ++ [')'])) (rest : List Char) :
    divider? (head ++ ')' :: rest) = none := by
  rw [Option.eq_none_iff_forall_ne_some]
  intro source hsource
  obtain ⟨blanks, behind, d, keyword, hkeyword, hne, hall, hd, htext, -⟩ :=
    divider?_eq_some_iff.mp hsource
  have hparen : ')' ∉ blanks ++ (keyword.toList ++ [d]) := by
    intro hmem
    rcases List.mem_append.mp hmem with hmem | hmem
    · exact absurd (hall _ hmem) (by decide)
    rcases List.mem_append.mp hmem with hmem | hmem
    · rcases List.mem_pair.mp hkeyword with rfl | rfl <;> exact absurd hmem (by decide)
    · rw [← List.mem_singleton.mp hmem] at hd
      exact absurd hd (by decide)
  have hparts : head ++ ')' :: rest = (blanks ++ (keyword.toList ++ [d])) ++ behind := by
    rw [htext]
    simp
  -- so the divider lies in the head as a whole
  obtain ⟨more, rfl⟩ := exists_eq_append_of_not_mem hparts hparen
  refine hhead (divided_iff.mpr ⟨[], _, trimStart (more ++ [')']), rfl, ?_⟩)
  refine divider?_eq_some_iff.mpr
    ⟨blanks, more ++ [')'], d, keyword, hkeyword, hne, hall, hd, by simp, rfl⟩

/-- An undivided head that ends with a parenthesis is read up to there. -/
theorem split?_append_paren (hhead : ¬ Divided (head ++ [')']))
    (hrest : divider? rest = some source) :
    split? (head ++ ')' :: rest) = some (head ++ [')'], source) := by
  induction head with
  | nil =>
      have hhere : divider? (')' :: rest) = none := divider?_append_paren hhead rest
      rw [List.nil_append, split?_cons hhere, split?_of_divider? hrest]
      rfl
  | cons c head ih =>
      have hhere : divider? (c :: (head ++ ')' :: rest)) = none := divider?_append_paren hhead rest
      rw [List.cons_append, split?_cons hhere, ih fun h => hhead (h.cons c)]
      rfl

end Dividers

/-! ## Iterators -/

/-- Behind every comma of a text stands a closing brace or bracket. -/
def ClosesCommas : List Char → Prop
  | [] => True
  | c :: rest => (c = ',' → '}' ∈ rest ∨ ']' ∈ rest) ∧ ClosesCommas rest

instance decidableClosesCommas : DecidablePred ClosesCommas
  | [] => isTrue trivial
  | c :: rest =>
    haveI := decidableClosesCommas rest
    inferInstanceAs (Decidable ((c = ',' → '}' ∈ rest ∨ ']' ∈ rest) ∧ ClosesCommas rest))

section Iterators

variable {text item rest : List Char}

theorem isIteratorText_iff :
    isIteratorText text = true ↔ ',' ∉ text ∧ '}' ∉ text ∧ ']' ∉ text := by
  simp only [isIteratorText, List.all_eq_true, Bool.and_eq_true, bne_iff_ne]
  constructor
  · intro hall
    exact ⟨fun hc => (hall _ hc).1.1 rfl, fun hc => (hall _ hc).1.2 rfl,
      fun hc => (hall _ hc).2 rfl⟩
  · rintro ⟨hcomma, hbrace, hbracket⟩ c hc
    refine ⟨⟨?_, ?_⟩, ?_⟩ <;> rintro rfl
    · exact hcomma hc
    · exact hbrace hc
    · exact hbracket hc

/-- No iterators reach over a mark that closes a pattern. -/
theorem iterators?_eq_none (hclosed : '}' ∈ text ∨ ']' ∈ text) : iterators? text = none := by
  unfold iterators?
  split
  · rw [if_neg]
    rw [isIteratorText_iff]
    rintro ⟨-, hbrace, hbracket⟩
    exact hclosed.elim hbrace hbracket
  · next first second hsplit =>
      obtain ⟨rfl, -⟩ := splitFirst?_eq_some_iff.mp hsplit
      rw [if_neg]
      rw [Bool.and_eq_true, isIteratorText_iff, isIteratorText_iff]
      rintro ⟨⟨-, hbrace, hbracket⟩, -, hbrace', hbracket'⟩
      simp [hbrace, hbracket, hbrace', hbracket'] at hclosed

/-- The commas of a pattern are passed over. -/
theorem splitIterators?_append (hitem : ClosesCommas item) (rest : List Char) :
    splitIterators? (item ++ rest) =
      (splitIterators? rest).map fun (head, iterators) => (item ++ head, iterators) := by
  induction item with
  | nil => simp
  | cons c item ih =>
      obtain ⟨hcomma, hitem⟩ := hitem
      have hhere : (if c = ',' then iterators? (item ++ rest) else none) = none := by
        split_ifs with hc
        · apply iterators?_eq_none
          exact (hcomma hc).imp (List.mem_append_left _) (List.mem_append_left _)
        · rfl
      simp only [List.cons_append, splitIterators?, hhere, ih hitem, Option.map_map]
      rfl

/-- The texts of one or two iterators, with the commas before them. -/
theorem splitIterators?_comma {first : List Char} (hfirst : isIteratorText first = true) :
    splitIterators? (',' :: first) = some ([], first, none) := by
  have hsplit : splitFirst? ',' first = none :=
    splitFirst?_eq_none_iff.mpr (isIteratorText_iff.mp hfirst).1
  simp [splitIterators?, iterators?, hsplit, hfirst]

theorem splitIterators?_commas {first second : List Char} (hfirst : isIteratorText first = true)
    (hsecond : isIteratorText second = true) :
    splitIterators? (',' :: (first ++ ',' :: second)) = some ([], first, some second) := by
  have hsplit : splitFirst? ',' (first ++ ',' :: second) = some (first, second) :=
    splitFirst?_eq_some_iff.mpr ⟨rfl, (isIteratorText_iff.mp hfirst).1⟩
  simp [splitIterators?, iterators?, hsplit, hfirst, hsecond]

end Iterators

/-! ## Written headers -/

/-- An iterator as it is written behind the item. -/
def listed (iterator : Option String) : String :=
  match iterator with
  | some name => ", " ++ name
  | none => ""

/-- The head of a header in parentheses, such as `(item, key, index)`. -/
def head (h : LoopHeader) : String :=
  "(" ++ h.item ++ listed h.iterator1 ++ listed h.iterator2 ++ ")"

/-- A header with one of the keywords. -/
def write (h : LoopHeader) (keyword : String) : String :=
  h.head ++ " " ++ keyword ++ " " ++ h.source

/-- What an iterator may be. -/
structure IsIterator (name : String) : Prop where
  trimmed : Trimmed name.toList
  ne_empty : name ≠ ""
  no_comma : ',' ∉ name.toList
  no_brace : '}' ∉ name.toList
  no_bracket : ']' ∉ name.toList

/-- What a header may say if it is to be written.  The source may be any trimmed
text, also an empty one or one with keywords of its own. -/
structure Legible (h : LoopHeader) : Prop where
  source : Trimmed h.source.toList
  item : Trimmed h.item.toList
  commas : ClosesCommas h.item.toList
  iterators : ∀ name ∈ h.iterator1.toList ++ h.iterator2.toList, IsIterator name
  first_given : h.iterator1 = none → h.iterator2 = none
  undivided : ¬ Divided h.head.toList

theorem trimmed_parenthesized (text : List Char) : Trimmed ('(' :: (text ++ [')'])) where
  head c hc := by
    obtain rfl := Option.some.inj hc
    decide
  last c hc := by
    rw [← List.cons_append, List.getLast?_concat] at hc
    obtain rfl := Option.some.inj hc
    decide

theorem stripParens_parenthesized (text : List Char) :
    stripParens ('(' :: (text ++ [')'])) = text := by
  simp [stripParens]

/-- What stands between the parentheses of a head. -/
def inside (h : LoopHeader) : List Char :=
  h.item.toList ++ ((listed h.iterator1).toList ++ (listed h.iterator2).toList)

theorem toList_head (h : LoopHeader) : h.head.toList = '(' :: (h.inside ++ [')']) := by
  simp [head, inside]

namespace Legible

variable {h : LoopHeader} {keyword : String}

theorem split?_write (hlegible : h.Legible) (hkeyword : keyword ∈ keywords) :
    split? (h.write keyword).toList = some (h.head.toList, h.source.toList) := by
  have hrest : divider? ([' '] ++ (keyword.toList ++ ' ' :: h.source.toList)) =
      some h.source.toList := by
    refine divider?_eq_some_iff.mpr ⟨[' '], h.source.toList, ' ', keyword, hkeyword, by simp,
      fun c hc => ?_, by decide, rfl, (trimStart_of_head? hlegible.source.head).symm⟩
    obtain rfl := List.mem_singleton.mp hc
    decide
  have hhead : ¬ Divided ('(' :: h.inside ++ [')']) := by
    rw [List.cons_append, ← toList_head]
    exact hlegible.undivided
  have htext : (h.write keyword).toList =
      '(' :: h.inside ++ ')' :: ([' '] ++ (keyword.toList ++ ' ' :: h.source.toList)) := by
    simp [write, toList_head]
  rw [htext, split?_append_paren hhead hrest, toList_head, List.cons_append]

theorem isIteratorText_blank {name : String} (hname : IsIterator name) :
    isIteratorText (' ' :: name.toList) = true := by
  apply isIteratorText_iff.mpr
  simp [hname.no_comma, hname.no_brace, hname.no_bracket]

theorem trimChars_blank {name : String} (hname : IsIterator name) :
    trimChars (' ' :: name.toList) = name.toList := by
  rw [trimChars_cons_of_isBlank (by decide), hname.trimmed.trimChars_eq]

/-- The item and the iterators are told apart. -/
theorem splitIterators?_inside (hlegible : h.Legible) :
    splitIterators? h.inside = h.iterator1.map fun first =>
      (h.item.toList, ' ' :: first.toList, h.iterator2.map fun second => ' ' :: second.toList) := by
  rw [inside, splitIterators?_append hlegible.commas]
  cases hfirst : h.iterator1 with
  | none =>
      rw [hlegible.first_given hfirst]
      rfl
  | some first =>
      have hiterator := isIteratorText_blank (hlegible.iterators first (by simp [hfirst]))
      cases hsecond : h.iterator2 with
      | none =>
          have hlisted : (listed (some first)).toList ++ (listed none).toList =
              ',' :: ' ' :: first.toList := by simp [listed]
          rw [hlisted, splitIterators?_comma hiterator]
          simp
      | some second =>
          have hlisted : (listed (some first)).toList ++ (listed (some second)).toList =
              ',' :: (' ' :: first.toList ++ ',' :: ' ' :: second.toList) := by simp [listed]
          rw [hlisted, splitIterators?_commas hiterator
            (isIteratorText_blank (hlegible.iterators second (by simp [hsecond])))]
          simp

/-- A written header is read back. -/
theorem parse?_write (hlegible : h.Legible) (hkeyword : keyword ∈ keywords) :
    parse? (h.write keyword) = some h := by
  have hhead : stripParens (trimChars h.head.toList) = h.inside := by
    rw [toList_head, (trimmed_parenthesized h.inside).trimChars_eq, stripParens_parenthesized]
  simp only [parse?, hlegible.split?_write hkeyword, hhead, hlegible.splitIterators?_inside,
    hlegible.source.trimChars_eq, String.ofList_toList]
  obtain ⟨source, item, iterator1, iterator2⟩ := h
  cases iterator1 with
  | none =>
      obtain rfl : iterator2 = none := hlegible.first_given rfl
      simp [inside, listed]
  | some first =>
      have hfirst := trimChars_blank (hlegible.iterators first (by simp))
      cases iterator2 with
      | none => simp [hlegible.item.trimChars_eq, hfirst]
      | some second =>
          have hiterator := hlegible.iterators second (by simp)
          simp [hlegible.item.trimChars_eq, hfirst, trimChars_blank hiterator, hiterator.ne_empty]

end Legible

/-- **A loop header is read back as it was written.**  Just the texts without a
keyword between blanks are no headers.  A header in parentheses with a trimmed
source, a trimmed item that closes behind each of its commas, and up to two
iterators, whose head is not divided itself, is read with the same source, the
same item and the same iterators, whichever keyword it is written with. -/
theorem parse?_reads_back :
    (∀ text : String, parse? text = none ↔ ¬ Divided text.toList) ∧
      ∀ (h : LoopHeader) (keyword : String), h.Legible → keyword ∈ keywords →
        parse? (h.write keyword) = some h := by
  refine ⟨fun text => ?_, fun h keyword hlegible hkeyword => hlegible.parse?_write hkeyword⟩
  rw [← split?_eq_none_iff]
  unfold parse?
  cases split? text.toList with
  | none => simp
  | some parts =>
      obtain ⟨head, source⟩ := parts
      simp only [reduceCtorEq, iff_false]
      split <;> exact Option.some_ne_none _

/-- A header whose item has commas and whose source has keywords. -/
def nested : LoopHeader where
  source := "rows of page in book"
  item := "\x7b id, cells: [a, b] \x7d"
  iterator1 := some "key"
  iterator2 := some "index"

theorem nested_reads_back :
    nested.Legible ∧ "of" ∈ keywords ∧
      parse? "(\x7b id, cells: [a, b] \x7d, key, index) of rows of page in book" = some nested := by
  have htrimmed : ∀ {text : List Char}, trimChars text = text → Trimmed text :=
    fun heq => heq ▸ trimmed_trimChars _
  have hlegible : nested.Legible := {
    source := htrimmed (by decide)
    item := htrimmed (by decide)
    commas := by decide
    iterators := by
      intro name hname
      rcases List.mem_pair.mp hname with rfl | rfl
      · exact ⟨htrimmed (by decide), by decide, by decide, by decide, by decide⟩
      · exact ⟨htrimmed (by decide), by decide, by decide, by decide, by decide⟩
    first_given := by decide
    undivided := (parse?_reads_back.1 nested.head).mp (by decide) }
  have hwrite : nested.write "of" =
      "(\x7b id, cells: [a, b] \x7d, key, index) of rows of page in book" := by decide
  refine ⟨hlegible, by decide, ?_⟩
  rw [← hwrite]
  exact parse?_reads_back.2 nested "of" hlegible (by decide)

end Stencil.LoopHeader
