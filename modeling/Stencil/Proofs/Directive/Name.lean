import Stencil.Proofs.Bindings
import Stencil.Proofs.Text.Cut

/-!
# Names of directives are read as they are written

A name is taken apart in an order of its own: first the modifiers behind the last
closing bracket are cut off, and only then its start decides what it names.

* `splitModifiers_append`: the modifiers that were written come off, and what is
  left is the name without them, dots and brackets of its dynamic part included.
* `prefix_splitModifiers_iff`: cutting them off does not change how a name starts,
  so that the start of the whole name decides (`ofName_cases`).
* `WrittenName` is a name in parts.  Written and read again it has the same parts
  (`WrittenName.ofName_text`).
-/

namespace Stencil

open Text

namespace DirectiveName

/-! ## Cutting off the modifiers -/

section Modifiers

variable {text head tail base kept start : List Char}

theorem splitBracket_of_not_mem (htext : ']' ∉ text) : splitBracket text = ([], text) := by
  induction text with
  | nil => rfl
  | cons c text ih =>
      have hc : c ≠ ']' := Ne.symm (List.ne_of_not_mem_cons htext)
      simp only [splitBracket, ih (List.not_mem_of_not_mem_cons htext), if_neg hc]

theorem splitBracket_append (head : List Char) (htail : ']' ∉ tail) :
    splitBracket (head ++ ']' :: tail) = (head ++ [']'], tail) := by
  induction head with
  | nil => simp only [List.nil_append, splitBracket, splitBracket_of_not_mem htail, if_true]
  | cons c head ih =>
      obtain ⟨d, more, hmore⟩ := List.exists_cons_of_ne_nil
        (List.append_ne_nil_of_right_ne_nil head (List.cons_ne_nil ']' []))
      simp only [List.cons_append, splitBracket, ih, hmore]

theorem splitBracket_fst_append_snd (text : List Char) :
    (splitBracket text).1 ++ (splitBracket text).2 = text := by
  induction text with
  | nil => rfl
  | cons c text ih =>
      simp only [splitBracket]
      split
      · next tail hrest =>
          rw [hrest] at ih
          split_ifs with hc
          · rw [← ih, hc]
            rfl
          · rw [← ih]
            rfl
      · next head tail _ hrest =>
          rw [hrest] at ih
          rw [← ih]
          rfl

/-- What is left of a name is how it starts, and a dot follows if anything does. -/
theorem exists_splitModifiers (name : List Char) :
    ∃ rest, name = (splitModifiers name).1 ++ rest ∧ ∀ c ∈ rest.head?, c = '.' := by
  have hname := splitBracket_fst_append_snd name
  obtain ⟨piece, rest, pieces, hsplit, htail, hrest⟩ :=
    splitAtChar_eq_cons '.' (splitBracket name).2
  refine ⟨rest, ?_, hrest⟩
  simp only [splitModifiers, hsplit]
  rw [List.append_assoc, ← htail, hname]

/-- Cutting off the modifiers leaves the start of a name alone. -/
theorem prefix_splitModifiers_iff (name : List Char) (hstart : '.' ∉ start) :
    start <+: (splitModifiers name).1 ↔ start <+: name := by
  obtain ⟨rest, hname, hrest⟩ := exists_splitModifiers name
  constructor
  · intro hprefix
    rw [hname]
    exact hprefix.trans (List.prefix_append _ _)
  · rintro ⟨more, hmore⟩
    rw [hname] at hmore
    rcases List.append_eq_append_iff.mp hmore with ⟨left, hleft, -⟩ | ⟨left, rfl, hleft⟩
    · exact ⟨left, hleft.symm⟩
    · -- a longer start would go on with the dot of a modifier
      cases left with
      | nil => simp
      | cons c left =>
          have hc : c = '.' := hrest c (by rw [hleft]; rfl)
          exact absurd (by simp [hc]) hstart

/-- What may be a modifier. -/
structure IsModifier (name : String) : Prop where
  ne_empty : name ≠ ""
  no_dot : '.' ∉ name.toList
  no_bracket : ']' ∉ name.toList

/-- Modifiers as they are written behind a name. -/
def modifierChars (modifiers : List String) : List Char :=
  modifiers.flatMap fun modifier => '.' :: modifier.toList

theorem splitAtChar_modifierChars {modifiers : List String}
    (hmodifiers : ∀ modifier ∈ modifiers, IsModifier modifier) (hkept : '.' ∉ kept) :
    splitAtChar '.' (kept ++ modifierChars modifiers) = kept :: modifiers.map String.toList := by
  induction modifiers generalizing kept with
  | nil =>
      rw [modifierChars, List.flatMap_nil, List.append_nil, splitAtChar_of_not_mem hkept]
      rfl
  | cons modifier modifiers ih =>
      obtain ⟨hmodifier, hmodifiers⟩ := List.forall_mem_cons.mp hmodifiers
      have htext : modifierChars (modifier :: modifiers) =
          '.' :: (modifier.toList ++ modifierChars modifiers) := rfl
      rw [htext, splitAtChar_append hkept, ih hmodifiers hmodifier.no_dot, List.map_cons]

/-- What modifiers may follow: a text without dots and closing brackets, or one
that ends with a closing bracket. -/
def Ended (base : List Char) : Prop :=
  ('.' ∉ base ∧ ']' ∉ base) ∨ ∃ front, base = front ++ [']']

theorem splitModifiers_append (hbase : Ended base) {modifiers : List String}
    (hmodifiers : ∀ modifier ∈ modifiers, IsModifier modifier) :
    splitModifiers (base ++ modifierChars modifiers) = (base, modifiers) := by
  have hbracket : ']' ∉ modifierChars modifiers := by
    simp only [modifierChars, List.mem_flatMap, not_exists, not_and]
    intro modifier hmem
    exact List.not_mem_cons_of_ne_of_not_mem (by decide) (hmodifiers modifier hmem).no_bracket
  have hall : ((modifiers.map String.toList).filter fun m => !m.isEmpty).map String.ofList =
      modifiers := by
    rw [List.filter_eq_self.mpr]
    · simp
    · intro m hm
      obtain ⟨modifier, hmem, rfl⟩ := List.mem_map.mp hm
      simpa using (hmodifiers modifier hmem).ne_empty
  rcases hbase with ⟨hdot, hclose⟩ | ⟨front, rfl⟩
  · have hnone : ']' ∉ base ++ modifierChars modifiers := by simp [hclose, hbracket]
    simp only [splitModifiers, splitBracket_of_not_mem hnone,
      splitAtChar_modifierChars hmodifiers hdot, hall, List.nil_append]
  · have hsplit : splitAtChar '.' (modifierChars modifiers) = [] :: modifiers.map String.toList :=
      splitAtChar_modifierChars hmodifiers List.not_mem_nil
    simp only [List.append_assoc, List.singleton_append, splitModifiers,
      splitBracket_append front hbracket, hsplit, hall, List.append_nil]

end Modifiers

/-! ## How a name starts -/

theorem isSome_dropFirst?_iff {starts : List String} {name : List Char} :
    (dropFirst? starts name).isSome = true ↔ ∃ start ∈ starts, start.toList <+: name := by
  have hdrop (start : String) :
      (dropStart? start.toList name).isSome = true ↔ start.toList <+: name := by
    rw [Option.isSome_iff_exists]
    exact exists_congr fun rest => dropStart?_eq_some_iff.trans eq_comm
  rw [dropFirst?, List.findSome?_isSome_iff]
  simp only [hdrop]

theorem any_hasStart_iff {starts : List String} {name : String} :
    starts.any (hasStart name) = true ↔ ∃ start ∈ starts, start.toList <+: name.toList := by
  simp only [List.any_eq_true, hasStart, List.isPrefixOf_iff_prefix]

/-- The start of a name is found with or without its modifiers. -/
theorem isSome_dropFirst?_splitModifiers {starts : List String}
    (hstarts : ∀ start ∈ starts, '.' ∉ start.toList) (name : String) :
    (dropFirst? starts (splitModifiers name.toList).1).isSome = starts.any (hasStart name) := by
  rw [Bool.eq_iff_iff, isSome_dropFirst?_iff, any_hasStart_iff]
  constructor
  · rintro ⟨start, hmem, hstart⟩
    exact ⟨start, hmem, (prefix_splitModifiers_iff _ (hstarts start hmem)).mp hstart⟩
  · rintro ⟨start, hmem, hstart⟩
    exact ⟨start, hmem, (prefix_splitModifiers_iff _ (hstarts start hmem)).mpr hstart⟩

end DirectiveName

open DirectiveName

/-- Whether an attribute is bound to code. -/
def isBound (name : String) : Bool :=
  bindStarts.any (hasStart name)

/-- **The start of a name decides what it names.** -/
theorem ofName_cases (name : String) :
    (isDirective name = false ∧ AttributeKind.ofName name = .plain) ∨
      (isDirective name = true ∧ isBound name = true ∧
        ∃ target dynamic modifiers, AttributeKind.ofName name = .bound target dynamic modifiers) ∨
      (isDirective name = true ∧ isBound name = false ∧ isEvent name = true ∧
        ∃ target dynamic modifiers, AttributeKind.ofName name = .event target dynamic modifiers) ∨
      (isDirective name = true ∧ isBound name = false ∧ isEvent name = false ∧
        ∃ word argument dynamic modifiers,
          AttributeKind.ofName name = .directive word argument dynamic modifiers) := by
  have hbound : (dropFirst? bindStarts (splitModifiers name.toList).1).isSome = isBound name :=
    isSome_dropFirst?_splitModifiers (by decide) name
  have hevent : (dropFirst? eventStarts (splitModifiers name.toList).1).isSome = isEvent name :=
    isSome_dropFirst?_splitModifiers (by decide) name
  cases hdirective : isDirective name with
  | false => exact .inl ⟨rfl, ofName_eq_plain_iff.mpr hdirective⟩
  | true =>
      have hname : AttributeKind.ofName name =
          .ofDirective (splitModifiers name.toList).1 (splitModifiers name.toList).2 := by
        rw [AttributeKind.ofName, if_pos hdirective]
      rw [hname, AttributeKind.ofDirective, ← hbound, ← hevent]
      refine .inr ?_
      cases dropFirst? bindStarts (splitModifiers name.toList).1 with
      | some rest => exact .inl ⟨rfl, rfl, _, _, _, rfl⟩
      | none =>
          refine .inr ?_
          cases dropFirst? eventStarts (splitModifiers name.toList).1 with
          | some rest => exact .inl ⟨rfl, rfl, rfl, _, _, _, rfl⟩
          | none =>
              refine .inr ⟨rfl, rfl, rfl, ?_⟩
              dsimp only
              split
              · exact ⟨_, _, _, _, rfl⟩
              · exact ⟨_, _, _, _, rfl⟩

/-! ## Written names -/

/-- What a name points at: a fixed text, or code in brackets that gives it. -/
inductive Target where
  | fixed (text : String)
  | dynamic (code : String)

namespace Target

/-- A target as it is written. -/
def text : Target → String
  | fixed text => text
  | dynamic code => "[" ++ code ++ "]"

/-- A target without brackets. -/
def contents : Target → String
  | fixed text => text
  | dynamic code => code

/-- Whether a target stands in brackets. -/
def isDynamic : Target → Bool
  | fixed _ => false
  | dynamic _ => true

/-- A fixed text has neither dots nor closing brackets; code may be any text. -/
def Legible : Target → Prop
  | fixed text => '.' ∉ text.toList ∧ ']' ∉ text.toList
  | dynamic _ => True

variable {target : Target}

theorem dynamicName_text (hlegible : target.Legible) :
    dynamicName target.text.toList = (target.contents, target.isDynamic) := by
  cases target with
  | fixed text =>
      have hnone : unbracket? text.toList = none := by
        unfold unbracket?
        split
        · next inner htext =>
            split
            · next hlast =>
                refine absurd ?_ hlegible.2
                rw [htext]
                exact List.mem_cons_of_mem _ (List.mem_of_getLast? hlast)
            · rfl
        · rfl
      simp only [Target.text, contents, isDynamic, dynamicName, hnone, String.ofList_toList]
  | dynamic code =>
      have htext : (dynamic code).text.toList = '[' :: (code.toList ++ [']']) := by
        simp [Target.text]
      simp [htext, dynamicName, unbracket?, contents, isDynamic]

/-- Modifiers may follow a target, whatever stands before it. -/
theorem ended_text (hlegible : target.Legible) {start : List Char}
    (hstart : '.' ∉ start ∧ ']' ∉ start) : Ended (start ++ target.text.toList) := by
  cases target with
  | fixed text =>
      obtain ⟨hdot, hbracket⟩ := hlegible
      exact .inl (by simp [Target.text, hstart, hdot, hbracket])
  | dynamic code => exact .inr ⟨start ++ '[' :: code.toList, by simp [Target.text]⟩

end Target

/-- The two ways to write how a name starts. -/
inductive Spelling where
  | short
  | long

namespace Spelling

def bindStart : Spelling → String
  | short => ":"
  | long => "v-bind:"

def eventStart : Spelling → String
  | short => "@"
  | long => "v-on:"

end Spelling

/-- A name of a directive in parts, without its modifiers. -/
inductive NameParts where
  | bound (spelling : Spelling) (target : Target)
  | event (spelling : Spelling) (target : Target)
  | directive (word : String) (argument : Option Target)

namespace NameParts

/-- An argument as it is written behind the word of a directive. -/
def argumentText : Option Target → String
  | some target => ":" ++ target.text
  | none => ""

/-- The parts as they are written. -/
def text : NameParts → String
  | bound spelling target => spelling.bindStart ++ target.text
  | event spelling target => spelling.eventStart ++ target.text
  | directive word argument => "v-" ++ word ++ argumentText argument

/-- What the parts say, with some modifiers. -/
def kind (modifiers : List String) : NameParts → AttributeKind
  | bound _ target => .bound target.contents target.isDynamic modifiers
  | event _ target => .event target.contents target.isDynamic modifiers
  | directive word argument =>
    .directive word (argument.map Target.contents) (argument.any Target.isDynamic) modifiers

/-- Which parts can be written.  The words `bind` and `on` with an argument start
other names than those of directives. -/
def Legible : NameParts → Prop
  | bound _ target | event _ target => target.Legible
  | directive word argument =>
    (':' ∉ word.toList ∧ '.' ∉ word.toList ∧ ']' ∉ word.toList) ∧
      ∀ target ∈ argument, target.Legible ∧ word ≠ "bind" ∧ word ≠ "on"

variable {parts : NameParts}

theorem isDirective_append (parts : NameParts) (more : String) :
    isDirective (parts.text ++ more) = true := by
  rw [isDirective, any_hasStart_iff]
  cases parts with
  | bound spelling target =>
      cases spelling with
      | short => exact ⟨":", by decide, by simp [text, Spelling.bindStart]⟩
      | long => exact ⟨"v-", by decide, by simp [text, Spelling.bindStart]⟩
  | event spelling target =>
      cases spelling with
      | short => exact ⟨"@", by decide, by simp [text, Spelling.eventStart]⟩
      | long => exact ⟨"v-", by decide, by simp [text, Spelling.eventStart]⟩
  | directive word argument => exact ⟨"v-", by decide, by simp [text]⟩

theorem ended_text (hlegible : parts.Legible) : Ended parts.text.toList := by
  cases parts with
  | bound spelling target =>
      rw [text, String.toList_append]
      exact target.ended_text hlegible (by cases spelling <;> decide)
  | event spelling target =>
      rw [text, String.toList_append]
      exact target.ended_text hlegible (by cases spelling <;> decide)
  | directive word argument =>
      obtain ⟨⟨-, hdot, hbracket⟩, hargument⟩ := hlegible
      cases argument with
      | none => exact .inl (by simp [text, argumentText, hdot, hbracket])
      | some target =>
          have htext : (directive word (some target)).text.toList =
              ('v' :: '-' :: (word.toList ++ [':'])) ++ target.text.toList := by
            simp [text, argumentText]
          rw [htext]
          exact target.ended_text (hargument target rfl).1 (by simp [hdot, hbracket])

/-- The first colon behind the word of a directive is that of its argument. -/
theorem splitFirst?_argument {word : String} (hword : ':' ∉ word.toList)
    (argument : Option Target) :
    splitFirst? ':' (word.toList ++ (argumentText argument).toList) =
      argument.map fun target => (word.toList, target.text.toList) := by
  cases argument with
  | none => exact splitFirst?_eq_none_iff.mpr (by simpa [argumentText] using hword)
  | some target => exact splitFirst?_eq_some_iff.mpr ⟨by simp [argumentText], hword⟩

/-- The word of a directive is not taken for the start of another name. -/
theorem not_prefix_directive {word : String} (other : String) {argument : Option Target}
    (hword : ':' ∉ word.toList) (hother : ':' ∉ other.toList)
    (hargument : ∀ target ∈ argument, word ≠ other) :
    ¬ (other.toList ++ [':']) <+: word.toList ++ (argumentText argument).toList := by
  rintro ⟨rest, hrest⟩
  have hfound : splitFirst? ':' (word.toList ++ (argumentText argument).toList) =
      some (other.toList, rest) :=
    splitFirst?_eq_some_iff.mpr ⟨by rw [← hrest]; simp, hother⟩
  rw [splitFirst?_argument hword, Option.map_eq_some_iff] at hfound
  obtain ⟨target, htarget, hparts⟩ := hfound
  exact hargument target htarget (String.toList_inj.mp (Prod.mk.inj hparts).1)

/-- So the name of a directive has no other start than that of directives. -/
theorem dropFirst?_directive {word : String} {argument : Option Target} {starts : List String}
    (hlegible : (directive word argument).Legible) (hstarts : starts ⊆ bindStarts ++ eventStarts) :
    dropFirst? starts (directive word argument).text.toList = none := by
  obtain ⟨⟨hcolon, -, -⟩, hargument⟩ := hlegible
  have htext : (directive word argument).text.toList =
      'v' :: '-' :: (word.toList ++ (argumentText argument).toList) := by
    simp [text]
  have hbind := not_prefix_directive "bind" hcolon (by decide)
    fun target htarget => (hargument target htarget).2.1
  have hon := not_prefix_directive "on" hcolon (by decide)
    fun target htarget => (hargument target htarget).2.2
  rw [← Option.not_isSome_iff_eq_none, isSome_dropFirst?_iff, htext]
  rintro ⟨start, hmem, hstart⟩
  have hmem := hstarts hmem
  simp only [bindStarts, eventStarts, List.cons_append, List.nil_append, List.mem_cons,
    List.not_mem_nil, or_false] at hmem
  rcases hmem with rfl | rfl | rfl | rfl
  · simp at hstart
  · exact hbind (by simpa using hstart)
  · simp at hstart
  · exact hon (by simpa using hstart)

/-- A name without modifiers is read as its parts. -/
theorem ofDirective_text (hlegible : parts.Legible) (modifiers : List String) :
    AttributeKind.ofDirective parts.text.toList modifiers = parts.kind modifiers := by
  cases parts with
  | bound spelling target =>
      have hread : dropFirst? bindStarts (bound spelling target).text.toList =
          some target.text.toList := by
        cases spelling <;> simp [text, Spelling.bindStart, dropFirst?, bindStarts, dropStart?]
      simp only [AttributeKind.ofDirective, hread, target.dynamicName_text hlegible, kind]
  | event spelling target =>
      have hbound : dropFirst? bindStarts (event spelling target).text.toList = none := by
        cases spelling <;> simp [text, Spelling.eventStart, dropFirst?, bindStarts, dropStart?]
      have hread : dropFirst? eventStarts (event spelling target).text.toList =
          some target.text.toList := by
        cases spelling <;> simp [text, Spelling.eventStart, dropFirst?, eventStarts, dropStart?]
      simp only [AttributeKind.ofDirective, hbound, hread, target.dynamicName_text hlegible, kind]
  | directive word argument =>
      have hword : dropFirst? directiveStarts (directive word argument).text.toList =
          some (word.toList ++ (argumentText argument).toList) := by
        simp [text, dropFirst?, directiveStarts, dropStart?]
      have hbound := dropFirst?_directive hlegible (List.subset_append_left bindStarts eventStarts)
      have hevent := dropFirst?_directive hlegible (List.subset_append_right bindStarts eventStarts)
      obtain ⟨⟨hcolon, -, -⟩, hargument⟩ := hlegible
      simp only [AttributeKind.ofDirective, hbound, hevent, hword, Option.getD_some,
        splitFirst?_argument hcolon]
      cases argument with
      | none => simp [kind, argumentText]
      | some target =>
          simp [kind, target.dynamicName_text (hargument target rfl).1]

end NameParts

/-- The name of a directive in parts. -/
structure WrittenName where
  parts : NameParts
  modifiers : List String

namespace WrittenName

/-- A name as it is written, with a dot before each modifier. -/
def text (w : WrittenName) : String :=
  w.parts.text ++ String.ofList (modifierChars w.modifiers)

/-- Which names can be written. -/
structure Legible (w : WrittenName) : Prop where
  parts : w.parts.Legible
  modifiers : ∀ modifier ∈ w.modifiers, IsModifier modifier

theorem isDirective_text (w : WrittenName) : isDirective w.text = true :=
  w.parts.isDirective_append _

/-- A written name is read as its parts. -/
theorem ofName_text {w : WrittenName} (hlegible : w.Legible) :
    AttributeKind.ofName w.text = w.parts.kind w.modifiers := by
  have hsplit : splitModifiers w.text.toList = (w.parts.text.toList, w.modifiers) := by
    rw [text, String.toList_append, String.toList_ofList]
    exact splitModifiers_append (NameParts.ended_text hlegible.parts) hlegible.modifiers
  rw [AttributeKind.ofName, if_pos w.isDirective_text]
  simp only [hsplit]
  exact NameParts.ofDirective_text hlegible.parts w.modifiers

end WrittenName

end Stencil
