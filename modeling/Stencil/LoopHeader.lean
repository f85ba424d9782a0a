import Stencil.Text.Blank

/-!
# Loop headers

The value of a `v-for` attribute, such as `(item, key, index) in list`: a head, the word `in` or
`of` with blanks on both sides, and the source that is looped over.  The head is an item and up to
two iterators divided by commas, in parentheses or bare.
-/

namespace Stencil

open Text

/-- What a loop header says. -/
structure LoopHeader where
  /-- The expression that is looped over. -/
  source : String
  /-- The pattern that names the current item. -/
  item : String
  iterator1 : Option String
  iterator2 : Option String
  deriving DecidableEq

namespace LoopHeader

/-- The text behind a keyword `in` or `of` that the text starts with. -/
def keyword? : List Char → Option (List Char)
  | 'i' :: 'n' :: rest => some rest
  | 'o' :: 'f' :: rest => some rest
  | _ => none

/-- The text behind a divider at the start of the text: blanks, a keyword and at least one blank. -/
def divider? (text : List Char) : Option (List Char) :=
  match text with
  | [] => none
  | c :: _ =>
    if isBlank c then
      match keyword? (trimStart text) with
      | some (d :: rest) => if isBlank d then some (trimStart rest) else none
      | _ => none
    else none

/-- The head before the first divider, and the source behind it. -/
def split? : List Char → Option (List Char × List Char)
  | [] => none
  | c :: rest =>
    match divider? (c :: rest) with
    | some source => some ([], source)
    | none => (split? rest).map fun (head, source) => (c :: head, source)

/-- The head without a parenthesis at its start and one at its end. -/
def stripParens (head : List Char) : List Char :=
  let head := match head with
    | '(' :: rest => rest
    | _ => head
  match head.reverse with
  | ')' :: rest => rest.reverse
  | _ => head

/-- A text that can be an iterator: it has no comma and closes no pattern. -/
def isIteratorText (cs : List Char) : Bool :=
  cs.all fun c => c != ',' && c != '}' && c != ']'

/-- One or two iterators that fill the whole text. -/
def iterators? (text : List Char) : Option (List Char × Option (List Char)) :=
  match splitFirst? ',' text with
  | none => if isIteratorText text then some (text, none) else none
  | some (first, second) =>
    if isIteratorText first && isIteratorText second then some (first, some second) else none

/-- The item before the first comma that only iterators follow, and these iterators. -/
def splitIterators? : List Char → Option (List Char × List Char × Option (List Char))
  | [] => none
  | c :: rest =>
    match if c = ',' then iterators? rest else none with
    | some (first, second) => some ([], first, second)
    | none => (splitIterators? rest).map fun (head, its) => (c :: head, its)

/-- Reads a loop header; there is none without a divider. -/
def parse? (text : String) : Option LoopHeader :=
  match split? text.toList with
  | none => none
  | some (head, source) =>
    let source := String.ofList (trimChars source)
    let head := stripParens (trimChars head)
    match splitIterators? head with
    | none => some ⟨source, String.ofList head, none, none⟩
    | some (item, first, second) =>
      let second := (second.map trimChars).filter fun it => !it.isEmpty
      some ⟨source, String.ofList (trimChars item), some (String.ofList (trimChars first)),
        second.map String.ofList⟩

end LoopHeader

end Stencil
