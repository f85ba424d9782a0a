import Stencil.Filter
import Stencil.Text.Quoted

/-!
# Interpolated text

Text such as `Hello {{ name | upper }}!` alternates between literal text and interpolations.  An
interpolation is an opening delimiter, a legal interior and a closing delimiter, where an interior
is legal when it is not empty and its only line ends are `\n` and `\r\n`.

* `interior?` finds the shortest legal interior in front of a closing delimiter.
* `splitFirst?` finds the leftmost interpolation of a text.
* `Interpolation.parse?` reads all of them, and fails exactly when there is none.
-/

namespace Stencil

open Text

/-- The texts that open and close an interpolation. -/
structure Delimiters where
  openText : String
  closeText : String
  deriving DecidableEq

namespace Delimiters

/-- Double braces, the delimiters used when nothing else is asked for. -/
def standard : Delimiters := ⟨"\x7b\x7b", "\x7d\x7d"⟩

/-- The pair as one text, the two parts divided by a comma. -/
def display (d : Delimiters) : String :=
  d.openText ++ "," ++ d.closeText

end Delimiters

namespace Interpolation

/-! ## One interpolation -/

/-- The line and paragraph separators, which no interior may hold. -/
def isSeparator (c : Char) : Bool :=
  c.toNat == 0x2028 || c.toNat == 0x2029

/-- The shortest legal interior that the text starts with and that the closing delimiter follows,
together with what stands behind the delimiter.  With `started` the interior has a part already read
and may end at once. -/
def interior? (close : List Char) (started : Bool) (text : List Char) :
    Option (List Char × List Char) :=
  match started, dropStart? close text with
  | true, some rest => some ([], rest)
  | _, _ =>
    match text with
    | [] => none
    | '\r' :: '\n' :: tail =>
      (interior? close true tail).map fun (interior, rest) => ('\r' :: '\n' :: interior, rest)
    | c :: tail =>
      if c = '\r' || isSeparator c then none
      else (interior? close true tail).map fun (interior, rest) => (c :: interior, rest)

/-- The interpolation that stands at the start of the text: its interior and what follows. -/
def matchHere? (d : Delimiters) (text : List Char) : Option (List Char × List Char) :=
  match dropStart? d.openText.toList text with
  | some inside => interior? d.closeText.toList false inside
  | none => none

/-- The leftmost interpolation: the text before it, its interior and what follows. -/
def splitFirst? (d : Delimiters) (text : List Char) :
    Option (List Char × List Char × List Char) :=
  match matchHere? d text with
  | some (interior, rest) => some ([], interior, rest)
  | none =>
    match text with
    | [] => none
    | c :: tail =>
      (splitFirst? d tail).map fun (gap, interior, rest) => (c :: gap, interior, rest)

/-! ## Reading an interpolation shortens the text -/

theorem interior?_length_le {close text interior rest : List Char} {started : Bool}
    (h : interior? close started text = some (interior, rest)) :
    rest.length ≤ text.length ∧ (started = false → rest.length < text.length) := by
  fun_induction interior? close started text generalizing interior rest with
  | case1 text _ hdrop =>
    obtain ⟨rfl, rfl⟩ : [] = interior ∧ _ = rest := by simpa using h
    exact ⟨length_le_of_dropStart? hdrop, by simp⟩
  | case2 => simp at h
  | case3 started tail hnot ih =>
    obtain ⟨⟨i, r⟩, hrec, heq⟩ := Option.map_eq_some_iff.1 h
    obtain ⟨-, rfl⟩ : _ ∧ r = rest := by simpa using heq
    have := (ih hrec).1
    simp only [List.length_cons]
    omega
  | case4 => simp at h
  | case5 started c tail hnot hcr hlegal ih =>
    obtain ⟨⟨i, r⟩, hrec, heq⟩ := Option.map_eq_some_iff.1 h
    obtain ⟨-, rfl⟩ : _ ∧ r = rest := by simpa using heq
    have := (ih hrec).1
    simp only [List.length_cons]
    omega

theorem splitFirst?_length_lt {d : Delimiters} {text gap interior rest : List Char}
    (h : splitFirst? d text = some (gap, interior, rest)) : rest.length < text.length := by
  fun_induction splitFirst? d text generalizing gap interior rest with
  | case1 text i r hmatch =>
    obtain ⟨rfl, rfl, rfl⟩ : [] = gap ∧ i = interior ∧ r = rest := by simpa using h
    unfold matchHere? at hmatch
    split at hmatch
    · next inside hopen =>
      have := (interior?_length_le hmatch).2 rfl
      have := length_le_of_dropStart? hopen
      omega
    · simp at hmatch
  | case2 => simp at h
  | case3 c tail hmatch ih =>
    obtain ⟨⟨g, i, r⟩, hrec, heq⟩ := Option.map_eq_some_iff.1 h
    obtain ⟨-, -, rfl⟩ : _ ∧ _ ∧ r = rest := by simpa using heq
    have := ih hrec
    simp only [List.length_cons]
    omega

/-! ## The tokens of a text -/

/-- A piece of an interpolated text. -/
inductive Token where
  /-- Text that stands for itself. -/
  | literal (text : String)
  /-- The compiled expression of an interpolation. -/
  | binding (expression : String)
  deriving DecidableEq

/-- The runtime helper that makes a text of a value. -/
def displayHelper : String := "_s"

/-- The code that gives the value of a token. -/
def Token.code : Token → String
  | .literal text => quote text
  | .binding expression => displayHelper ++ "(" ++ expression ++ ")"

/-- The literal token of a gap; an empty gap has none. -/
def gapTokens (gap : List Char) : List Token :=
  if gap.isEmpty then [] else [.literal (String.ofList gap)]

/-- The binding token of an interior. -/
def bindingToken (interior : List Char) : Token :=
  .binding (Filter.compile (String.ofList (trimChars interior)))

/-- The tokens of a text, interpolations taken from left to right. -/
def tokenize (d : Delimiters) (text : List Char) : List Token :=
  match _h : splitFirst? d text with
  | none => gapTokens text
  | some (gap, interior, rest) => gapTokens gap ++ bindingToken interior :: tokenize d rest
termination_by text.length
decreasing_by exact splitFirst?_length_lt _h

end Interpolation

/-- An interpolated text: its tokens and the code of their concatenation. -/
structure Interpolation where
  expression : String
  tokens : List Interpolation.Token
  deriving DecidableEq

/-- Reads a text around its interpolations.  A text without any is no interpolated text. -/
def Interpolation.parse? (text : String) (delimiters : Option Delimiters) : Option Interpolation :=
  let d := delimiters.getD .standard
  match Interpolation.splitFirst? d text.toList with
  | none => none
  | some _ =>
    let tokens := Interpolation.tokenize d text.toList
    some ⟨"+".intercalate (tokens.map (·.code)), tokens⟩

end Stencil
