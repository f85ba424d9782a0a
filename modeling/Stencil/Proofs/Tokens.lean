import Mathlib.Data.List.Forall2
import Stencil.Proofs.Interpolation
import Stencil.Proofs.Json.Text

/-!
# The tokens of an interpolated text and its code

An interpolated text is read twice: as tokens, and as code that concatenates their
values.  The tokens alternate, a literal is never empty and never stands beside
another one (`Cut.alternates_tokens`), and the code goes along with them, a string
literal for each literal and a call for each binding (`parse?_tokens_and_code`).

String literals are safe to put into code: between their quotes stands nothing
that could end them or that a literal may not hold (`QuotedBody`), and reading them
gives their text back (`Json.parse?_quote`).
-/

namespace Stencil

open Text

/-! ## String literals -/

/-- What may stand between the quotes of a string literal: a quote and a backslash
only as parts of an escape, and no control character. -/
inductive QuotedBody : List Char → Prop
  | nil : QuotedBody []
  | plain {c : Char} {rest : List Char} (hquote : c ≠ '"') (hslash : c ≠ '\\')
      (hcontrol : 0x20 ≤ c.toNat) (hrest : QuotedBody rest) : QuotedBody (c :: rest)
  | short {c : Char} {rest : List Char} (hc : c ∈ ['"', '\\', '/', 'b', 'f', 'n', 'r', 't'])
      (hrest : QuotedBody rest) : QuotedBody ('\\' :: c :: rest)
  | numeric {digits rest : List Char} (hlength : digits.length = 4)
      (hdigits : ∀ d ∈ digits, (Json.hexValue? d).isSome) (hrest : QuotedBody rest) :
      QuotedBody ('\\' :: 'u' :: (digits ++ rest))

theorem quotedBody_escapeChar_append (c : Char) {rest : List Char} (hrest : QuotedBody rest) :
    QuotedBody (escapeChar c ++ rest) := by
  unfold escapeChar
  split_ifs with hquote hslash hback hfeed hline hreturn htab hcontrol
  · exact .short (by decide) hrest
  · exact .short (by decide) hrest
  · exact .short (by decide) hrest
  · exact .short (by decide) hrest
  · exact .short (by decide) hrest
  · exact .short (by decide) hrest
  · exact .short (by decide) hrest
  · have hhigh := Json.hexValue?_hexDigit (n := c.toNat / 16) (by omega)
    have hlow := Json.hexValue?_hexDigit (n := c.toNat % 16) (by omega)
    have hzero : Json.hexValue? '0' = some 0 := by decide
    have hdigits : ∀ d ∈ ['0', '0', hexDigit (c.toNat / 16), hexDigit (c.toNat % 16)],
        (Json.hexValue? d).isSome := by
      simp [hzero, hhigh, hlow]
    have hescape := QuotedBody.numeric rfl hdigits hrest
    exact hescape
  · exact .plain hquote hslash (Nat.le_of_not_lt hcontrol) hrest

theorem quotedBody_flatMap_escapeChar (cs : List Char) : QuotedBody (cs.flatMap escapeChar) := by
  induction cs with
  | nil => exact .nil
  | cons c cs ih =>
      rw [List.flatMap_cons]
      exact quotedBody_escapeChar_append c ih

/-- A quoted text is read back. -/
theorem Json.parse?_quote (s : String) : Json.parse? (quote s) = some (.string s) := by
  have htext : (quote s).toList = '"' :: (s.toList.flatMap escapeChar ++ '"' :: []) := by
    rw [quote, String.toList_ofList, quoteChars, List.cons_append]
  have hvalue : Json.value? .keep ((quote s).toList.length + 1) (quote s).toList =
      some (.string s, []) := by
    rw [htext, Json.value?_quote, Json.stringTail?_written]
    simp only [Option.map_some, String.ofList_toList]
  rw [Json.parse?, hvalue]
  rfl

namespace Interpolation

/-! ## Tokens alternate -/

/-- Literals are not empty, and no two of them stand side by side. -/
structure Alternates (tokens : List Token) : Prop where
  ne_empty : .literal "" ∉ tokens
  apart : ∀ before first second after,
    tokens ≠ before ++ .literal first :: .literal second :: after

namespace Alternates

variable {tokens : List Token}

theorem nil : Alternates [] := ⟨List.not_mem_nil, by simp⟩

theorem literal {text : String} (htext : text ≠ "") : Alternates [.literal text] where
  ne_empty hmem := htext (Token.literal.inj (List.mem_singleton.mp hmem)).symm
  apart before first second after heq := by
    have hlength := congrArg List.length heq
    simp only [List.length_append, List.length_cons, List.length_nil] at hlength
    omega

theorem binding_cons (h : Alternates tokens) (code : String) :
    Alternates (.binding code :: tokens) where
  ne_empty hmem := h.ne_empty ((List.mem_cons.mp hmem).resolve_left (by simp))
  apart before first second after heq := by
    cases before with
    | nil => simp at heq
    | cons token before => exact h.apart before first second after (List.cons.inj heq).2

theorem literal_binding_cons {text code : String} (htext : text ≠ "")
    (h : Alternates (.binding code :: tokens)) :
    Alternates (.literal text :: .binding code :: tokens) where
  ne_empty hmem := by
    rcases List.mem_cons.mp hmem with heq | hmem
    · exact htext (Token.literal.inj heq).symm
    · exact h.ne_empty hmem
  apart before first second after heq := by
    cases before with
    | nil => simp at heq
    | cons token before => exact h.apart before first second after (List.cons.inj heq).2

end Alternates

/-- The tokens of a cut alternate, whatever it is a cut of. -/
theorem Cut.alternates_tokens (cut : Cut) : Alternates cut.tokens := by
  have hne : ∀ {gap : List Char}, gap ≠ [] → String.ofList gap ≠ "" := by
    intro gap hgap hempty
    rw [← String.toList_inj, String.toList_ofList] at hempty
    exact hgap hempty
  induction cut with
  | tail text =>
      unfold tokens literals
      split_ifs with htext
      · exact .nil
      · exact .literal (hne htext)
  | piece gap interior rest ih =>
      unfold tokens literals
      have hbehind := ih.binding_cons (Filter.compile (trim (String.ofList interior)))
      split_ifs with hgap
      · exact hbehind
      · exact hbehind.literal_binding_cons (hne hgap)

/-- A text with an interpolation has a binding. -/
theorem Cut.LeftmostShortest.exists_binding {d : Delimiters} {cut : Cut}
    (hcut : cut.LeftmostShortest d) (hoccurs : Occurs d (cut.text d)) :
    ∃ code, .binding code ∈ cut.tokens := by
  cases cut with
  | tail text => exact absurd hoccurs hcut
  | piece gap interior rest => exact ⟨_, List.mem_append_right _ List.mem_cons_self⟩

/-! ## Code goes along with the tokens -/

/-- The code of a token: a string literal, or a call of the display helper. -/
inductive Coded : Token → String → Prop
  | literal (text : String) : Coded (.literal text) (quote text)
  | binding (expression : String) : Coded (.binding expression) ("_s(" ++ expression ++ ")")

theorem Token.coded_code (token : Token) : Coded token token.code := by
  cases token with
  | literal text => exact .literal text
  | binding expression => exact .binding expression

/-- **The tokens of a text alternate, and its code is theirs.**  An interpolated
text has at least one binding, no empty literal and no two literals side by side.
Its expression is made of the codes of its tokens, in their order and with plus
signs between them: the quoted text of a literal, and a call of the display helper
for a binding.  Every text can be quoted: between the quotes stand no quote, no
backslash and no control character but as escapes, and the quoted form is read back
as the text. -/
theorem parse?_tokens_and_code {text : String} {delimiters : Option Delimiters}
    {parsed : Interpolation} (hparsed : parse? text delimiters = some parsed) :
    (∃ expression, .binding expression ∈ parsed.tokens) ∧
      (.literal "" ∉ parsed.tokens ∧ ∀ before first second after,
        parsed.tokens ≠ before ++ .literal first :: .literal second :: after) ∧
      (∃ codes, List.Forall₂ Coded parsed.tokens codes ∧
        parsed.expression = "+".intercalate codes) ∧
      ∀ s : String,
        (∃ body, (quote s).toList = '"' :: (body ++ ['"']) ∧ QuotedBody body) ∧
          Json.parse? (quote s) = some (.string s) := by
  obtain ⟨cut, htext, hcut, htokens⟩ := exists_cut_tokenize (delimiters.getD .standard) text.toList
  have hfound := findsFirst_splitFirst? (delimiters.getD .standard) text.toList
  simp only [parse?] at hparsed
  split at hparsed
  · cases hparsed
  · next parts hsplit =>
      obtain rfl := Option.some.inj hparsed
      rw [hsplit] at hfound
      dsimp only
      rw [htokens]
      refine ⟨hcut.exists_binding ?_, ⟨cut.alternates_tokens.ne_empty,
        cut.alternates_tokens.apart⟩, ⟨cut.tokens.map Token.code, ?_, rfl⟩, fun s => ?_⟩
      · rw [htext]
        exact FirstMatch.occurs hfound
      · rw [List.forall₂_map_right_iff, List.forall₂_same]
        exact fun token _ => token.coded_code
      · refine ⟨⟨s.toList.flatMap escapeChar, ?_, quotedBody_flatMap_escapeChar _⟩,
          Json.parse?_quote s⟩
        rw [quote, String.toList_ofList, quoteChars, List.cons_append]

/-- A text whose literals hold quotes and a line end. -/
def greeting : String := "say \"\x7b\x7b a | b \x7d\x7d\"\n\x7b\x7bc\x7d\x7d"

/-- Its tokens and its code. -/
def greetingParts : Interpolation where
  expression := "\"say \\\"\"+_s(_f(\"b\")(a))+\"\\\"\\n\"+_s(c)"
  tokens := [.literal "say \"", .binding "_f(\"b\")(a)", .literal "\"\n", .binding "c"]

theorem greeting_tokens_and_code :
    parse? greeting none = some greetingParts ∧
      (∃ expression, .binding expression ∈ greetingParts.tokens) ∧
      ∃ codes, List.Forall₂ Coded greetingParts.tokens codes ∧
        greetingParts.expression = "+".intercalate codes := by
  have hparsed : parse? greeting none = some greetingParts := by decide +kernel
  obtain ⟨hbinding, -, hcodes, -⟩ := parse?_tokens_and_code hparsed
  exact ⟨hparsed, hbinding, hcodes⟩

end Interpolation

end Stencil
