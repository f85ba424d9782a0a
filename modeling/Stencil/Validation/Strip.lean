import Stencil.Text.Blank
import Stencil.Text.Word

/-!
# Code without its literals

What a literal says must not be taken for code.  `strip` removes string literals and the pieces of
templates.  The first of these that a text starts with is removed, from left to right:

* a string between single or double quotes;
* a template from its backquote to its last opening of a substitution;
* a template from the end of a substitution to its backquote;
* a template between two backquotes.
-/

namespace Stencil.Validation

open Text

/-- The text behind a literal that ends at `mark`.  A backslash takes the next character along,
unless that is a line feed. -/
def literalEnd? (mark : Char) : List Char → Option (List Char)
  | [] => none
  | '\\' :: '\n' :: _ => none
  | '\\' :: _ :: rest => literalEnd? mark rest
  | c :: rest => if c = '\\' then none else if c = mark then some rest else literalEnd? mark rest

/-- The text behind the last opening of a substitution before the template ends. -/
def lastSubstitution? : List Char → Option (List Char)
  | [] => none
  | '\\' :: '\n' :: _ => none
  | '\\' :: _ :: rest => lastSubstitution? rest
  | c :: rest =>
    if c = '\\' || c = '`' then none
    else (lastSubstitution? rest).or (if c = '$' then dropStart? ['\x7b'] rest else none)

/-- The text behind a literal at the start of a text. -/
def literal? : List Char → Option (List Char)
  | '\'' :: rest => literalEnd? '\'' rest
  | '"' :: rest => literalEnd? '"' rest
  | '`' :: rest => (lastSubstitution? rest).or (literalEnd? '`' rest)
  | '\x7d' :: rest => literalEnd? '`' rest
  | _ => none

/-! ## A literal takes at least one character -/

theorem literalEnd?_length_lt {mark : Char} {text rest : List Char}
    (h : literalEnd? mark text = some rest) : rest.length < text.length := by
  fun_induction literalEnd? mark text with
  | case1 => simp at h
  | case2 => simp at h
  | case3 c text _ ih =>
    have := ih h
    simp only [List.length_cons]
    omega
  | case4 => simp at h
  | case5 =>
    obtain rfl := Option.some.inj h
    simp
  | case6 c text _ _ _ _ ih =>
    have := ih h
    simp only [List.length_cons]
    omega

theorem lastSubstitution?_length_lt {text rest : List Char}
    (h : lastSubstitution? text = some rest) : rest.length < text.length := by
  fun_induction lastSubstitution? text with
  | case1 => simp at h
  | case2 => simp at h
  | case3 c text _ ih =>
    have := ih h
    simp only [List.length_cons]
    omega
  | case4 => simp at h
  | case5 c text _ _ _ ih =>
    rw [List.length_cons]
    rcases Option.or_eq_some_iff.1 h with hlast | ⟨_, hhere⟩
    · have := ih hlast
      omega
    · split at hhere
      · have := length_le_of_dropStart? hhere
        omega
      · simp at hhere

theorem literal?_length_lt {text rest : List Char} (h : literal? text = some rest) :
    rest.length < text.length := by
  unfold literal? at h
  split at h
  · exact Nat.lt_succ_of_lt (literalEnd?_length_lt h)
  · exact Nat.lt_succ_of_lt (literalEnd?_length_lt h)
  · rename_i rest'
    cases hsub : lastSubstitution? rest' with
    | none =>
      rw [hsub, Option.none_or] at h
      exact Nat.lt_succ_of_lt (literalEnd?_length_lt h)
    | some after =>
      rw [hsub, Option.some_or] at h
      obtain rfl := Option.some.inj h
      exact Nat.lt_succ_of_lt (lastSubstitution?_length_lt hsub)
  · exact Nat.lt_succ_of_lt (literalEnd?_length_lt h)
  · simp at h

/-- A text without its literals. -/
def strip (text : List Char) : List Char :=
  match _h : literal? text with
  | some rest => strip rest
  | none =>
    match text with
    | [] => []
    | c :: rest => c :: strip rest
termination_by text.length
decreasing_by
  · exact literal?_length_lt _h
  · simp

end Stencil.Validation
