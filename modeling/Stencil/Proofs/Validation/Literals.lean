import Stencil.Proofs.Text.Pieces
import Stencil.Proofs.Validation.Search
import Stencil.Validation.Check

/-!
# What literals say is no code

An expression without templates is made of code and of string literals
(`Piece`).  `strip` takes out the literals, whatever they hold, and leaves the
code (`strip_chars`): a quote in the code always opens a literal, an escaped
quote never closes one, and a closing brace starts nothing to be taken out,
since there is no backquote that a template could end with.

So an expression that does not compile is classified by the reserved words of
its code alone (`refusal_ignores_literals`).
-/

namespace Stencil.Validation

open Text

/-! ## Pieces -/

/-- A piece of an expression without templates: code without quotes, or a string
literal in which every character but a line feed can be escaped. -/
abbrev Piece : Type :=
  Text.Piece (fun text => (∀ c ∈ text, c ≠ '\'' ∧ c ≠ '"') ∧ '`' ∉ text)
    (fun q contents => Contents (· ≠ '\n') q contents ∧ '`' ∉ contents)

namespace Piece

/-- The code in a piece. -/
def codeChars : Piece → List Char
  | .code text _ => text
  | .literal .. => []

/-- The code of some pieces, with nothing in place of the literals. -/
def codeOf (ps : List Piece) : List Char :=
  ps.flatMap codeChars

end Piece

/-! ## Stripping -/

theorem literalEnd?_cons {mark c : Char} (hescape : c ≠ '\\') (rest : List Char) :
    literalEnd? mark (c :: rest) = if c = mark then some rest else literalEnd? mark rest := by
  rw [literalEnd?, if_neg hescape]
  · rintro _ rfl
    exact absurd rfl hescape
  · rintro _ _ rfl
    exact absurd rfl hescape

theorem literalEnd?_escape {mark c : Char} (hline : c ≠ '\n') (rest : List Char) :
    literalEnd? mark ('\\' :: c :: rest) = literalEnd? mark rest := by
  rw [literalEnd?]
  exact fun hc => absurd hc hline

theorem literalEnd?_of_not_mem {mark : Char} {text : List Char} (hmark : mark ∉ text) :
    literalEnd? mark text = none := by
  fun_induction literalEnd? mark text with
  | case1 => rfl
  | case2 => rfl
  | case3 c text _ ih => exact ih fun hmem => hmark (by simp [hmem])
  | case4 => rfl
  | case5 => exact absurd List.mem_cons_self hmark
  | case6 c text _ _ _ _ ih => exact ih fun hmem => hmark (List.mem_cons_of_mem _ hmem)

/-- A literal ends at the first quote that is not escaped. -/
theorem literalEnd?_contents {q : Quote} {contents : List Char}
    (h : Contents (· ≠ '\n') q contents) (rest : List Char) :
    literalEnd? q.mark (contents ++ q.mark :: rest) = some rest := by
  have hmark : q.mark ≠ '\\' := by cases q <;> decide
  induction h with
  | nil => rw [List.nil_append, literalEnd?_cons hmark, if_pos rfl]
  | char hquote hescape _ ih =>
      rw [List.cons_append, literalEnd?_cons hescape, if_neg hquote, ih]
  | escape hline _ ih => rw [List.cons_append, List.cons_append, literalEnd?_escape hline, ih]

theorem literal?_quoted {q : Quote} {contents : List Char}
    (h : Contents (· ≠ '\n') q contents) (rest : List Char) :
    literal? (quoted q contents ++ rest) = some rest := by
  have hend := literalEnd?_contents h rest
  rw [quoted, List.cons_append, List.append_assoc, List.singleton_append]
  cases q
  · exact hend
  · exact hend

/-- Where there are no backquotes, only a quote starts something to be taken
out. -/
theorem literal?_of_ne {c : Char} (hquotes : c ≠ '\'' ∧ c ≠ '"') {rest : List Char}
    (htemplate : '`' ∉ c :: rest) : literal? (c :: rest) = none := by
  have hopen : c ≠ '`' := fun hc => htemplate (hc ▸ List.mem_cons_self)
  unfold literal?
  split
  · rename_i heq
    exact absurd (List.cons.inj heq).1 hquotes.1
  · rename_i heq
    exact absurd (List.cons.inj heq).1 hquotes.2
  · rename_i heq
    exact absurd (List.cons.inj heq).1 hopen
  · rename_i heq
    obtain ⟨-, rfl⟩ := List.cons.inj heq
    exact literalEnd?_of_not_mem fun hmem => htemplate (List.mem_cons_of_mem _ hmem)
  · rfl

theorem strip_of_literal? {text rest : List Char} (hliteral : literal? text = some rest) :
    strip text = strip rest := by
  rw [strip]
  split
  · rename_i rest' hliteral'
    rw [hliteral] at hliteral'
    rw [Option.some.inj hliteral']
  · rename_i hnone
    rw [hliteral] at hnone
    cases hnone

theorem strip_cons {c : Char} {rest : List Char} (hliteral : literal? (c :: rest) = none) :
    strip (c :: rest) = c :: strip rest := by
  rw [strip]
  split
  · rename_i rest' hliteral'
    rw [hliteral] at hliteral'
    cases hliteral'
  · rfl

theorem strip_code {text rest : List Char} (hquotes : ∀ c ∈ text, c ≠ '\'' ∧ c ≠ '"')
    (htemplate : '`' ∉ text ++ rest) : strip (text ++ rest) = text ++ strip rest := by
  induction text with
  | nil => rfl
  | cons c text ih =>
      obtain ⟨hc, htext⟩ := List.forall_mem_cons.mp hquotes
      rw [List.cons_append] at htemplate ⊢
      rw [strip_cons (literal?_of_ne hc htemplate),
        ih htext fun hmem => htemplate (List.mem_cons_of_mem _ hmem), List.cons_append]

theorem strip_quoted {q : Quote} {contents : List Char}
    (h : Contents (· ≠ '\n') q contents) (rest : List Char) :
    strip (quoted q contents ++ rest) = strip rest :=
  strip_of_literal? (literal?_quoted h rest)

namespace Piece

theorem backquote_not_mem_chars (p : Piece) : '`' ∉ p.chars := by
  cases p with
  | code text htext => exact htext.2
  | literal q contents hcontents =>
      have hmark : '`' ≠ q.mark := by cases q <;> decide
      simp [Piece.chars, quoted, hmark, hcontents.2]

/-- Stripping an expression leaves its code. -/
theorem strip_chars (ps : List Piece) : strip (ps.flatMap Piece.chars) = codeOf ps := by
  induction ps with
  | nil =>
      rw [List.flatMap_nil, strip]
      rfl
  | cons p ps ih =>
      rw [List.flatMap_cons, codeOf, List.flatMap_cons, ← codeOf, ← ih]
      cases p with
      | code text htext =>
          refine strip_code htext.1 fun hmem => ?_
          rcases List.mem_append.mp hmem with hmem | hmem
          · exact htext.2 hmem
          · obtain ⟨p, -, hmem⟩ := List.mem_flatMap.mp hmem
            exact backquote_not_mem_chars p hmem
      | literal q contents hcontents => exact strip_quoted hcontents.1 _

end Piece

/-! ## Refusals -/

/-- The diagnostic that names a reserved word. -/
def keywordDiagnostic (raw : String) (span : Option Span) (keyword : String) : Diagnostic :=
  ⟨"T101", "avoid using JavaScript keyword as property name: \"" ++ keyword ++
    "\"\n  Raw expression: " ++ trim raw, span⟩

/-- The diagnostic that passes on why a checker refused an expression. -/
def expressionDiagnostic (expression raw : String) (span : Option Span) (message : String) :
    Diagnostic :=
  ⟨"T100", "invalid expression: " ++ message ++ " in\n\n    " ++ expression ++
    "\n\n  Raw expression: " ++ trim raw ++ "\n", span⟩

theorem keywordDiagnostic_inj {raw : String} {span : Option Span} {keyword keyword' : String} :
    keywordDiagnostic raw span keyword = keywordDiagnostic raw span keyword' ↔
      keyword = keyword' := by
  simp [keywordDiagnostic, String.append_left_inj, String.append_right_inj]

section Expression

variable {checker : Checker} {code : String} (raw : String) (span : Option Span)

theorem diagnostic?_of_ok (hok : checker.body ("return " ++ code) = .ok ()) :
    Check.diagnostic? checker ⟨.expression, code, raw, span⟩ = none := by
  simp only [Check.diagnostic?, Check.problem?, hok, Option.map_none]

/-- An expression that is refused has one problem, which its stripped code decides. -/
theorem diagnostic?_of_error {message : String}
    (herror : checker.body ("return " ++ code) = .error message) :
    (∃ keyword, LeftmostKeyword (strip code.toList) keyword ∧
        Check.diagnostic? checker ⟨.expression, code, raw, span⟩ =
          some (keywordDiagnostic raw span keyword)) ∨
      (∀ before keyword, ¬ KeywordIn (strip code.toList) before keyword) ∧
        Check.diagnostic? checker ⟨.expression, code, raw, span⟩ =
          some (expressionDiagnostic code raw span message) := by
  simp only [Check.diagnostic?, Check.problem?, Check.refusal, herror, Option.map_some]
  cases hfind : findKeyword? none (strip code.toList) with
  | some keyword => exact Or.inl ⟨keyword, findKeyword?_eq_some_iff.mp hfind, rfl⟩
  | none => exact Or.inr ⟨findKeyword?_eq_none_iff.mp hfind, rfl⟩

end Expression

/-- **What literals say never decides why an expression is refused.**  An
expression made of code and string literals is stripped to its code.  Whatever
checker is used, the check of the expression reports nothing if the checker
accepts the code that returns it.  Otherwise it reports one problem: it names the
leftmost reserved word that stands in the code as a word of its own, or it gives
the checker's message if there is none.  A reserved word that stands in literals
only is never named. -/
theorem refusal_ignores_literals (checker : Checker) (ps : List Piece) (raw : String)
    (span : Option Span) :
    let check : Check := ⟨.expression, Piece.expression ps, raw, span⟩
    strip (Piece.expression ps).toList = Piece.codeOf ps ∧
      (match checker.body ("return " ++ Piece.expression ps) with
        | .ok () => check.diagnostic? checker = none
        | .error message =>
          (∃ keyword, LeftmostKeyword (Piece.codeOf ps) keyword ∧
              check.diagnostic? checker = some (keywordDiagnostic raw span keyword)) ∨
            (∀ before keyword, ¬ KeywordIn (Piece.codeOf ps) before keyword) ∧
              check.diagnostic? checker =
                some (expressionDiagnostic (Piece.expression ps) raw span message)) ∧
      ∀ keyword, (∀ before, ¬ KeywordIn (Piece.codeOf ps) before keyword) →
        check.diagnostic? checker ≠ some (keywordDiagnostic raw span keyword) := by
  intro check
  have hstrip : strip (Piece.expression ps).toList = Piece.codeOf ps := by
    rw [Piece.expression, String.toList_ofList, Piece.strip_chars]
  refine ⟨hstrip, ?_, fun keyword honly hnamed => ?_⟩
  · cases hbody : checker.body ("return " ++ Piece.expression ps) with
    | ok => exact diagnostic?_of_ok raw span hbody
    | error message =>
        rw [← hstrip]
        exact diagnostic?_of_error raw span hbody
  · cases hbody : checker.body ("return " ++ Piece.expression ps) with
    | ok =>
        rw [diagnostic?_of_ok raw span hbody] at hnamed
        exact nomatch hnamed
    | error message =>
        rw [← hstrip] at honly
        rcases diagnostic?_of_error raw span hbody with
          ⟨first, ⟨before, hfirst, -⟩, hdiagnostic⟩ | ⟨-, hdiagnostic⟩
        · rw [hdiagnostic, Option.some_inj, keywordDiagnostic_inj] at hnamed
          exact honly before (hnamed ▸ hfirst)
        · rw [hdiagnostic, Option.some_inj] at hnamed
          exact absurd (congrArg Diagnostic.code hnamed) (show "T100" ≠ "T101" by decide)

/-- The pieces of `'new' + a.if`. -/
def newAndIf : List Piece :=
  [.literal .single ['n', 'e', 'w']
    ⟨.char (by decide) (by decide)
      (.char (by decide) (by decide) (.char (by decide) (by decide) .nil)), by decide⟩,
   .code " + a.if".toList ⟨by simp, by decide⟩]

/-- In `'new' + a.if` the word `new` stands in a literal only, and is not named. -/
theorem refusal_of_newAndIf :
    (∀ before, ¬ KeywordIn (Piece.codeOf newAndIf) before "new") ∧
      Check.diagnostic? .ecma ⟨.expression, "'new' + a.if", "'new' + a.if", none⟩ ≠
        some (keywordDiagnostic "'new' + a.if" none "new") := by
  have honly : ∀ before, ¬ KeywordIn (Piece.codeOf newAndIf) before "new" := by
    rintro before ⟨-, -, behind, htext, -⟩
    have hmem : 'w' ∈ Piece.codeOf newAndIf := by simp [htext]
    exact absurd hmem (by decide)
  exact ⟨honly, (refusal_ignores_literals .ecma newAndIf "'new' + a.if" none).2.2 "new" honly⟩

end Stencil.Validation
