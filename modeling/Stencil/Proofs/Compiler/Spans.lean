import Mathlib.Data.List.Forall2
import Stencil.Compiler.Basic
import Stencil.Proofs.Frame
import Stencil.Proofs.Span
import Stencil.Proofs.Text.Trim
import Stencil.Proofs.Traversal

/-!
# Diagnostics point into the template as it was given

A template is trimmed before it is built and checked, so that spans are reported
against the trimmed text.  The compiler keeps each of them moved by the number of
bytes that were trimmed off the start, and this file proves that the moved span
covers the same bytes of the template as it was given.

* `trimmed_bytes`: the bytes of a template are those trimmed off its start, as
  many as `leadingBytes` says, those of its trimmed form, and some more;
* `Located`: how a diagnostic is kept, by what its span covers;
* `compile_locates_diagnostics`: every report of the builder and the validator is
  kept once, among the errors or among the tips, and is located.
-/

namespace Stencil

open Text

/-! ## The bytes around a trimmed text -/

/-- The bytes of a string. -/
def bytes (text : String) : List UInt8 :=
  utf8 text.toList

theorem length_utf8 (cs : List Char) : (utf8 cs).length = Frame.byteCount cs := by
  induction cs with
  | nil => rfl
  | cons c cs ih =>
      rw [utf8_cons, List.length_append, String.length_utf8EncodeChar, ih, Frame.byteCount_cons]

theorem length_bytes (text : String) : (bytes text).length = text.utf8ByteSize := by
  rw [bytes, length_utf8, Frame.byteCount_toList]

theorem trimmed_bytes {template : String} (hsize : template.utf8ByteSize < UInt32.size) :
    ∃ before after, bytes template = before ++ bytes (trim template) ++ after ∧
      (Compiler.leadingBytes template).toNat = before.length := by
  obtain ⟨trail, htrail, -⟩ := exists_trimEnd (trimStart template.toList)
  have htemplate : template.toList =
      template.toList.takeWhile isBlank ++ trimChars template.toList ++ trail := by
    rw [List.append_assoc, trimChars, ← htrail, trimStart, List.takeWhile_append_dropWhile]
  have hbytes : bytes template =
      utf8 (template.toList.takeWhile isBlank) ++ bytes (trim template) ++ utf8 trail := by
    rw [bytes, bytes, trim, String.toList_ofList, ← utf8_append, ← utf8_append, ← htemplate]
  refine ⟨_, _, hbytes, ?_⟩
  rw [Compiler.leadingBytes, toNat_offsetOfNat, length_utf8]
  -- the blanks at the start are not more than the whole template
  rw [← length_utf8]
  have hlength := congrArg List.length hbytes
  rw [length_bytes, List.length_append, List.length_append] at hlength
  omega

/-! ## Diagnostics in their places -/

/-- How a diagnostic that was reported against a trimmed template is kept.  With
`ranges`, a span inside of the trimmed template becomes one that covers the same
bytes of the template itself; without, there is none. -/
structure Located (ranges : Bool) (template : String) (reported kept : Diagnostic) : Prop where
  code : kept.code = reported.code
  message : kept.message = reported.message
  spanless : ranges = false ∨ reported.span = none → kept.span = none
  same_bytes : ranges = true → ∀ s, reported.span = some s → s.Inside (bytes (trim template)) →
    ∃ s', kept.span = some s' ∧ s'.Inside (bytes template) ∧
      s'.slice (bytes template) = s.slice (bytes (trim template))

theorem located_located (ranges : Bool) {template : String}
    (hsize : template.utf8ByteSize < UInt32.size) (d : Diagnostic) :
    Located ranges template d (d.located ranges (Compiler.leadingBytes template)) where
  code := rfl
  message := rfl
  spanless := by
    rintro (rfl | hspan)
    · rfl
    · rw [Diagnostic.located, hspan, Option.map_none, ite_self]
  same_bytes := by
    rintro rfl s hspan hinside
    obtain ⟨before, after, htemplate, hleading⟩ := trimmed_bytes hsize
    refine ⟨s.shift (Compiler.leadingBytes template), ?_, ?_⟩
    · rw [Diagnostic.located, if_pos rfl, hspan, Option.map_some]
    · rw [htemplate]
      refine Span.slice_shift hinside hleading ?_
      rw [← htemplate, length_bytes]
      exact hsize

/-- What was reported as an error, or as a tip, in the order of the reports. -/
def reportedAs (advisory : Bool) (reports : List Report) : List Diagnostic :=
  (reports.filter (·.advisory == advisory)).map Report.diagnostic

/-- Errors and tips among reports against a trimmed template are each kept in the
order of the reports. -/
theorem collect_locates (ranges : Bool) {template : String}
    (hsize : template.utf8ByteSize < UInt32.size) (reports : List Report) :
    let kept := Diagnostics.collect ranges (Compiler.leadingBytes template) reports
    List.Forall₂ (Located ranges template) (reportedAs false reports) kept.errors ∧
      List.Forall₂ (Located ranges template) (reportedAs true reports) kept.tips := by
  have hkept : ∀ advisory, List.Forall₂ (Located ranges template) (reportedAs advisory reports)
      ((reports.filter (·.advisory == advisory)).map fun r =>
        r.diagnostic.located ranges (Compiler.leadingBytes template)) := by
    intro advisory
    rw [reportedAs, List.forall₂_map_left_iff, List.forall₂_map_right_iff, List.forall₂_same]
    exact fun r _ => located_located ranges hsize r.diagnostic
  exact ⟨hkept false, hkept true⟩

namespace Compiler

/-- The tree of a template that is checked: as it was built, and then optimised if
the compiler and the options say so. -/
def checkedTree (c : Compiler) (template : String) (call : CallOptions) : Tree :=
  let options := call.resolve c.base
  let built := (c.build (trim template) options).value
  match c.optimizer with
  | some optimize => if options.optimize then optimize options built else built
  | none => built

/-- **Diagnostics point at the same text of the template as it was given.**  A
template has fewer bytes than there are offsets, and the walk of the validator
through its tree ends.  Then compiling it gives a result, and every report of the
builder and of the validator, made against the trimmed template, is kept exactly
once, in the order of the reports: among the errors, or among the tips if it is
advisory.  With source ranges, a span inside of the trimmed template is kept as a
span that covers the same bytes of the template; without, no span is kept. -/
theorem compile_locates_diagnostics (c : Compiler) {template : String}
    (hsize : template.utf8ByteSize < UInt32.size) (call : CallOptions) {checked : List Report}
    (hchecked : (c.checkedTree template call).reports? c.checker = some checked) :
    let options := call.resolve c.base
    let reports := (c.build (trim template) options).reports ++ checked
    ∃ result, c.compile? template call = some result ∧
      List.Forall₂ (Located options.outputSourceRange template) (reportedAs false reports)
        result.diagnostics.errors ∧
      List.Forall₂ (Located options.outputSourceRange template) (reportedAs true reports)
        result.diagnostics.tips := by
  intro options reports
  refine ⟨⟨c.checkedTree template call, c.generate (c.checkedTree template call) options,
    Diagnostics.collect options.outputSourceRange (leadingBytes template) reports⟩, ?_,
    collect_locates _ hsize _⟩
  exact bind_eq_some_of rfl hchecked

/-- A compiler whose builder points at the second byte of every template. -/
def pointing : Compiler where
  base := { outputSourceRange := true }
  build _ _ := ⟨{}, [⟨⟨"X001", "here", some ⟨1, 1⟩⟩, true⟩]⟩
  generate _ _ := ⟨"", []⟩

/-- Behind an ideographic space and a line feed, four bytes in all, the span of a
tip still covers the name of the tag. -/
theorem compile_locates_tip_behind_blanks :
    "\u3000\n<p>".utf8ByteSize < UInt32.size ∧
      (pointing.checkedTree "\u3000\n<p>" {}).reports? pointing.checker = some [] ∧
      ∃ result kept s, pointing.compile? "\u3000\n<p>" {} = some result ∧
        result.diagnostics.errors = [] ∧ result.diagnostics.tips = [kept] ∧ kept.span = some s ∧
        s.slice (bytes "\u3000\n<p>") = [0x70] := by
  have hsize : "\u3000\n<p>".utf8ByteSize < UInt32.size := by decide
  have hchecked : (pointing.checkedTree "\u3000\n<p>" {}).reports? pointing.checker = some [] := rfl
  obtain ⟨result, hresult, herrors, htips⟩ :=
    compile_locates_diagnostics pointing hsize {} hchecked
  obtain ⟨kept, rest, hkept, hrest, htips⟩ := List.forall₂_cons_left_iff.mp htips
  obtain ⟨s, hspan, -, hslice⟩ := hkept.same_bytes rfl ⟨1, 1⟩ rfl (by decide)
  refine ⟨hsize, hchecked, result, kept, s, hresult, List.forall₂_nil_left_iff.mp herrors, ?_,
    hspan, hslice.trans (by decide)⟩
  rw [htips, List.forall₂_nil_left_iff.mp hrest]

end Compiler

end Stencil
