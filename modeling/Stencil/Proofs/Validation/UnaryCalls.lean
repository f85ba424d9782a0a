import Stencil.Proofs.Validation.Literals
import Stencil.Proofs.Validation.PreOrder

/-!
# Calls of unary operators in event handlers

The handler of an event must not call a unary operator like a method, unless a
dollar sign stands before the operator and makes it part of a name.  The
validator only looks at the first call in a handler: it reports that call if it
is not escaped (`mem_reportAll_unary_iff`), and nothing if it is, whatever calls
stand behind it.

So every call that is not escaped is reported if the first call is not escaped,
or all are (`unary_calls_reported_iff`).
-/

namespace Stencil

open Text Validation

/-! ## The reports of an event handler -/

/-- A dollar sign stands at the end of what comes before a call. -/
def Escaped (before : List Char) : Prop :=
  before.getLast? = some '$'

instance : DecidablePred Escaped := fun before =>
  inferInstanceAs (Decidable (before.getLast? = some '$'))

theorem isDirective_of_isEvent {name : String} (hevent : isEvent name = true) :
    isDirective name = true ∧ name ≠ "v-for" ∧ name ≠ "v-slot" ∧ hasStart name "#" = false := by
  have hstart : ∃ start ∈ ["@", "v-on:"], ∃ rest, name.toList = start.toList ++ rest := by
    obtain ⟨start, hmem, hstart⟩ := List.any_eq_true.mp hevent
    obtain ⟨rest, hrest⟩ := List.isPrefixOf_iff_prefix.mp hstart
    exact ⟨start, hmem, rest, hrest.symm⟩
  refine ⟨?_, ?_, ?_, ?_⟩
  · obtain ⟨start, hmem, rest, hrest⟩ := hstart
    rcases List.mem_pair.mp hmem with rfl | rfl <;> simp [isDirective, hasStart, hrest]
  · rintro rfl
    exact absurd hevent (by decide)
  · rintro rfl
    exact absurd hevent (by decide)
  · obtain ⟨start, hmem, rest, hrest⟩ := hstart
    rcases List.mem_pair.mp hmem with rfl | rfl <;> rw [hasStart, hrest] <;> rfl

theorem attributeProblems_of_isEvent (checker : Checker) (e : Element) {name value : String}
    (hevent : isEvent name = true) (hvalue : value ≠ "") :
    e.attributeProblems checker name value =
      unaryProblems value (name ++ "=\"" ++ value ++ "\"") ++
        expressionProblems checker value (name ++ "=\"" ++ value ++ "\"") := by
  obtain ⟨hdirective, hfor, hslot, hhash⟩ := isDirective_of_isEvent hevent
  simp [Element.attributeProblems, hdirective, hvalue, hfor, hslot, hhash, hevent]

theorem code_of_mem_expressionProblems {checker : Checker} {code raw : String} {p : Problem}
    (hp : p ∈ expressionProblems checker code raw) : p.code = "T100" ∨ p.code = "T101" := by
  unfold expressionProblems at hp
  split at hp
  · exact absurd hp List.not_mem_nil
  · split at hp
    · rw [List.mem_singleton.mp hp]
      exact Or.inr rfl
    · rw [List.mem_singleton.mp hp]
      exact Or.inl rfl

theorem mem_unaryProblems_iff {value raw : String} {p : Problem} :
    p ∈ unaryProblems value raw ↔ ∃ before call, FirstCallIn (strip value.toList) before call ∧
      ¬ Escaped before ∧ p = .unaryOperator (String.ofList call) (trim raw) := by
  unfold unaryProblems
  cases hfind : findUnary? none (strip value.toList) with
  | none =>
      refine iff_of_false List.not_mem_nil ?_
      rintro ⟨before, call, hfirst, -⟩
      exact findUnary?_eq_none_iff.mp hfind before call hfirst.toCallIn
  | some found =>
      obtain ⟨last, call⟩ := found
      obtain ⟨before, rfl, hfirst⟩ := findUnary?_eq_some_iff.mp hfind
      dsimp only
      split_ifs with hescaped
      · refine iff_of_false List.not_mem_nil ?_
        rintro ⟨before', call', hfirst', hnot, -⟩
        exact hnot ((hfirst.unique hfirst').1 ▸ hescaped)
      · rw [List.mem_singleton]
        constructor
        · rintro rfl
          exact ⟨before, call, hfirst, hescaped, rfl⟩
        · rintro ⟨before', call', hfirst', -, rfl⟩
          rw [(hfirst.unique hfirst').2]

section Handler

variable (checker : Checker) (e : Element) {name value : String}

/-- The report of a call in the handler of an event. -/
def Element.callReport (e : Element) (name value : String) (call : List Char) : Report :=
  ⟨⟨"T102", "avoid using JavaScript unary operator as property name: \"" ++ String.ofList call ++
    "\" in expression " ++ trim (name ++ "=\"" ++ value ++ "\""), e.recordedSpan name⟩, false⟩

/-- What the validator reports of calls in a handler is its first call, if that is
not escaped. -/
theorem mem_reportAll_unary_iff (hevent : isEvent name = true) (hvalue : value ≠ "") (r : Report) :
    (r ∈ Check.reportAll checker (e.attributeChecks name value) ∧ r.diagnostic.code = "T102") ↔
      ∃ before call, FirstCallIn (strip value.toList) before call ∧ ¬ Escaped before ∧
        r = e.callReport name value call := by
  rw [Element.reportAll_attributeChecks, attributeProblems_of_isEvent checker e hevent hvalue,
    List.map_append, List.mem_append]
  constructor
  · rintro ⟨hr | hr, hcode⟩
    · obtain ⟨p, hp, rfl⟩ := List.mem_map.mp hr
      obtain ⟨before, call, hfirst, hescaped, rfl⟩ := mem_unaryProblems_iff.mp hp
      exact ⟨before, call, hfirst, hescaped, rfl⟩
    · obtain ⟨p, hp, rfl⟩ := List.mem_map.mp hr
      have hcode : p.code = "T102" := hcode
      rcases code_of_mem_expressionProblems hp with hp | hp
      · exact absurd (hp.symm.trans hcode) (by decide)
      · exact absurd (hp.symm.trans hcode) (by decide)
  · rintro ⟨before, call, hfirst, hescaped, rfl⟩
    exact ⟨Or.inl (List.mem_map.mpr ⟨_, mem_unaryProblems_iff.mpr
      ⟨before, call, hfirst, hescaped, rfl⟩, rfl⟩), rfl⟩

/-- **Which event handlers have all their calls of unary operators reported.**
The validator reports the first call of a handler, if it is not escaped, and no
other one.  So it makes such a report just if there is a call that is not
escaped, if and only if either the first call of the handler is not escaped or
all calls are. -/
theorem unary_calls_reported_iff (hevent : isEvent name = true) (hvalue : value ≠ "") :
    (∀ r, (r ∈ Check.reportAll checker (e.attributeChecks name value) ∧
        r.diagnostic.code = "T102") ↔
      ∃ before call, FirstCallIn (strip value.toList) before call ∧ ¬ Escaped before ∧
        r = e.callReport name value call) ∧
    (((∃ r ∈ Check.reportAll checker (e.attributeChecks name value), r.diagnostic.code = "T102") ↔
        ∃ before call, CallIn (strip value.toList) before call ∧ ¬ Escaped before) ↔
      ∀ before call, FirstCallIn (strip value.toList) before call → Escaped before →
        ∀ before' call', CallIn (strip value.toList) before' call' → Escaped before') := by
  have hreports := mem_reportAll_unary_iff checker e hevent hvalue
  refine ⟨hreports, ?_⟩
  have hreported : (∃ r ∈ Check.reportAll checker (e.attributeChecks name value),
      r.diagnostic.code = "T102") ↔
      ∃ before call, FirstCallIn (strip value.toList) before call ∧ ¬ Escaped before := by
    constructor
    · rintro ⟨r, hr, hcode⟩
      obtain ⟨before, call, hfirst, hescaped, -⟩ := (hreports r).mp ⟨hr, hcode⟩
      exact ⟨before, call, hfirst, hescaped⟩
    · rintro ⟨before, call, hfirst, hescaped⟩
      exact ⟨_, (hreports _).mpr ⟨before, call, hfirst, hescaped, rfl⟩⟩
  rw [hreported]
  constructor
  · intro hall before call hfirst hescaped before' call' hcall'
    by_contra hnot
    obtain ⟨first, call'', hfirst', hunescaped⟩ := hall.mpr ⟨before', call', hcall', hnot⟩
    exact hunescaped ((hfirst.unique hfirst').1 ▸ hescaped)
  · intro hall
    constructor
    · rintro ⟨before, call, hfirst, hescaped⟩
      exact ⟨before, call, hfirst.toCallIn, hescaped⟩
    · rintro ⟨before', call', hcall', hunescaped⟩
      obtain ⟨before, call, hfirst⟩ := hcall'.exists_first
      refine ⟨before, call, hfirst, fun hescaped => hunescaped ?_⟩
      exact hall before call hfirst hescaped before' call' hcall'

end Handler

/-! ## Single handlers -/

/-- A handler without literals is its own code. -/
theorem strip_plain {text : List Char} (hquotes : ∀ c ∈ text, c ≠ '\'' ∧ c ≠ '"')
    (htemplate : '`' ∉ text) : strip text = text := by
  have hstrip := Piece.strip_chars [.code text ⟨hquotes, htemplate⟩]
  simpa [Piece.codeOf, Piece.chars, Piece.codeChars] using hstrip

/-- In `list.delete(item)` the call of `delete` is reported. -/
theorem unary_call_of_method_reported :
    isEvent "@click" = true ∧ "list.delete(item)" ≠ "" ∧
      ∃ r ∈ Check.reportAll .ecma (Element.attributeChecks {} "@click" "list.delete(item)"),
        r.diagnostic.code = "T102" := by
  have hevent : isEvent "@click" = true := by decide
  have hvalue : "list.delete(item)" ≠ "" := by decide
  have hstrip : strip "list.delete(item)".toList = "list.delete(item)".toList :=
    strip_plain (by simp) (by decide)
  have hfind : findUnary? none (strip "list.delete(item)".toList) =
      some (some '.', "delete(item)".toList) := by
    rw [hstrip]
    decide +kernel
  obtain ⟨before, hlast, hfirst⟩ := findUnary?_eq_some_iff.mp hfind
  refine ⟨hevent, hvalue, _, ((unary_calls_reported_iff .ecma {} hevent hvalue).1 _).mpr
    ⟨before, _, hfirst, ?_, rfl⟩⟩
  rw [Escaped, hlast]
  decide

/-- A handler that calls a method of its own and then deletes something. -/
def twoCalls : String := "$delete(a); delete(b)"

/-- The second call of `$delete(a); delete(b)` is not escaped, but the validator
reports no call. -/
theorem call_behind_escaped_call_passes :
    isEvent "@click" = true ∧ twoCalls ≠ "" ∧
      (∃ before call, CallIn (strip twoCalls.toList) before call ∧ ¬ Escaped before) ∧
      ¬ ∃ r ∈ Check.reportAll .ecma (Element.attributeChecks {} "@click" twoCalls),
        r.diagnostic.code = "T102" := by
  have hstrip : strip twoCalls.toList = twoCalls.toList :=
    strip_plain (by simp [twoCalls]) (by decide)
  have hfind : findUnary? none (strip twoCalls.toList) = some (some '$', "delete(a)".toList) := by
    rw [hstrip]
    decide +kernel
  obtain ⟨first, hlast, hfirst⟩ := findUnary?_eq_some_iff.mp hfind
  have hcall : UnaryCall ("delete".toList ++ [] ++ '(' :: ['b'] ++ [')']) :=
    .call (by decide) (by simp) (by decide)
  refine ⟨by decide, by decide, ⟨"$delete(a); ".toList, "delete(b)".toList, ?_, by decide⟩, ?_⟩
  · rw [hstrip]
    exact ⟨hcall, by decide, [], by decide⟩
  · rintro ⟨r, hr⟩
    obtain ⟨before, call, hfirst', hescaped, -⟩ :=
      (mem_reportAll_unary_iff .ecma {} (by decide) (by decide) r).mp hr
    rw [← (hfirst.unique hfirst').1] at hescaped
    exact hescaped hlast

end Stencil
