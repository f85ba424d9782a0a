import Stencil.Span

/-!
# Diagnostics

Work on a template makes reports as it goes along and never stops at one.  `Reported α` is a value
together with the reports made on the way to it, in their order.  `Diagnostics.collect` sorts
reports into errors and tips.
-/

namespace Stencil

/-- A remark on a template with a stable code. -/
structure Diagnostic where
  code : String
  message : String
  span : Option Span
  deriving DecidableEq

/-- A diagnostic as it was made.  An advisory one is a tip and never means a broken template. -/
structure Report where
  diagnostic : Diagnostic
  advisory : Bool
  deriving DecidableEq

/-! ## Values with reports -/

/-- A value and the reports made on the way to it. -/
structure Reported (α : Type) where
  value : α
  reports : List Report := []
  deriving DecidableEq

namespace Reported

/-- A value without reports. -/
protected def pure {α : Type} (value : α) : Reported α := ⟨value, []⟩

/-- Goes on with a value, behind its reports. -/
protected def bind {α β : Type} (x : Reported α) (f : α → Reported β) : Reported β :=
  ⟨(f x.value).value, x.reports ++ (f x.value).reports⟩

instance : Monad Reported where
  pure := Reported.pure
  bind := Reported.bind

@[simp]
theorem value_pure {α : Type} (a : α) : (pure a : Reported α).value = a := rfl

@[simp]
theorem reports_pure {α : Type} (a : α) : (pure a : Reported α).reports = [] := rfl

@[simp]
theorem value_bind {α β : Type} (x : Reported α) (f : α → Reported β) :
    (x >>= f).value = (f x.value).value := rfl

@[simp]
theorem reports_bind {α β : Type} (x : Reported α) (f : α → Reported β) :
    (x >>= f).reports = x.reports ++ (f x.value).reports := rfl

instance : LawfulMonad Reported :=
  LawfulMonad.mk' Reported
    (fun x => by
      cases x
      simp [Functor.map, Reported.bind, Reported.pure])
    (fun a f => by simp [pure, bind, Reported.bind, Reported.pure])
    (fun x f g => by simp [bind, Reported.bind])

/-- Only the value that comes matters for how to go on. -/
theorem bind_congr_value {α β : Type} {x : Reported α} {f g : α → Reported β}
    (hvalue : f x.value = g x.value) : x >>= f = x >>= g := by
  change Reported.bind x f = Reported.bind x g
  unfold Reported.bind
  rw [hvalue]

/-- Makes a report. -/
def report (diagnostic : Diagnostic) (advisory : Bool) : Reported Unit :=
  ⟨(), [⟨diagnostic, advisory⟩]⟩

end Reported

/-! ## Errors and tips -/

/-- Diagnostics sorted into errors and tips. -/
structure Diagnostics where
  errors : List Diagnostic
  tips : List Diagnostic
  deriving DecidableEq

/-- A diagnostic as it is kept.  Without `ranges` it has no span; otherwise its span is moved behind
the `leading` bytes that were cut off the template. -/
def Diagnostic.located (ranges : Bool) (leading : UInt32) (d : Diagnostic) : Diagnostic :=
  { d with span := if ranges then d.span.map (·.shift leading) else none }

/-- The errors and tips among some reports, each in the order of the reports. -/
def Diagnostics.collect (ranges : Bool) (leading : UInt32) (reports : List Report) : Diagnostics :=
  let kept (advisory : Bool) :=
    (reports.filter (·.advisory == advisory)).map fun r => r.diagnostic.located ranges leading
  ⟨kept false, kept true⟩

end Stencil
