import Stencil.Proofs.Processing
import Stencil.Proofs.Tree.Taking

/-!
# What processing makes of an element

Processing looks for the key, the reference and the classes of an element and
turns each attribute that is left into entries of four lists.  `value_process`
says what comes out, as one equation: every field depends on what was looked up
among the written attributes and on the attributes that are left.
-/

namespace Stencil

open Text

/-! ## One attribute -/

/-- Entries of the four lists that processing fills. -/
structure Entries where
  attributes : List Binding := []
  properties : List Binding := []
  events : List EventBinding := []
  directives : List DirectiveBinding := []

/-- What becomes of one attribute; `isProp` says what has to be set as a property. -/
def Attribute.entries (isProp : String → Bool) (a : Attribute) : Entries :=
  match AttributeKind.ofName a.name with
  | .plain =>
    { attributes := [⟨a.name, quote a.value, false, a.span⟩]
      properties :=
        if a.name == "muted" && isProp a.name then [⟨a.name, "true", false, a.span⟩] else [] }
  | .bound name dynamic modifiers =>
    let binding : Binding := ⟨name, Filter.compile a.value, dynamic, a.span⟩
    if modifiers.contains "prop" || isProp name then { properties := [binding] }
    else { attributes := [binding] }
  | .event name dynamic modifiers =>
    { events := [⟨name, a.value, modifiers, dynamic, a.span⟩] }
  | .directive name argument dynamic modifiers =>
    { directives := [⟨name, a.name, a.value, argument, dynamic, modifiers, a.span⟩] }

theorem ofName_eq_plain_iff {name : String} :
    AttributeKind.ofName name = .plain ↔ isDirective name = false := by
  unfold AttributeKind.ofName
  split_ifs with hdirective
  · simp only [hdirective, Bool.true_eq_false, iff_false]
    unfold AttributeKind.ofDirective
    split
    · simp
    · split
      · simp
      · dsimp only
        split
        · simp
        · simp
  · simpa using hdirective

namespace Element

variable {scope : Scope}

/-- What has to be set as a property of an element. -/
def isProp (scope : Scope) (e : Element) : String → Bool :=
  scope.mustUseProp e.tag (e.written.get? "type")

theorem value_addPlain_isProp (e : Element) (scope : Scope) (a : Attribute) :
    (e.addPlain scope a).value = { e with
      attributes := e.attributes ++ [⟨a.name, quote a.value, false, a.span⟩]
      properties := e.properties ++
        if a.name == "muted" && e.isProp scope a.name then [⟨a.name, "true", false, a.span⟩]
        else [] } := by
  have hadd : (e.addPlain scope a).value = { e with
      attributes := e.attributes ++ [⟨a.name, quote a.value, false, a.span⟩]
      properties :=
        if a.name == "muted" && e.isProp scope a.name then
          e.properties ++ [⟨a.name, "true", false, a.span⟩]
        else e.properties } := value_addPlain e scope a
  rw [hadd]
  split_ifs
  · rfl
  · rw [List.append_nil]

theorem value_processAttribute (e : Element) (scope : Scope) (a : Attribute) :
    (e.processAttribute scope a).value = { e with
      attributes := e.attributes ++ (a.entries (e.isProp scope)).attributes
      properties := e.properties ++ (a.entries (e.isProp scope)).properties
      events := e.events ++ (a.entries (e.isProp scope)).events
      directives := e.directives ++ (a.entries (e.isProp scope)).directives
      hasBindings := e.hasBindings || isDirective a.name } := by
  have hdirective (hkind : AttributeKind.ofName a.name ≠ .plain) : isDirective a.name = true := by
    rwa [Ne, ofName_eq_plain_iff, Bool.not_eq_false] at hkind
  unfold processAttribute Attribute.entries
  cases hkind : AttributeKind.ofName a.name with
  | plain =>
      rw [ofName_eq_plain_iff.mp hkind]
      simp only [value_addPlain_isProp, List.append_nil, Bool.or_false]
  | bound name dynamic modifiers =>
      let binding : Binding := ⟨name, Filter.compile a.value, dynamic, a.span⟩
      have hbound : { e with hasBindings := true }.addBound scope a name dynamic modifiers =
          if modifiers.contains "prop" || e.isProp scope name then
            { e with hasBindings := true, properties := e.properties ++ [binding] }
          else { e with hasBindings := true, attributes := e.attributes ++ [binding] } := rfl
      simp only [hdirective (by simp [hkind]), hbound, Bool.or_true, Reported.value_pure]
      split_ifs
      · simp only [List.append_nil, binding]
      · simp only [List.append_nil, binding]
  | event name dynamic modifiers =>
      simp [hdirective (by simp [hkind])]
  | directive name argument dynamic modifiers =>
      simp [hdirective (by simp [hkind])]

/-! ## All pending attributes -/

theorem value_foldlM_processAttribute (attributes : List Attribute) (e : Element) :
    (attributes.foldlM (processAttribute scope) e).value = { e with
      attributes := e.attributes ++
        attributes.flatMap fun a => (a.entries (e.isProp scope)).attributes
      properties := e.properties ++
        attributes.flatMap fun a => (a.entries (e.isProp scope)).properties
      events := e.events ++
        attributes.flatMap fun a => (a.entries (e.isProp scope)).events
      directives := e.directives ++
        attributes.flatMap fun a => (a.entries (e.isProp scope)).directives
      hasBindings := e.hasBindings || attributes.any fun a => isDirective a.name } := by
  induction attributes generalizing e with
  | nil => simp
  | cons a attributes ih =>
      -- The tag and the written attributes stay, and nothing else decides.
      have hprop : (e.processAttribute scope a).value.isProp scope = e.isProp scope := by
        rw [value_processAttribute]
        rfl
      rw [List.foldlM_cons, Reported.value_bind, ih, hprop, value_processAttribute]
      simp [Bool.or_assoc]

theorem value_processAttributes (e : Element) (scope : Scope) :
    (e.processAttributes scope).value = { e with
      attributes := e.attributes ++
        e.pending.flatMap fun a => (a.entries (e.isProp scope)).attributes
      properties := e.properties ++
        e.pending.flatMap fun a => (a.entries (e.isProp scope)).properties
      events := e.events ++
        e.pending.flatMap fun a => (a.entries (e.isProp scope)).events
      directives := e.directives ++
        e.pending.flatMap fun a => (a.entries (e.isProp scope)).directives
      hasBindings := e.hasBindings || e.pending.any fun a => isDirective a.name } :=
  value_foldlM_processAttribute e.pending e

/-! ## The whole element -/

/-- The key that an element asks for. -/
def givenKey? (e : Element) : Option String :=
  (e.takeBinding "key" true).1.filter fun key => !key.isEmpty

/-- The reference that an element asks for. -/
def givenReference? (e : Element) : Option String :=
  (e.takeBinding "ref" true).1.filter fun reference => !reference.isEmpty

/-- The bound class that an element asks for. -/
def givenClassBinding? (e : Element) : Option String :=
  (e.takeBinding "class" false).1.filter fun code => !code.isEmpty

theorem processKey_eq (e : Element) :
    e.processKey = { e with
      pending := Attribute.dropFirst (e.takenForms "key" true ++ e.takenForms "ref" true) e.pending
      plain := (e.givenKey?.or e.key).isNone &&
        (Attribute.dropFirst (e.takenForms "key" true) e.pending).isEmpty
      key := e.givenKey?.or e.key
      reference := e.givenReference?.or e.reference } := by
  let keyed : Element := { e with
    pending := Attribute.dropFirst (e.takenForms "key" true) e.pending
    plain := (e.givenKey?.or e.key).isNone &&
      (Attribute.dropFirst (e.takenForms "key" true) e.pending).isEmpty
    key := e.givenKey?.or e.key }
  have hkeyed : e.processKey =
      { (keyed.takeBinding "ref" true).2 with
        reference := ((keyed.takeBinding "ref" true).1.filter fun r => !r.isEmpty).or
          (keyed.takeBinding "ref" true).2.reference } := by
    simp only [processKey, takeBinding_snd e]
    rfl
  have hreference : (keyed.takeBinding "ref" true).1 = (e.takeBinding "ref" true).1 :=
    takeBinding_fst_congr (x := keyed) (y := e) (fun _ _ => rfl) true
  rw [hkeyed, takeBinding_snd, hreference, Attribute.dropFirst_append]
  rfl

/-- The forms of the classes that are taken. -/
def classForms (e : Element) : List String :=
  (["class"].filter fun form => (e.written.get? form).isSome) ++ e.takenForms "class" false

theorem takeClasses_eq (e : Element) (scope : Scope) :
    (e.takeStaticClass scope).value.takeClassBinding = { e with
      pending := Attribute.dropFirst e.classForms e.pending
      staticClass := ((e.written.nonEmpty? "class").map quote).or e.staticClass
      classBinding := e.givenClassBinding?.or e.classBinding } := by
  let classed : Element := { e with
    pending := Attribute.dropFirst (["class"].filter fun form => (e.written.get? form).isSome)
      e.pending
    staticClass := ((e.written.nonEmpty? "class").map quote).or e.staticClass }
  have hclassed : (e.takeStaticClass scope).value = classed := by
    rw [value_takeStaticClass, show (e.take "class" false).2 = _ from foldl_take e ["class"]]
  have hbinding : (classed.takeBinding "class" false).1 = (e.takeBinding "class" false).1 :=
    takeBinding_fst_congr (x := classed) (y := e) (fun _ _ => rfl) false
  rw [hclassed, takeClassBinding]
  simp only [takeBinding_snd, hbinding, classForms, Attribute.dropFirst_append]
  rfl

/-- Moving the classes once more than once finds nothing new. -/
theorem value_moveClasses (scope : Scope) (n : Nat) (e : Element) :
    (e.moveClasses scope n).value = { e with
      pending := Attribute.dropFirst (List.replicate n e.classForms).flatten e.pending
      staticClass :=
        if n = 0 then e.staticClass
        else ((e.written.nonEmpty? "class").map quote).or e.staticClass
      classBinding :=
        if n = 0 then e.classBinding else e.givenClassBinding?.or e.classBinding } := by
  induction n generalizing e with
  | zero => rfl
  | succ n ih =>
      have hstep : (e.moveClasses scope (n + 1)).value =
          ((e.takeStaticClass scope).value.takeClassBinding.moveClasses scope n).value := rfl
      have hbinding : (e.takeStaticClass scope).value.takeClassBinding.givenClassBinding? =
          e.givenClassBinding? := by
        rw [takeClasses_eq, givenClassBinding?, givenClassBinding?]
        congr 1
        apply takeBinding_fst_congr
        intro form _
        rfl
      rw [hstep, ih, hbinding, takeClasses_eq]
      -- The classes are looked up among the written attributes, which stay.
      have htwice : ∀ found kept : Option String,
          (if n = 0 then found.or kept else found.or (found.or kept)) = found.or kept := by
        intro found kept
        rw [← Option.or_assoc, Option.or_self, ite_self]
      simp only [htwice, Nat.succ_ne_zero, if_false, List.replicate_succ, List.flatten_cons,
        Attribute.dropFirst_append]
      rfl

/-- The forms of the key, the reference and the classes that are taken, where `n`
modules move classes. -/
def processedForms (e : Element) (n : Nat) : List String :=
  e.takenForms "key" true ++ e.takenForms "ref" true ++ (List.replicate n e.classForms).flatten

/-- The attributes that are left when these are taken. -/
def leftover (e : Element) (n : Nat) : List Attribute :=
  Attribute.dropFirst (e.processedForms n) e.pending

/-- Processing an element, as one equation. -/
theorem value_process (e : Element) (scope : Scope) (n : Nat) :
    (e.process scope (moveClasses scope n)).value = { e with
      pending := e.leftover n
      plain := e.processKey.plain
      key := e.givenKey?.or e.key
      reference := e.givenReference?.or e.reference
      staticClass :=
        if n = 0 then e.staticClass
        else ((e.written.nonEmpty? "class").map quote).or e.staticClass
      classBinding := if n = 0 then e.classBinding else e.givenClassBinding?.or e.classBinding
      attributes := e.attributes ++
        (e.leftover n).flatMap fun a => (a.entries (e.isProp scope)).attributes
      properties := e.properties ++
        (e.leftover n).flatMap fun a => (a.entries (e.isProp scope)).properties
      events := e.events ++ (e.leftover n).flatMap fun a => (a.entries (e.isProp scope)).events
      directives := e.directives ++
        (e.leftover n).flatMap fun a => (a.entries (e.isProp scope)).directives
      hasBindings := e.hasBindings || (e.leftover n).any fun a => isDirective a.name } := by
  have hbinding : e.processKey.givenClassBinding? = e.givenClassBinding? := by
    rw [processKey_eq, givenClassBinding?, givenClassBinding?]
    congr 1
    apply takeBinding_fst_congr
    intro form _
    rfl
  have hmoved : (e.processKey.moveClasses scope n).value = { e with
      pending := e.leftover n
      plain := e.processKey.plain
      key := e.givenKey?.or e.key
      reference := e.givenReference?.or e.reference
      staticClass :=
        if n = 0 then e.staticClass
        else ((e.written.nonEmpty? "class").map quote).or e.staticClass
      classBinding :=
        if n = 0 then e.classBinding else e.givenClassBinding?.or e.classBinding } := by
    rw [value_moveClasses, hbinding, processKey_eq,
      show e.leftover n = _ from Attribute.dropFirst_append _ _ _]
    rfl
  have hprocess : (e.process scope (moveClasses scope n)).value =
      ((e.processKey.moveClasses scope n).value.processAttributes scope).value := rfl
  rw [hprocess, hmoved, value_processAttributes]
  rfl

end Element

end Stencil
