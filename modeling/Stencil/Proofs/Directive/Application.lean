import Stencil.Proofs.Directive.Layers

/-!
# Directives are applied in order

Applying the directives of an element calls one handler after another on the
element that the handlers before have left.  Handlers that only add properties
and report (`DirectiveHandler.OnlyPushes`) leave an element that differs from the
first one in its properties alone, so the whole can be told as a list of
`DirectiveCall`s: the directives in their order, each with the handler found for
it and with the element as it stood then.  What is left, what is reported and
which directives are still needed are read off the list.

`applyOne_eq` is one call, and `foldlM_applyOne` all of them.
-/

namespace Stencil

/-! ## Handlers that only add properties -/

/-- An element with further properties. -/
def Element.push (e : Element) (properties : List Binding) : Element :=
  { e with properties := e.properties ++ properties }

theorem Element.push_nil (e : Element) : e.push [] = e := by
  rw [push, List.append_nil]

theorem Element.push_push (e : Element) (properties more : List Binding) :
    (e.push properties).push more = e.push (properties ++ more) := by
  rw [push, push, push, List.append_assoc]

namespace DirectiveHandler

/-- The properties that a handler adds to an element. -/
def pushed (handler : DirectiveHandler) (directive : DirectiveBinding) (e : Element) :
    List Binding :=
  (handler directive e).value.2.properties.drop e.properties.length

/-- A handler changes nothing of an element but adds properties. -/
def OnlyPushes (handler : DirectiveHandler) : Prop :=
  ∀ directive e, (handler directive e).value.2 = e.push (handler.pushed directive e)

/-- The property that shows the value of a directive, if it has one. -/
def shown (property : String) (directive : DirectiveBinding) : List Binding :=
  if directive.value = "" then []
  else [{ name := property, value := "_s(" ++ directive.value ++ ")", span := directive.span }]

theorem display_eq (property : String) (directive : DirectiveBinding) (e : Element) :
    display property directive e = ⟨(false, e.push (shown property directive)), []⟩ := by
  unfold display shown
  by_cases hempty : directive.value = ""
  · rw [if_pos hempty, Element.push_nil, hempty]
    rfl
  · rw [if_neg hempty, if_neg (by simpa using hempty)]
    rfl

theorem pushed_display (property : String) (directive : DirectiveBinding) (e : Element) :
    (display property).pushed directive e = shown property directive := by
  rw [pushed, display_eq, Element.push, List.drop_left]

theorem onlyPushes_display (property : String) : (display property).OnlyPushes := by
  intro directive e
  rw [pushed_display, display_eq]

end DirectiveHandler

/-! ## One call -/

/-- A directive that is come to, with the element as it stands then and the handler
for it, if there is one. -/
structure DirectiveCall where
  directive : DirectiveBinding
  seen : Element
  handler? : Option DirectiveHandler

namespace DirectiveCall

/-- The properties that the handler adds. -/
def pushed (c : DirectiveCall) : List Binding :=
  match c.handler? with
  | none => []
  | some handler => handler.pushed c.directive c.seen

/-- Whether there is no handler, or it asks for the directive at run time. -/
def isKept (c : DirectiveCall) : Bool :=
  match c.handler? with
  | none => true
  | some handler => (handler c.directive c.seen).value.1

/-- What the handler reports. -/
def reports (c : DirectiveCall) : List Report :=
  match c.handler? with
  | none => []
  | some handler => (handler c.directive c.seen).reports

/-- The directives that some calls leave for run time. -/
def keptOf (calls : List DirectiveCall) : List DirectiveBinding :=
  (calls.filter isKept).map directive

theorem keptOf_cons (c : DirectiveCall) (calls : List DirectiveCall) :
    keptOf (c :: calls) = (if c.isKept then [c.directive] else []) ++ keptOf calls := by
  rw [keptOf, List.filter_cons]
  split_ifs
  · rfl
  · rfl

end DirectiveCall

namespace DirectiveMap

variable {handlers : DirectiveMap DirectiveHandler}

/-- Every handler of a map only adds properties. -/
def OnlyPushes (handlers : DirectiveMap DirectiveHandler) : Prop :=
  ∀ name handler, handlers.get? name = some handler → handler.OnlyPushes

/-- Applies one directive; the state is made of the directives still needed and the
element. -/
def applyOne (handlers : DirectiveMap DirectiveHandler)
    (state : List DirectiveBinding × Element) (directive : DirectiveBinding) :
    Reported (List DirectiveBinding × Element) :=
  match handlers.get? directive.name with
  | none => pure (state.1 ++ [directive], state.2)
  | some handler => do
    let (needed, e) ← handler directive state.2
    return (if needed then state.1 ++ [directive] else state.1, e)

theorem applyDirectives_eq_foldlM (e : Element) (handlers : DirectiveMap DirectiveHandler) :
    e.applyDirectives handlers = e.directives.foldlM handlers.applyOne ([], e) := rfl

/-- The call for a directive on an element. -/
def callFor (handlers : DirectiveMap DirectiveHandler) (directive : DirectiveBinding)
    (e : Element) : DirectiveCall :=
  ⟨directive, e, handlers.get? directive.name⟩

theorem applyOne_eq (hpush : handlers.OnlyPushes) (kept : List DirectiveBinding) (e : Element)
    (directive : DirectiveBinding) :
    let c := handlers.callFor directive e
    handlers.applyOne (kept, e) directive =
      ⟨(kept ++ (if c.isKept then [directive] else []), e.push c.pushed), c.reports⟩ := by
  intro c
  cases hget : handlers.get? directive.name with
  | none =>
      have hc : c = ⟨directive, e, none⟩ := by rw [← hget]; rfl
      rw [hc, applyOne, hget, DirectiveCall.pushed, Element.push_nil]
      rfl
  | some handler =>
      have hc : c = ⟨directive, e, some handler⟩ := by rw [← hget]; rfl
      have hleft := hpush directive.name handler hget directive e
      have hkept : (⟨directive, e, some handler⟩ : DirectiveCall).isKept =
          (handler directive e).value.1 := rfl
      rw [hc, applyOne, hget, hkept]
      change Reported.mk (if (handler directive e).value.1 then kept ++ [directive] else kept,
        (handler directive e).value.2) ((handler directive e).reports ++ []) = _
      rw [hleft, List.append_nil]
      cases (handler directive e).value.1 with
      | true => rfl
      | false =>
          simp only [Bool.false_eq_true, if_false, List.append_nil]
          rfl

/-! ## All calls -/

/-- The calls for some directives, each on the element that those before leave. -/
def callsFor (handlers : DirectiveMap DirectiveHandler) :
    List DirectiveBinding → Element → List DirectiveCall
  | [], _ => []
  | directive :: directives, e =>
    let c := handlers.callFor directive e
    c :: handlers.callsFor directives (e.push c.pushed)

theorem map_directive_callsFor (directives : List DirectiveBinding) (e : Element) :
    (handlers.callsFor directives e).map DirectiveCall.directive = directives := by
  induction directives generalizing e with
  | nil => rfl
  | cons directive directives ih => exact congrArg (directive :: ·) (ih _)

theorem handler?_of_mem_callsFor {directives : List DirectiveBinding} {e : Element}
    {c : DirectiveCall} (hc : c ∈ handlers.callsFor directives e) :
    c.handler? = handlers.get? c.directive.name := by
  induction directives generalizing e with
  | nil => exact absurd hc List.not_mem_nil
  | cons directive directives ih =>
      rcases List.mem_cons.mp hc with rfl | hc
      · rfl
      · exact ih hc

/-- Each call meets the element with the properties of the calls before. -/
theorem seen_of_callsFor {directives : List DirectiveBinding} {e : Element} {i : Nat}
    {c : DirectiveCall} (hc : (handlers.callsFor directives e)[i]? = some c) :
    c.seen = e.push
      (((handlers.callsFor directives e).take i).flatMap DirectiveCall.pushed) := by
  induction directives generalizing e i with
  | nil => exact absurd hc (by simp [callsFor])
  | cons directive directives ih =>
      cases i with
      | zero =>
          obtain rfl := Option.some.inj hc
          exact e.push_nil.symm
      | succ i =>
          rw [ih hc, Element.push_push, callsFor, List.take_succ_cons, List.flatMap_cons]

/-- All directives are applied by the calls for them. -/
theorem foldlM_applyOne (hpush : handlers.OnlyPushes) (directives kept : List DirectiveBinding)
    (e : Element) :
    let calls := handlers.callsFor directives e
    directives.foldlM handlers.applyOne (kept, e) =
      ⟨(kept ++ DirectiveCall.keptOf calls, e.push (calls.flatMap DirectiveCall.pushed)),
        calls.flatMap DirectiveCall.reports⟩ := by
  induction directives generalizing kept e with
  | nil =>
      intro calls
      change Reported.mk (kept, e) [] = ⟨(kept ++ [], e.push []), []⟩
      rw [List.append_nil, e.push_nil]
  | cons directive directives ih =>
      intro calls
      let c := handlers.callFor directive e
      have hcalls : calls = c :: handlers.callsFor directives (e.push c.pushed) := rfl
      rw [List.foldlM_cons, applyOne_eq hpush, hcalls, DirectiveCall.keptOf_cons,
        List.flatMap_cons, List.flatMap_cons, ← Element.push_push, ← List.append_assoc]
      change Reported.bind _ _ = _
      rw [Reported.bind, ih]
      rfl

end DirectiveMap

/-- **Directives are applied once each, in order.**  Let the handlers of options be
a chain of layers with those that show a text or a markup and others that only add
properties.  Then the directives of an element are come to in their order.  Each
meets the element with the properties that were added before it, and is handled
by what was inserted last under its name into the innermost layer that has the
name.  Left for run time are, in order, those without a handler and those whose
handler asks for it; the reports come in the same order; and nothing of the
element changes but that the properties of all calls are added behind its own.
Of a text or a markup the one property is the value to show, unless that is empty. -/
theorem directives_applied_in_order (o : Options) (e : Element)
    (bottom : List (String × DirectiveHandler)) (layers : List (List (String × DirectiveHandler)))
    (hdirectives : o.directives = .chain bottom layers)
    (hhandlers : ∀ layer ∈ layers ++ [bottom], ∀ entry ∈ layer,
      entry.2 = .text ∨ entry.2 = .html ∨ entry.2.OnlyPushes) :
    ∃ calls : List DirectiveCall,
      calls.map DirectiveCall.directive = e.directives ∧
      (∀ c ∈ calls, ∀ handler, c.handler? = some handler ↔
        DirectiveMap.FoundIn (layers ++ [bottom]) c.directive.name handler) ∧
      (∀ (i : Nat) c, calls[i]? = some c → c.seen = { e with
        properties := e.properties ++ (calls.take i).flatMap DirectiveCall.pushed }) ∧
      (o.applyDirectives e).value.1 =
        (calls.filter DirectiveCall.isKept).map DirectiveCall.directive ∧
      (o.applyDirectives e).value.2 = { e with
        properties := e.properties ++ calls.flatMap DirectiveCall.pushed } ∧
      (o.applyDirectives e).reports = calls.flatMap DirectiveCall.reports ∧
      ∀ c ∈ calls,
        (c.handler? = some .text → c.pushed = DirectiveHandler.shown "textContent" c.directive) ∧
        (c.handler? = some .html → c.pushed = DirectiveHandler.shown "innerHTML" c.directive) := by
  have hpush : o.directives.OnlyPushes := by
    intro name handler hget
    rw [hdirectives, DirectiveMap.get?_chain_eq_some_iff] at hget
    obtain ⟨layer, hlayer, hentry⟩ := hget.exists_mem
    rcases hhandlers layer hlayer _ hentry with htext | hhtml | hpushes
    · obtain rfl : handler = .text := htext
      exact DirectiveHandler.onlyPushes_display "textContent"
    · obtain rfl : handler = .html := hhtml
      exact DirectiveHandler.onlyPushes_display "innerHTML"
    · exact hpushes
  have happly := DirectiveMap.foldlM_applyOne hpush e.directives [] e
  rw [← DirectiveMap.applyDirectives_eq_foldlM] at happly
  refine ⟨o.directives.callsFor e.directives e, DirectiveMap.map_directive_callsFor _ _,
    fun c hc handler => ?_, fun i c => DirectiveMap.seen_of_callsFor, ?_, ?_, ?_,
    fun c hc => ⟨fun htext => ?_, fun hhtml => ?_⟩⟩
  · rw [DirectiveMap.handler?_of_mem_callsFor hc, hdirectives,
      DirectiveMap.get?_chain_eq_some_iff]
  · exact congrArg (·.value.1) happly
  · exact congrArg (·.value.2) happly
  · exact congrArg (·.reports) happly
  · rw [DirectiveCall.pushed, htext]
    exact DirectiveHandler.pushed_display _ _ _
  · rw [DirectiveCall.pushed, hhtml]
    exact DirectiveHandler.pushed_display _ _ _

/-- Marks an element with the value of a directive that is still needed. -/
def DirectiveHandler.mark (property : String) : DirectiveHandler := fun directive e =>
  ⟨(true, e.push [{ name := property, value := directive.value }]), []⟩

/-- Some directives, the last of which has no handler. -/
def markedElement : Element where
  directives := [⟨"text", "v-text", "a", none, false, [], none⟩,
    ⟨"html", "v-html", "b", none, false, [], none⟩, ⟨"html", "v-html", "", none, false, [], none⟩,
    ⟨"focus", "v-focus", "c", none, false, [], none⟩]

/-- A mark hides the handler of texts in the layer below and keeps its directive;
of two markups only the one with a value is shown. -/
theorem directives_applied_in_order_marked :
    let bottom := [("text", .text), ("html", .html)]
    let layers := [[("text", .html), ("text", .mark "marked")]]
    let o : Options := { directives := .chain bottom layers }
    (o.applyDirectives markedElement).value.1.map (·.name) = ["text", "focus"] ∧
    (o.applyDirectives markedElement).value.2.properties =
      [{ name := "marked", value := "a" }, { name := "innerHTML", value := "_s(b)" }] ∧
    ∃ calls : List DirectiveCall,
      calls.map DirectiveCall.directive = markedElement.directives ∧
      (o.applyDirectives markedElement).value.2 = { markedElement with
        properties := calls.flatMap DirectiveCall.pushed } := by
  intro bottom layers o
  have hmark : (DirectiveHandler.mark "marked").OnlyPushes := by
    intro directive e
    rw [DirectiveHandler.pushed, DirectiveHandler.mark, Element.push, List.drop_left]
    rfl
  have hhandlers : ∀ layer ∈ layers ++ [bottom], ∀ entry ∈ layer,
      entry.2 = .text ∨ entry.2 = .html ∨ entry.2.OnlyPushes := by
    simp [layers, bottom, hmark, -Prod.forall]
  obtain ⟨calls, hdirectives, -, -, -, helement, -⟩ :=
    directives_applied_in_order o markedElement bottom layers rfl hhandlers
  exact ⟨by decide +kernel, by decide +kernel, calls, hdirectives, helement⟩

end Stencil
