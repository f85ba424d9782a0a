import Stencil.Proofs.Ecma.Logic

/-!
# Brackets in patterns and functions

Every production leaves open what it finds open, provided that the productions it reaches do.
-/

namespace Stencil.Ecma

/-- The productions that are reached leave open what they find open. -/
def KeepsBrackets (reach : Reach) : Prop :=
  ∀ {α : Type} (goal : Goal α), Balanced (reach goal)

/-! ## Names, keys and binding patterns -/

theorem still_checkName (text : String) : Still (checkName text) := by
  unfold checkName
  extract_lets field
  have hfield : Still (field ()) :=
    still_context.andThen fun _ => (still_note _).ite (still_pure ())
  split
  · exact (still_noteStrict _).andThen fun _ => hfield
  · exact hfield

theorem takes_bindingName (lexical : Bool) :
    Takes (bindingName lexical) fun l => l.token.IsPlain := by
  unfold bindingName
  refine looks_token.andTakes fun t => ?_
  split
  · rename_i text
    extract_lets strict named
    have hnamed : Takes (named ()) fun l => l.token = .name text → l.token.IsPlain := by
      refine (still_checkName _).andTakes fun _ => ?_
      refine (takes_advance.andStill fun _ => ?_).weaken fun l _ hl st => ?_
      · have hstrict : Still (strict ()) := (still_noteStrict _).ite (still_pure ())
        exact still_context.andThen fun _ => ((still_note _).andThen fun _ => hstrict).ite hstrict
      · rw [hl]
        rfl
    split
    · exact (still_fail _).andTakes fun _ => hnamed
    · exact hnamed
  · exact (refuses_fail _).takes

theorem balanced_bindingName (lexical : Bool) : Balanced (bindingName lexical) :=
  (takes_bindingName lexical).balanced fun _ h => h

/-- What follows an item of a list: the end of the list, or a comma that must not stand behind the
last item of some lists. -/
theorem leads_behindItem {β : Type} {T : Lexeme → Prop} {st : List Opening} {Q : β → List Opening}
    {close : Punct} {isRest : Bool} {e : Fault} {k : Unit → Parse β}
    (hk : Leads (fun _ => True) st (k ()) Q) :
    Leads T st (at? close >>= fun closed =>
      if closed = true then k ()
      else expect .comma >>= fun _ => at? close >>= fun closed =>
        if (isRest && closed) = true then note e >>= k else k ()) Q := by
  refine at?_ite hk.anywhere ?_
  refine (leads_expect rfl).bind fun _ => ?_
  refine (looks_at? close).still.bind fun _ => ?_
  exact (still_note e).guard hk

section Reach

variable {reach : Reach}

theorem balanced_propertyKey (h : KeepsBrackets @reach) : Balanced (propertyKey @reach) := by
  intro T st
  unfold propertyKey
  refine token_bind fun t => ?_
  split
  case h_6 =>
    refine take_bind rfl ?_
    refine ((h .assignment).withIn true).bind fun _ => ?_
    exact (leads_expect rfl).bind fun _ => leads_pure rfl
  case h_7 => exact (refuses_fail _).leads
  all_goals exact take_bind rfl (leads_pure rfl)

theorem balanced_bindingElement (h : KeepsBrackets @reach) :
    Balanced (bindingElement @reach) := by
  intro T st
  unfold bindingElement
  refine (h (.pattern false)).bind fun pattern => ?_
  refine eat_ite rfl ?_ (leads_pure rfl)
  exact ((h .assignment).withIn true).bind fun _ => leads_pure rfl

theorem leads_arrayPattern (h : KeepsBrackets @reach) {T : Lexeme → Prop} {st : List Opening} :
    Leads T (.bracket :: st) (arrayPattern @reach) fun _ => st := by
  unfold arrayPattern
  refine still_bound.bind fun n => ?_
  refine Balanced.bind (Balanced.iterate (fun restSeen => ?_) n false) fun _ => leads_expect rfl
  intro T st
  refine (looks_at? _).still.bind fun _ => ?_
  refine looks_token.still.bind fun _ => ?_
  refine Leads.ite (leads_pure rfl) ?_
  refine eat_ite rfl (leads_pure rfl) ?_
  extract_lets element
  refine (still_note _).guard ?_
  refine (balanced_eat fun _ => rfl).bind fun isRest => ?_
  extract_lets last rest
  have hrest : Leads (fun _ => True) st (rest ()) fun _ => st := leads_behindItem (leads_pure rfl)
  refine Leads.ite ?_ ?_
  · exact (h (.pattern false)).bind fun _ => hrest
  · exact (balanced_bindingElement h).bind fun _ => hrest

theorem balanced_patternProperty (h : KeepsBrackets @reach) :
    Balanced (patternProperty @reach) := by
  intro T st
  unfold patternProperty
  refine (balanced_propertyKey h).bind fun key => ?_
  refine eat_ite rfl ((balanced_bindingElement h).bind fun _ => leads_pure rfl) ?_
  split
  · exact token_bind fun _ => (refuses_fail _).leads
  · refine eat_ite rfl (((h .assignment).withIn true).bind fun _ => leads_pure rfl) ?_
    exact still_context.bind fun _ => ((still_note _).ite (still_pure ())).leads

theorem leads_objectPattern (h : KeepsBrackets @reach) {T : Lexeme → Prop} {st : List Opening} :
    Leads T (.brace :: st) (objectPattern @reach) fun _ => st := by
  unfold objectPattern
  refine still_bound.bind fun n => ?_
  refine Leads.iterate (fun restSeen => ?_) n false
  refine eat_ite rfl (leads_pure rfl) ?_
  extract_lets property
  refine (still_note _).guard ?_
  refine (balanced_eat fun _ => rfl).bind fun isRest => ?_
  extract_lets last rest
  have hrest : Leads (fun _ => True) (.brace :: st) (rest ())
      (Sum.elim (fun _ => .brace :: st) fun _ => st) :=
    leads_behindItem (leads_pure rfl)
  refine Leads.ite ?_ ?_
  · refine (h (.pattern false)).bind fun pattern => ?_
    exact (still_fail _).guard hrest
  · exact (balanced_patternProperty h).bind fun _ => hrest

theorem balanced_bindingPattern (h : KeepsBrackets @reach) (lexical : Bool) :
    Balanced (bindingPattern @reach lexical) := by
  intro T st
  unfold bindingPattern
  refine token_bind fun t => ?_
  split
  · exact (balanced_bindingName lexical).bind fun _ => leads_pure rfl
  · exact (balanced_bindingName lexical).bind fun _ => leads_pure rfl
  · exact take_bind rfl ((leads_arrayPattern h).bind fun _ => leads_pure rfl)
  · exact take_bind rfl ((leads_objectPattern h).bind fun _ => leads_pure rfl)
  · exact (refuses_fail _).leads

/-! ## Functions -/

/-- The name of a function or a class that need not have one. -/
theorem balanced_ownName (lexical : Bool) :
    Balanced (token >>= fun t => match t with
      | .name text => context >>= fun c =>
        if isReservedHere c text = true then pure () else bindingName lexical
      | _ => pure ()) := by
  refine looks_token.still.balanced.andThen fun t => ?_
  split
  · exact still_context.balanced.andThen fun c =>
      (balanced_pure ()).ite (balanced_bindingName lexical)
  · exact balanced_pure ()

theorem balanced_formalParameters (h : KeepsBrackets @reach) :
    Balanced (formalParameters @reach) := by
  intro T st
  unfold formalParameters
  refine still_bound.bind fun n => ?_
  refine Balanced.iterate (fun ps => ?_) n _ _ _
  intro T st
  refine (looks_at? _).still.bind fun _ => ?_
  refine looks_token.still.bind fun _ => ?_
  refine Leads.ite (leads_pure rfl) ?_
  extract_lets parameter
  refine (still_note _).guard ?_
  refine (balanced_eat fun _ => rfl).bind fun isRest => ?_
  extract_lets rest bare
  have hrest : ∀ single, Leads (fun _ => True) st (rest single) fun _ => st :=
    fun single => leads_behindItem (leads_pure rfl)
  refine Leads.ite ?_ ?_
  · refine (h (.pattern false)).bind fun _ => ?_
    have hbare : Leads (fun _ => True) st (bare ()) fun _ => st :=
      (balanced_pure false).bind hrest
    refine eat_ite rfl ?_ hbare
    exact (h .assignment).bind fun _ => (still_note _).bind fun _ => hbare
  · exact (balanced_bindingElement h).bind hrest

theorem balanced_statementsToBrace (h : KeepsBrackets @reach) :
    Balanced (statementsToBrace @reach) := by
  intro T st
  unfold statementsToBrace
  refine still_bound.bind fun n => ?_
  refine Balanced.iterate (fun _ => ?_) n _ _ _
  intro T st
  refine (looks_at? _).still.bind fun _ => ?_
  refine looks_token.still.bind fun _ => ?_
  refine Leads.ite (leads_pure rfl) ?_
  exact (h (.statement true)).bind fun _ => leads_pure rfl

theorem leads_closeBlock {T : Lexeme → Prop} {st : List Opening} :
    Leads T (.brace :: st) closeBlock fun _ => st := by
  unfold closeBlock
  refine looks_token.still.bind fun t => ?_
  exact Leads.ite (refuses_note _).leads (leads_expect rfl)

theorem balanced_functionBody (h : KeepsBrackets @reach) (change : Context → Context)
    (simple directives : Bool) : Balanced (functionBody @reach change simple directives) := by
  unfold functionBody
  refine Balanced.apart (Balanced.within ?_ _)
  intro T st
  refine (leads_expect rfl).bind fun _ => ?_
  refine looks_get.still.bind fun s => ?_
  refine ((balanced_statementsToBrace h).within _).bind fun _ => ?_
  refine leads_closeBlock.bind fun _ => ?_
  exact ((still_note _).ite (still_pure ())).leads

theorem balanced_functionTail (h : KeepsBrackets @reach) (form : FunctionForm) :
    Balanced (functionTail @reach form) := by
  intro T st
  unfold functionTail
  extract_lets change
  refine Balanced.bind (Balanced.apart (Balanced.within ?_ _)) fun ps => ?_
  · intro T st
    refine (leads_expect rfl).bind fun _ => ?_
    refine (balanced_formalParameters h).bind fun ps => ?_
    extract_lets closing
    have hclosing : Leads (fun _ => True) (.paren :: st) (closing ()) fun _ => st :=
      (leads_expect rfl).bind fun _ => leads_pure rfl
    split
    · exact (still_note _).guard hclosing
    · exact (still_note _).guard ((still_note _).guard hclosing)
    · exact hclosing
  · refine (balanced_eat fun _ => rfl).bind fun _ => ?_
    exact balanced_functionBody h _ _ _ _ _

theorem balanced_functionFromKeyword (h : KeepsBrackets @reach) (async declaration : Bool) :
    Balanced (functionFromKeyword @reach async declaration) := by
  intro T st
  unfold functionFromKeyword
  refine (balanced_eat fun _ => rfl).bind fun generator => ?_
  extract_lets rest
  have hrest : Balanced (rest ()) := h _
  refine Leads.ite ?_ ?_
  · exact ((balanced_bindingName false).within _).bind fun _ => hrest _ _
  · exact ((balanced_ownName _).within _).bind fun _ => hrest _ _

theorem balanced_arrowBody (h : KeepsBrackets @reach) (async simple : Bool) :
    Balanced (arrowBody @reach async simple) := by
  intro T st
  unfold arrowBody
  extract_lets change arrow
  have harrow : Balanced (arrow ()) := balanced_pure _
  refine (looks_at? _).still.bind fun _ => ?_
  refine Leads.ite ?_ ?_
  · exact (balanced_functionBody h _ _ _).bind fun _ => harrow _ _
  · exact ((h .assignment).within _).apart.bind fun _ => harrow _ _

/-! ## Classes -/

theorem still_atFieldRest (asi : Bool) : Still (atFieldRest asi) := by
  refine looks_token.still.andThen fun t => ?_
  split
  case h_5 => exact still_lineBefore.ite (still_pure false)
  all_goals exact still_pure _

theorem leads_privateName {T : Lexeme → Prop} {st : List Opening} :
    Leads (fun l => T l ∧ l.token = .punct .hash) st privateName fun _ => st := by
  unfold privateName
  refine looks_get.still.bind fun s => ?_
  refine take_bind rfl ?_
  refine looks_get.still.bind fun s => ?_
  exact (still_fail _).guard (balanced_anyWord _ _)

theorem balanced_memberKey (h : KeepsBrackets @reach) : Balanced (memberKey @reach) := by
  intro T st
  unfold memberKey
  refine token_bind fun t => ?_
  split
  · refine leads_privateName.bind fun name => ?_
    exact (still_note _).guard (leads_pure rfl)
  · exact take_bind rfl (leads_pure rfl)
  · exact balanced_propertyKey h _ _

theorem balanced_method (h : KeepsBrackets @reach) (form : FunctionForm) :
    Balanced (method @reach form) :=
  h _

theorem balanced_fieldRest (h : KeepsBrackets @reach) (isConstructor : Bool) :
    Balanced (fieldRest @reach isConstructor) := by
  unfold fieldRest
  extract_lets ending value
  refine (still_fail _).balanced.guard (Balanced.within ?_ _)
  have hending : Balanced (ending ()) :=
    balanced_eatStatementEnd.andThen fun _ => ((still_pure ()).ite (still_note _)).balanced
  exact fun T st => eat_ite rfl ((h .assignment).bind fun _ => hending _ _) (hending _ _)

theorem balanced_staticBlock (h : KeepsBrackets @reach) : Balanced (staticBlock @reach) :=
  (h .block).within _

theorem balanced_markedMember (h : KeepsBrackets @reach) (text : String) (isStatic : Bool) :
    Balanced (markedMember @reach text isStatic) := by
  intro T st
  unfold markedMember
  refine still_lineBefore.bind fun line => ?_
  refine Leads.ite ?_ (Leads.ite ?_ ?_)
  · refine (balanced_eat fun _ => rfl).bind fun generator => ?_
    refine (balanced_memberKey h).bind fun key => ?_
    exact (still_fail _).guard (balanced_method h _ _ _)
  · refine (balanced_memberKey h).bind fun key => ?_
    exact (still_note _).guard (balanced_method h _ _ _)
  · exact token_bind fun _ => (refuses_fail _).leads

theorem balanced_memberFromKey (h : KeepsBrackets @reach) (isStatic : Bool) :
    Balanced (memberFromKey @reach isStatic) := by
  intro T st
  unfold memberFromKey
  refine eat_ite rfl ?_ ?_
  · refine (balanced_memberKey h).bind fun key => ?_
    refine (still_note _).guard ?_
    exact (balanced_method h _).bind fun _ => leads_pure rfl
  · refine (balanced_memberKey h).bind fun key => ?_
    refine at?_ite ((balanced_method h _).bind fun _ => leads_pure rfl) ?_
    refine still_lineBefore.bind fun _ => ?_
    refine (looks_at? _).still.bind fun _ => ?_
    refine (still_atFieldRest false).bind fun _ => ?_
    refine (still_atFieldRest true).bind fun _ => ?_
    refine Leads.ite ?_ ?_
    · exact (balanced_fieldRest h _).bind fun _ => leads_pure rfl
    · exact (balanced_markedMember h _ _).bind fun _ => leads_pure rfl

theorem balanced_classMember (h : KeepsBrackets @reach) : Balanced (classMember @reach) := by
  intro T st
  unfold classMember
  refine eatToken_ite rfl ?_ (balanced_memberFromKey h false _ _)
  refine at?_ite ((balanced_method h _).bind fun _ => leads_pure rfl) ?_
  refine at?_ite ((balanced_staticBlock h).bind fun _ => leads_pure rfl) ?_
  refine (still_atFieldRest false).bind fun _ => ?_
  refine Leads.ite ((balanced_fieldRest h false).bind fun _ => leads_pure rfl) ?_
  exact balanced_memberFromKey h true _ _

theorem balanced_classTail (h : KeepsBrackets @reach) : Balanced (classTail @reach) := by
  unfold classTail
  refine Balanced.within ?_ _
  intro T st
  extract_lets members
  have hmembers : Balanced (members ()) := by
    intro T st
    refine (leads_expect rfl).bind fun _ => ?_
    refine Balanced.bind (Balanced.within ?_ _) fun _ => leads_closeBlock
    refine still_bound.balanced.andThen fun n => ?_
    refine Balanced.iterate (fun hasConstructor => ?_) n false
    intro T st
    refine (looks_at? _).still.bind fun _ => ?_
    refine looks_token.still.bind fun _ => ?_
    refine Leads.ite (leads_pure rfl) ?_
    refine eat_ite rfl (leads_pure rfl) ?_
    refine (balanced_classMember h).bind fun isConstructor => ?_
    exact (still_note _).guard (leads_pure rfl)
  refine eatToken_ite rfl ?_ (hmembers _ _)
  exact (h .leftHand).bind fun _ => hmembers _ _

theorem balanced_classFromKeyword (h : KeepsBrackets @reach) (declaration : Bool) :
    Balanced (classFromKeyword @reach declaration) := by
  unfold classFromKeyword
  refine Balanced.andThen (Balanced.within ?_ _) fun _ => h .classTail
  exact (balanced_bindingName true).ite (balanced_ownName true)

end Reach

end Stencil.Ecma
