import Stencil.Proofs.Ecma.Functions

/-!
# Brackets in expressions

Productions that start by taking a token that is known are stated from such a token.  A regular
expression and the parts of a template are where the tokens do not simply follow each other.
-/

namespace Stencil.Ecma

variable {reach : Reach} {T : Lexeme → Prop} {st : List Opening}

/-! ## Literals -/

theorem leads_regexLiteral :
    Leads (fun l => l.token = .punct .slash ∨ l.token = .punct .slashAssign) st regexLiteral
      fun _ => st := by
  unfold regexLiteral
  refine looks_get.bind fun s => ?_
  split
  · exact (refuses_halt _).leads
  · rename_i behind hend
    split
    · exact (refuses_halt _).leads
    · rename_i flags rest hflags
      refine advanceTo_bind st ?_ ?_
      · intro l hl
        obtain ⟨htoken, rfl⟩ := hl
        refine ⟨?_, .regex htoken hend hflags⟩
        rcases htoken with htoken | htoken <;> exact after?_of_token htoken rfl
      · refine (still_note _).guard ?_
        split
        · exact (still_note _).bind fun _ => leads_pure rfl
        · exact leads_pure rfl

theorem still_checkEscapes (tagged : Bool) (fault : Option Fault) :
    Still (checkEscapes tagged fault) := by
  unfold checkEscapes
  split
  · exact (still_pure ()).ite (refuses_throw _).still
  · exact still_pure ()

theorem leads_substitutions (h : KeepsBrackets @reach) (tagged : Bool) :
    Leads T (.substitution :: st) (substitutions @reach tagged) fun _ => st := by
  unfold substitutions
  refine still_bound.bind fun n => ?_
  refine Leads.iterate (fun _ => ?_) n ()
  refine ((h .expression).withIn true).bind fun _ => ?_
  -- The brace behind the expression leads back into the template.
  extract_lets resume
  have hresume : Leads (fun l => True ∧ l.token = .punct .closeBrace) (.substitution :: st)
      (resume ()) (Sum.elim (fun _ => .substitution :: st) fun _ => st) := by
    refine looks_get.bind fun s => ?_
    extract_lets text
    split
    · exact ((keepsFaults_advanceTo _).refuses fun _ => refuses_throw _).leads
    · rename_i part hpart
      refine (still_checkEscapes _ _).bind fun _ => ?_
      refine advanceTo_bind (if part.complete then st else .substitution :: st) ?_ ?_
      · intro l hl
        obtain ⟨⟨-, htoken⟩, rfl⟩ := hl
        exact ⟨after?_substitution htoken hpart, .template htoken hpart⟩
      · refine leads_pure ?_
        cases part.complete <;> rfl
  refine at?_ite hresume ?_
  refine looks_token.still.bind fun _ => ?_
  exact ((refuses_fail _).bind fun _ => hresume.keepsFaults).leads

theorem leads_templateLiteral (h : KeepsBrackets @reach) (tagged complete : Bool)
    (fault : Option Fault) :
    Leads (fun l => T l ∧ l.token = .template complete fault) st
      (templateLiteral @reach tagged complete fault) fun _ => st := by
  unfold templateLiteral
  refine (still_checkEscapes _ _).bind fun _ => ?_
  cases complete with
  | true => exact take_bind rfl (leads_pure rfl)
  | false => exact take_bind rfl (leads_substitutions h tagged)

/-! ## Arrays and objects -/

/-- What follows an item of a list: the end of the list or a comma, which may be the last one. -/
theorem leads_commaOrEnd {β : Type} {Q : β → List Opening} {close : Punct} {k : Bool → Parse β}
    (hk : ∀ trailing, Leads (fun _ => True) st (k trailing) Q) :
    Leads T st (at? close >>= fun closed =>
      if closed = true then k false
      else expect .comma >>= fun _ => at? close >>= fun trailing => k trailing) Q := by
  refine at?_ite (hk false).anywhere ?_
  refine (leads_expect rfl).bind fun _ => ?_
  exact (looks_at? close).still.bind hk

theorem balanced_spreadItem (h : KeepsBrackets @reach) : Balanced (spreadItem @reach) := by
  intro T st
  unfold spreadItem
  refine (balanced_eat fun _ => rfl).bind fun spread => ?_
  exact ((h .assignment).withIn true).bind fun _ => leads_pure rfl

theorem leads_arrayLiteral (h : KeepsBrackets @reach) :
    Leads (fun l => T l ∧ l.token = .punct .openBracket) st (arrayLiteral @reach) fun _ => st := by
  unfold arrayLiteral
  refine take_bind rfl ?_
  refine still_bound.bind fun n => ?_
  refine Balanced.bind (Balanced.iterate ?_ n _) ?_
  · rintro ⟨items, trailing⟩ T st
    refine (looks_at? _).still.bind fun _ => ?_
    refine looks_token.still.bind fun _ => ?_
    refine Leads.ite (leads_pure rfl) ?_
    refine eat_ite rfl (leads_pure rfl) ?_
    refine (balanced_spreadItem h).bind fun item => ?_
    exact leads_commaOrEnd fun _ => leads_pure rfl
  · rintro ⟨items, trailing⟩
    exact (leads_expect rfl).bind fun _ => leads_pure rfl

theorem balanced_shorthandProperty (h : KeepsBrackets @reach) (text : String) :
    Balanced (shorthandProperty @reach text) := by
  intro T st
  unfold shorthandProperty
  refine still_context.bind fun c => ?_
  refine (still_note _).guard ?_
  refine eat_ite rfl ?_ (leads_pure rfl)
  exact ((h .assignment).withIn true).bind fun _ => leads_pure rfl

theorem balanced_namedProperty (h : KeepsBrackets @reach) (text : String) :
    Balanced (namedProperty @reach text) := by
  intro T st
  unfold namedProperty
  refine token_bind fun t => ?_
  split
  case h_4 =>
    refine Leads.ite ?_ (Leads.ite ?_ ?_)
    · refine (balanced_propertyKey h).bind fun _ => ?_
      exact (balanced_method h _).bind fun _ => leads_pure rfl
    · refine (balanced_eat fun _ => rfl).bind fun generator => ?_
      refine (balanced_propertyKey h).bind fun _ => ?_
      exact (balanced_method h _).bind fun _ => leads_pure rfl
    · exact token_bind fun _ => (refuses_fail _).leads
  all_goals exact balanced_shorthandProperty h text _ _

theorem balanced_spreadProperty (h : KeepsBrackets @reach) : Balanced (spreadProperty @reach) := by
  intro T st
  unfold spreadProperty
  exact ((h .assignment).withIn true).bind fun _ => leads_pure rfl

theorem balanced_objectProperty (h : KeepsBrackets @reach) : Balanced (objectProperty @reach) := by
  intro T st
  unfold objectProperty
  refine eat_ite rfl (balanced_spreadProperty h _ _) ?_
  refine eat_ite rfl ?_ ?_
  · refine (balanced_propertyKey h).bind fun _ => ?_
    exact (balanced_method h _).bind fun _ => leads_pure rfl
  · refine (balanced_propertyKey h).bind fun key => ?_
    refine eat_ite rfl (((h .assignment).withIn true).bind fun _ => leads_pure rfl) ?_
    refine at?_ite ((balanced_method h _).bind fun _ => leads_pure rfl) ?_
    split
    · exact balanced_namedProperty h _ _ _
    · exact token_bind fun _ => (refuses_fail _).leads

theorem leads_objectLiteral (h : KeepsBrackets @reach) :
    Leads (fun l => T l ∧ l.token = .punct .openBrace) st (objectLiteral @reach) fun _ => st := by
  unfold objectLiteral
  refine take_bind rfl ?_
  refine still_bound.bind fun n => ?_
  refine Leads.bind (Leads.iterate (Q := fun _ => st) (fun (properties, trailing) => ?_) n _)
    fun (properties, trailing) => leads_pure rfl
  refine eat_ite rfl (leads_pure rfl) ?_
  refine (balanced_objectProperty h).bind fun property => ?_
  exact leads_commaOrEnd fun _ => leads_pure rfl

/-! ## Parentheses and arrow functions -/

theorem still_checkParameters (items : List Item) (trailing : Bool) :
    Still (checkParameters items trailing) :=
  still_noteAny _

theorem balanced_lateArrow (h : KeepsBrackets @reach) (items : List Item) :
    Balanced (lateArrow @reach items) := by
  intro T st
  unfold lateArrow
  refine eat_ite rfl ?_ (leads_pure rfl)
  split
  · refine (still_checkParameters _ _).bind fun _ => ?_
    exact (balanced_arrowBody h _ _).bind fun _ => leads_pure rfl
  · exact leads_pure rfl

theorem balanced_parenItems (h : KeepsBrackets @reach) : Balanced (parenItems @reach) := by
  intro T st
  unfold parenItems
  refine (leads_expect rfl).bind fun _ => ?_
  refine still_bound.bind fun n => ?_
  refine Balanced.bind (Balanced.iterate ?_ n _) ?_
  · rintro ⟨items, trailing⟩ T st
    refine (looks_at? _).still.bind fun _ => ?_
    refine looks_token.still.bind fun _ => ?_
    refine Leads.ite (leads_pure rfl) ?_
    refine (balanced_spreadItem h).bind fun item => ?_
    refine (balanced_lateArrow h _).bind fun items => ?_
    exact leads_commaOrEnd fun _ => leads_pure rfl
  · rintro ⟨items, trailing⟩
    exact (leads_expect rfl).bind fun _ => leads_pure rfl

theorem leads_arrowFromItems (h : KeepsBrackets @reach) (canBeArrow async : Bool) (start : Nat)
    (items : List Item) (trailing : Bool) :
    Leads (fun l => T l ∧ l.token = .punct .arrow) st
      (arrowFromItems @reach canBeArrow async start items trailing) fun _ => st := by
  unfold arrowFromItems
  refine still_lineBefore.bind fun _ => ?_
  refine (still_fail _).guard ?_
  extract_lets arrow body
  have hbody : Leads (fun l => T l ∧ l.token = .punct .arrow) st (body ()) fun _ => st := by
    refine take_bind rfl ?_
    refine (still_checkParameters _ _).bind fun _ => ?_
    refine looks_get.still.bind fun s => ?_
    split
    · exact (still_note _).guard (balanced_arrowBody h _ _ _ _)
    · exact balanced_arrowBody h _ _ _ _
  exact hbody.ite ((still_fail _).bind fun _ => hbody)

theorem balanced_parenOrArrow (h : KeepsBrackets @reach) (canBeArrow async : Bool) :
    Balanced (parenOrArrow @reach canBeArrow async) := by
  intro T st
  unfold parenOrArrow
  refine looks_get.still.bind fun s => ?_
  refine ((balanced_parenItems h).within _).bind fun (items, trailing) => ?_
  refine at?_ite (leads_arrowFromItems h _ _ _ _ _) ?_
  refine (still_forIn (fun item _ => ?_) _ _).bind fun _ => ?_
  · exact ((still_note _).andThen fun _ => still_pure _).ite (still_pure _)
  · refine (still_note _).guard (Leads.ite (leads_pure rfl) ?_)
    split
    · exact (refuses_fail _).leads
    · exact leads_pure rfl
    · exact (still_fail _).guard (leads_pure rfl)

theorem leads_variableOrArrow (h : KeepsBrackets @reach) (text : String) (canBeArrow : Bool) :
    Leads (fun l => T l ∧ l.token = .name text) st (variableOrArrow @reach text canBeArrow)
      fun _ => st := by
  unfold variableOrArrow
  refine still_context.bind fun c => ?_
  refine (still_fail _).guard ?_
  refine (still_checkName text).bind fun _ => ?_
  refine take_bind rfl ?_
  refine still_lineBefore.bind fun _ => ?_
  refine Leads.ite ?_ (leads_pure rfl)
  extract_lets arrow late
  have hlate : ∀ T, Leads T st (late ()) fun _ => st := by
    intro T
    refine eat_ite rfl ?_ (leads_pure rfl)
    exact (still_noteStrict _).guard (balanced_arrowBody h _ _ _ _)
  refine Leads.ite ?_ (hlate _)
  -- Behind `async` stands the name of a parameter, and behind that the arrow.
  refine token_bind fun t => ?_
  split
  · refine looks_peek.bind fun next => ?_
    split
    · rename_i parameter hnext
      have hnext : next.token = .punct .arrow := by
        rw [Bool.and_eq_true] at hnext
        exact eq_of_beq hnext.1
      refine (takes_bindingName false).bind (fun _ _ hl => hl st) fun _ => ?_
      refine advance_bind st ?_ (balanced_arrowBody h _ _ _ _)
      rintro _ ⟨l, hl, rfl⟩
      rw [hl.2, hnext]
      rfl
    · exact (still_note _).guard (hlate _)
  · exact hlate _

theorem leads_nameExpression (h : KeepsBrackets @reach) (text : String) :
    Leads (fun l => T l ∧ l.token = .name text) st (nameExpression @reach text) fun _ => st := by
  unfold nameExpression
  refine looks_get.still.bind fun s => ?_
  refine looks_peek.bind fun next => ?_
  have hvariable : Leads (fun l => (T l ∧ l.token = .name text) ∧ Lexeme.next l.rest = next) st
      (variableOrArrow @reach text (s.arrowStart == some s.taken)) fun _ => st :=
    (leads_variableOrArrow h text _).weaken fun l hl => hl.1
  refine Leads.ite ?_ hvariable
  split
  · rename_i hnext
    refine takeBoth_bind rfl (eq_of_beq hnext) rfl ?_
    exact (balanced_functionFromKeyword h _ _).bind fun _ => leads_pure rfl
  · refine Leads.ite ?_ hvariable
    refine advance_bind _ (fun l hl => by rw [hl.1.2]; rfl) ?_
    exact balanced_parenOrArrow h _ _ _ _

/-! ## Primary expressions, members and calls -/

theorem balanced_arguments (h : KeepsBrackets @reach) (isImport : Bool) :
    Balanced (arguments @reach isImport) := by
  intro T st
  unfold arguments
  refine (leads_expect rfl).bind fun _ => ?_
  refine still_bound.bind fun n => ?_
  refine Balanced.bind (Balanced.iterate (fun isFirst => ?_) n true) fun _ => leads_expect rfl
  intro T st
  refine (looks_at? _).still.bind fun _ => ?_
  refine looks_token.still.bind fun _ => ?_
  refine Leads.ite (leads_pure rfl) ?_
  extract_lets item
  have hitem : Balanced (item ()) :=
    (balanced_spreadItem h).andThen fun _ => balanced_pure _
  refine Leads.ite (hitem _ _) ?_
  refine (leads_expect rfl).bind fun _ => ?_
  exact at?_ite ((still_fail _).guard (leads_pure rfl)) (hitem _ _)

theorem balanced_primary (h : KeepsBrackets @reach) : Balanced (primary @reach) := by
  intro T st
  unfold primary
  refine token_bind fun t => ?_
  split
  case h_8 =>
    refine take_bind rfl ?_
    exact (balanced_functionFromKeyword h _ _).bind fun _ => leads_pure rfl
  case h_9 =>
    refine take_bind rfl ?_
    exact (balanced_classFromKeyword h _).bind fun _ => leads_pure rfl
  case h_10 => exact leads_arrayLiteral h
  case h_11 => exact leads_objectLiteral h
  case h_12 => exact looks_get.still.bind fun s => balanced_parenOrArrow h _ _ _ _
  case h_13 => exact leads_regexLiteral.weaken fun _ hl => .inl hl.2
  case h_14 => exact leads_regexLiteral.weaken fun _ hl => .inr hl.2
  case h_15 => exact (leads_templateLiteral h _ _ _).bind fun _ => leads_pure rfl
  case h_16 => exact leads_nameExpression h _
  case h_17 => exact take_bind rfl (balanced_anyWord.bind fun _ => leads_pure rfl)
  case h_18 => exact (refuses_fail _).leads
  -- The rest are single tokens.
  all_goals exact take_bind rfl (leads_pure rfl)

theorem balanced_memberName : Balanced memberName := by
  intro T st
  unfold memberName
  refine at?_ite ?_ ?_
  · exact leads_privateName.bind fun _ => leads_pure rfl
  · exact balanced_anyWord.bind fun _ => leads_pure rfl

theorem balanced_index (h : KeepsBrackets @reach) : Balanced (index @reach) := by
  intro T st
  unfold index
  refine (leads_expect rfl).bind fun _ => ?_
  refine ((h .expression).withIn true).bind fun _ => ?_
  exact leads_expect rfl

theorem leads_optionalLink (h : KeepsBrackets @reach) :
    Leads (fun l => l.token = .punct .dot) st (optionalLink @reach) fun _ => st := by
  unfold optionalLink
  refine advance_bind _ (fun l hl => by rw [hl]; rfl) ?_
  refine looks_token.still.bind fun t => ?_
  split
  · exact (balanced_index h).bind fun _ => leads_pure rfl
  · exact (balanced_arguments h _).bind fun _ => leads_pure rfl
  · exact balanced_memberName.bind fun _ => leads_pure rfl

theorem balanced_subscripts (h : KeepsBrackets @reach) (calls : Bool) (base : Shape) :
    Balanced (subscripts @reach calls base) := by
  intro T st
  unfold subscripts
  refine still_bound.bind fun n => ?_
  refine Balanced.iterate (fun base => ?_) n base _ _
  intro T st
  refine token_bind fun t => ?_
  split
  · exact take_bind rfl (balanced_memberName.bind fun _ => leads_pure rfl)
  · refine looks_peek.bind fun next => ?_
    split
    · rename_i hnext
      refine advance_bind st (fun l hl => by rw [hl.1.2]; rfl) ?_
      refine Leads.bind ((leads_optionalLink h).weaken ?_) fun _ => leads_pure rfl
      rintro _ ⟨l, hl, rfl⟩
      rw [hl.2]
      exact eq_of_beq hnext
    · exact leads_pure rfl
  · exact (balanced_index h).bind fun _ => leads_pure rfl
  · refine (leads_templateLiteral h _ _ _).bind fun _ => ?_
    exact (still_note _).guard (leads_pure rfl)
  · exact Leads.ite ((balanced_arguments h _).bind fun _ => leads_pure rfl) (leads_pure rfl)
  · exact leads_pure rfl

theorem leads_superAccess (h : KeepsBrackets @reach) (calls : Bool) {t : Token}
    (ht : t.after? st = some st) :
    Leads (fun l => T l ∧ l.token = t) st (superAccess @reach calls) fun _ => st := by
  unfold superAccess
  refine take_bind ht ?_
  refine still_context.bind fun c => ?_
  have hrest : ∀ base, Leads (fun _ => True) st (subscripts @reach calls base) fun _ => st :=
    fun base => balanced_subscripts h calls base _ st
  refine token_bind fun t => ?_
  split
  · refine take_bind rfl (balanced_anyWord.bind fun _ => ?_)
    exact Leads.ite (hrest _) ((still_fail _).bind fun _ => hrest _)
  · refine (balanced_index h).bind fun _ => ?_
    exact Leads.ite (hrest _) ((still_fail _).bind fun _ => hrest _)
  · extract_lets call
    have hcall : Balanced (call ()) :=
      (balanced_arguments h false).andThen fun _ => balanced_subscripts h calls _
    exact Leads.ite (hcall _ _) ((still_fail _).bind fun _ => hcall _ _)
  · exact (refuses_fail _).leads

theorem leads_importCall (h : KeepsBrackets @reach) (calls : Bool) {t : Token}
    (ht : t.after? st = some st) :
    Leads (fun l => T l ∧ l.token = t) st (importCall @reach calls) fun _ => st := by
  unfold importCall
  refine take_bind ht ?_
  extract_lets call rest
  have hcall : Balanced (call ()) :=
    (balanced_arguments h true).andThen fun _ => balanced_subscripts h calls _
  have hrest : Balanced (rest ()) := by
    refine (looks_at? _).still.balanced.andThen fun _ => hcall.ite ?_
    exact looks_token.still.balanced.andThen fun _ => (still_fail _).balanced.andThen fun _ => hcall
  refine eat_ite rfl ?_ (hrest _ _)
  refine balanced_anyWord.bind fun word => ?_
  refine Leads.ite ?_ (Leads.ite (hrest _ _) ?_)
  · exact (still_note _).bind fun _ => balanced_subscripts h _ _ _ _
  · exact looks_token.still.bind fun _ => (still_fail _).bind fun _ => hrest _ _

theorem balanced_memberOrNew (h : KeepsBrackets @reach) : Balanced (memberOrNew @reach) := by
  intro T st
  unfold memberOrNew
  refine token_bind fun t => ?_
  split
  · refine take_bind rfl (eat_ite rfl ?_ ?_)
    -- What follows `new` is a dot and the name `target`, or a constructor.
    · refine (looks_atName? _).bind fun isTarget => ?_
      extract_lets member target
      have htarget : Leads (fun l => True ∧ l.token = .name "target") st (target ())
          fun _ => st := by
        refine take_bind rfl (still_context.bind fun _ => ?_)
        have hmember : Balanced (member ()) := balanced_subscripts h _ _
        exact Leads.ite (hmember _ _) ((still_note _).bind fun _ => hmember _ _)
      split
      · rename_i hname
        exact htarget.weaken fun l hl => ⟨trivial, eq_of_beq (hl.2.symm.trans hname)⟩
      · refine looks_token.still.bind fun _ => ?_
        exact ((refuses_fail _).bind fun _ => htarget.keepsFaults).leads
    · refine (h .member).bind fun callee => ?_
      refine Leads.ite (leads_pure rfl) ?_
      refine (still_fail _).guard (at?_ite ?_ (leads_pure rfl))
      exact (balanced_arguments h _).bind fun _ => balanced_subscripts h _ _ _ _
  · exact leads_superAccess h _ rfl
  · exact leads_importCall h _ rfl
  · refine (balanced_primary h).bind fun base => ?_
    exact Leads.ite (leads_pure rfl) (balanced_subscripts h _ _ _ _)

theorem balanced_leftHandSide (h : KeepsBrackets @reach) : Balanced (leftHandSide @reach) := by
  intro T st
  unfold leftHandSide
  refine token_bind fun t => ?_
  split
  · exact leads_superAccess h _ rfl
  · exact leads_importCall h _ rfl
  · refine (h .member).bind fun base => ?_
    split
    · exact leads_pure rfl
    · exact leads_pure rfl
    · exact balanced_subscripts h _ _ _ _

/-! ## Operators -/

theorem still_checkUpdate (e : Shape) : Still (checkUpdate e) :=
  (still_pure ()).ite (still_note _)

theorem leads_unaryOperand (h : KeepsBrackets @reach) (isDelete : Bool) {t : Token}
    (ht : t.after? st = some st) :
    Leads (fun l => T l ∧ l.token = t) st (unaryOperand @reach isDelete) fun _ => st := by
  unfold unaryOperand
  refine take_bind ht ?_
  refine Leads.bind (Leads.recover (h .unary _ _) fun e => ?_) fun operand => ?_
  · exact (refuses_note _).bind fun _ => keepsFaults_pure _
  · split
    · exact (still_noteStrict _).bind fun _ => leads_pure rfl
    · exact leads_pure rfl

theorem leads_awaitExpression (h : KeepsBrackets @reach) {t : Token} (ht : t.after? st = some st) :
    Leads (fun l => T l ∧ l.token = t) st (awaitExpression @reach) fun _ => st := by
  unfold awaitExpression
  refine take_bind ht ?_
  refine (looks_at? _).still.bind fun _ => ?_
  refine (still_fail _).guard ?_
  refine still_context.bind fun c => ?_
  extract_lets pause operand name
  have hoperand : Balanced (operand ()) := by
    refine (still_note _).balanced.guard ?_
    refine (still_markPause _).balanced.andThen fun _ => ?_
    exact (h .unary).andThen fun _ => balanced_pure _
  refine Leads.ite (hoperand _ _) ?_
  refine (looks_at? _).still.bind fun _ => ?_
  refine (looks_at? _).still.bind fun _ => ?_
  refine still_atStatementEnd.bind fun _ => ?_
  refine Leads.ite ?_ ?_
  · exact (still_note _).guard (leads_pure rfl)
  · exact (still_note _).guard (hoperand _ _)

theorem balanced_unaryExpression (h : KeepsBrackets @reach) :
    Balanced (unaryExpression @reach) := by
  intro T st
  unfold unaryExpression
  refine token_bind fun t => ?_
  split
  case h_1 | h_2 =>
    refine take_bind rfl ((h .unary).bind fun operand => ?_)
    exact (still_checkUpdate operand).bind fun _ => leads_pure rfl
  case h_10 => exact leads_awaitExpression h rfl
  case h_11 =>
    -- An operand with an operator behind it.
    refine (h .leftHand).bind fun operand => ?_
    refine still_lineBefore.bind fun _ => Leads.ite (leads_pure rfl) ?_
    refine (looks_at? .plusPlus).bind fun isIncrement => ?_
    refine (looks_at? .minusMinus).bind fun isDecrement => ?_
    split
    · rename_i hupdate
      refine (still_checkUpdate operand).bind fun _ => ?_
      refine advance_bind st ?_ (leads_pure rfl)
      rintro l ⟨⟨-, hplus⟩, hminus⟩
      rw [hplus, hminus, Bool.or_eq_true, beq_iff_eq, beq_iff_eq] at hupdate
      rcases hupdate with hl | hl <;> rw [hl] <;> rfl
    · exact leads_pure rfl
  all_goals exact leads_unaryOperand h _ rfl

/-- The binary operators open and close nothing. -/
theorem looks_operator? : Looks operator? fun o l => o.isSome → l.token.IsPlain := by
  refine looks_token.andThen fun t => ?_
  split
  · refine looks_pure fun l hl hsome => ?_
    rw [hl]
    exact isPlain_of_precedence? (by simpa using hsome)
  · exact looks_pure fun l hl _ => hl ▸ fun _ => rfl
  · exact Looks.andThen still_context fun c => looks_pure fun l _ hl _ => hl ▸ fun _ => rfl
  · exact looks_pure fun _ _ h => by simp at h

theorem balanced_operators (h : KeepsBrackets @reach) (left : Shape) (least : Nat) :
    Balanced (operators @reach left least) := by
  intro T st
  unfold operators
  refine still_bound.bind fun n => ?_
  refine Balanced.iterate (fun left => ?_) n left _ _
  intro T st
  refine looks_operator?.bind fun o => ?_
  split
  · exact leads_pure rfl
  · refine Leads.ite (leads_pure rfl) ?_
    refine advance_bind st (fun l hl => hl.2 rfl st) ?_
    refine (still_fail _).guard ?_
    refine (h .unary).bind fun operand => ?_
    refine (h _).bind fun right => ?_
    exact (still_note _).guard ((still_note _).guard (leads_pure rfl))

theorem balanced_binaryExpression (h : KeepsBrackets @reach) :
    Balanced (binaryExpression @reach) := by
  intro T st
  unfold binaryExpression
  refine Leads.bind (Leads.recover (h .unary _ _) fun e => ?_) fun left => ?_
  · refine still_refuseBroken.keepsFaults.refuses fun _ => ?_
    refine looks_operator?.keepsFaults.refuses fun _ => ?_
    split
    · exact (refuses_note _).bind fun _ => keepsFaults_pure _
    · exact refuses_throw e
  · exact Leads.ite (leads_pure rfl) (h _ _ _)

theorem balanced_conditional (h : KeepsBrackets @reach) : Balanced (conditional @reach) := by
  intro T st
  unfold conditional
  refine (balanced_binaryExpression h).bind fun test => ?_
  refine Leads.ite (leads_pure rfl) ?_
  refine eat_ite rfl ?_ (leads_pure rfl)
  refine ((h .assignment).withIn true).bind fun _ => ?_
  refine (leads_expect rfl).bind fun _ => ?_
  exact (h .assignment).bind fun _ => leads_pure rfl

/-! ## Assignments -/

theorem still_checkTarget (left : Shape) (plain : Bool) : Still (checkTarget left plain) := by
  unfold checkTarget
  split
  case h_1 | h_2 => exact (still_noteAny _).ite (still_fail _)
  case h_7 => exact still_pure ()
  case h_8 => exact still_fail _
  all_goals exact (still_pure ()).ite (still_note _)

theorem balanced_assignmentTail (h : KeepsBrackets @reach) (left : Shape) :
    Balanced (assignmentTail @reach left) := by
  intro T st
  unfold assignmentTail
  refine token_bind fun t => ?_
  split
  · split
    · rename_i hassign
      refine (still_checkTarget _ _).bind fun _ => ?_
      refine take_bind (isPlain_of_isAssignment hassign st) ?_
      exact (h .assignment).bind fun _ => leads_pure rfl
    · exact leads_pure rfl
  · exact leads_pure rfl

theorem still_startsOperand : Still startsOperand := by
  refine looks_token.still.andThen fun t => ?_
  split
  all_goals exact still_pure _

theorem leads_yieldExpression (h : KeepsBrackets @reach) {t : Token} (ht : t.after? st = some st) :
    Leads (fun l => T l ∧ l.token = t) st (yieldExpression @reach) fun _ => st := by
  unfold yieldExpression
  refine (still_markPause _).bind fun _ => ?_
  refine take_bind ht (still_context.bind fun _ => ?_)
  refine (refuses_throw _).still.guard ?_
  refine still_atStatementEnd.bind fun _ => Leads.ite (leads_pure rfl) ?_
  refine still_startsOperand.bind fun _ => Leads.ite ?_ (leads_pure rfl)
  refine (balanced_eat fun _ => rfl).bind fun _ => ?_
  exact (h .assignment).bind fun _ => leads_pure rfl

theorem balanced_assignment (h : KeepsBrackets @reach) : Balanced (assignment @reach) := by
  intro T st
  unfold assignment
  refine token_bind fun t => ?_
  refine still_context.bind fun c => ?_
  split
  · rename_i hyield
    rw [Bool.and_eq_true, beq_iff_eq] at hyield
    rw [hyield.2]
    exact leads_yieldExpression h rfl
  · refine still_refuseBroken.bind fun _ => ?_
    refine Still.bind (still_modify (fun _ => rfl) (fun _ => rfl) fun _ => rfl) fun _ => ?_
    refine (balanced_conditional h).bind fun left => ?_
    split
    case h_6 => exact balanced_assignmentTail h _ _ _
    all_goals exact leads_pure rfl

theorem balanced_expression (h : KeepsBrackets @reach) : Balanced (expression @reach) := by
  intro T st
  unfold expression
  refine (h .assignment).bind fun first => ?_
  refine at?_ite ?_ (leads_pure rfl)
  refine still_bound.bind fun n => ?_
  refine Balanced.bind (Balanced.iterate (fun _ => ?_) n ()) fun _ => leads_pure rfl
  intro T st
  exact eat_ite rfl ((h .assignment).bind fun _ => leads_pure rfl) (leads_pure rfl)

end Stencil.Ecma
