import Stencil.Proofs.Ecma.Expressions

/-!
# Brackets in statements and scripts

With the statements every production is settled, and `keepsBrackets_parse` ties the knot by
induction on the depth.  So a script that is not refused closes all that it opens (`balanced_script`).
-/

namespace Stencil.Ecma

variable {reach : Reach} {T : Lexeme → Prop} {st : List Opening}

/-! ## Declarations of variables -/

theorem looks_atLoopWord : Looks atLoopWord fun b l => b = true → l.token.IsPlain := by
  refine (looks_atWord? _).andThen fun isIn => (looks_atName? _).andThen fun isOf => ?_
  refine looks_pure fun l hof hin hb => ?_
  rw [hin, hof, Bool.or_eq_true, beq_iff_eq, beq_iff_eq] at hb
  rcases hb with hl | hl <;> rw [hl] <;> exact fun _ => rfl

theorem balanced_declarator (h : KeepsBrackets @reach) (kind : Declaration) (inLoop : Bool) :
    Balanced (declarator @reach kind inLoop) := by
  intro T st
  unfold declarator
  refine (h _).bind fun pattern => ?_
  refine looks_atLoopWord.still.bind fun _ => Leads.ite (leads_pure rfl) ?_
  refine eat_ite rfl ((h .assignment).bind fun _ => leads_pure rfl) ?_
  refine Leads.ite ?_ ?_
  · exact (still_note _).bind fun _ => leads_pure rfl
  · exact (still_fail _).guard (leads_pure rfl)

theorem balanced_declarators (h : KeepsBrackets @reach) (kind : Declaration) (inLoop : Bool) :
    Balanced (declarators @reach kind inLoop) := by
  intro T st
  unfold declarators
  refine still_bound.bind fun n => ?_
  refine Balanced.iterate ?_ n _ _ _
  rintro ⟨count, first⟩ T st
  refine at?_ite ((still_note _).bind fun _ => leads_pure rfl) ?_
  refine (balanced_declarator h kind inLoop).bind fun hasValue => ?_
  exact (balanced_eat fun _ => rfl).bind fun _ => leads_pure rfl

theorem refuses_skipDeclaration (h : KeepsBrackets @reach) : Refuses (skipDeclaration @reach) := by
  refine (refuses_note _).bind fun _ => ?_
  refine KeepsFaults.bind ?_ fun _ => ?_
  · refine KeepsFaults.recover ?_ fun _ => keepsFaults_pure ()
    exact (h .expression).keepsFaults.bind fun _ => keepsFaults_pure ()
  · refine still_bound.keepsFaults.bind fun n => KeepsFaults.iterate (fun _ => ?_) n ()
    refine balanced_eatStatementEnd.keepsFaults.bind fun _ => ?_
    split
    · exact keepsFaults_pure _
    · exact keepsFaults_advance.bind fun _ => keepsFaults_pure _

theorem balanced_declarationRest (h : KeepsBrackets @reach) (kind : Declaration) :
    Balanced (declarationRest @reach kind) := by
  intro T st
  unfold declarationRest
  refine ((balanced_declarators h kind false).withIn true).bind fun _ => ?_
  refine balanced_eatStatementEnd.bind fun _ => ?_
  exact Leads.ite (leads_pure rfl) (refuses_skipDeclaration h).leads

theorem looks_declaration? : Looks declaration? fun o l => o.isSome → l.token.IsPlain := by
  refine looks_token.andThen fun t => ?_
  split
  · exact looks_pure fun l hl _ => hl ▸ fun _ => rfl
  · exact looks_pure fun l hl _ => hl ▸ fun _ => rfl
  · exact looks_peek.andThen fun next => looks_pure fun l _ hl _ => hl ▸ fun _ => rfl
  · exact looks_pure fun _ _ h => by simp at h

/-! ## Simple statements -/

theorem balanced_jumpLabel : Balanced jumpLabel := by
  intro T st
  unfold jumpLabel
  refine balanced_eatStatementEnd.bind fun _ => Leads.ite (leads_pure rfl) ?_
  refine token_bind fun t => ?_
  split
  · refine still_context.bind fun _ => (still_fail _).guard ?_
    refine (still_checkName _).bind fun _ => take_bind rfl ?_
    exact balanced_expectStatementEnd.bind fun _ => leads_pure rfl
  · exact (refuses_fail _).leads

theorem leads_breakStatement {t : Token} (ht : t.after? st = some st) :
    Leads (fun l => T l ∧ l.token = t) st breakStatement fun _ => st := by
  unfold breakStatement
  refine take_bind ht (balanced_jumpLabel.bind fun label => ?_)
  split
  · exact looks_get.still.bind fun _ => ((still_pure ()).ite (still_note _)).leads
  · exact still_context.bind fun _ => ((still_pure ()).ite (still_note _)).leads

theorem leads_continueStatement {t : Token} (ht : t.after? st = some st) :
    Leads (fun l => T l ∧ l.token = t) st continueStatement fun _ => st := by
  unfold continueStatement
  refine take_bind ht (balanced_jumpLabel.bind fun label => ?_)
  refine still_context.bind fun _ => Leads.ite (still_note _).leads ?_
  split
  · exact looks_get.still.bind fun _ => ((still_pure ()).ite (still_note _)).leads
  · exact leads_pure rfl

theorem leads_returnStatement (h : KeepsBrackets @reach) {t : Token} (ht : t.after? st = some st) :
    Leads (fun l => T l ∧ l.token = t) st (returnStatement @reach) fun _ => st := by
  unfold returnStatement
  refine take_bind ht ?_
  extract_lets ending
  have hending : Balanced (ending ()) := by
    refine balanced_expectStatementEnd.andThen fun _ => ?_
    exact still_context.balanced.andThen fun _ => ((still_pure ()).ite (still_note _)).balanced
  refine still_atStatementEnd.bind fun _ => Leads.ite (hending _ _) ?_
  exact ((h .expression).withIn true).bind fun _ => hending _ _

theorem leads_throwStatement (h : KeepsBrackets @reach) {t : Token} (ht : t.after? st = some st) :
    Leads (fun l => T l ∧ l.token = t) st (throwStatement @reach) fun _ => st := by
  unfold throwStatement
  refine take_bind ht (still_lineBefore.bind fun _ => (still_fail _).guard ?_)
  exact ((h .expression).withIn true).bind fun _ => balanced_expectStatementEnd _ _

theorem balanced_labelled (h : KeepsBrackets @reach) (label : String) :
    Balanced (labelled @reach label) := by
  intro T st
  unfold labelled
  refine looks_get.still.bind fun s => ?_
  refine Still.bind (still_modify (fun _ => rfl) (fun _ => rfl) fun _ => rfl) fun _ => ?_
  refine Balanced.bind (Balanced.within ?_ _) fun _ => (still_note _).guard ?_
  · refine fun _ _ => eatToken_ite rfl ?_ (h _ _ _)
    refine (looks_at? _).still.bind fun generator => ?_
    refine (balanced_functionFromKeyword h _ _).bind fun _ => ?_
    exact (still_noteStrict _).bind fun _ => ((still_note _).ite (still_pure ())).leads
  · exact Still.leads (still_modify (fun _ => rfl) (fun _ => rfl) fun _ => rfl)

theorem balanced_expressionStatement (h : KeepsBrackets @reach) :
    Balanced (expressionStatement @reach) := by
  intro T st
  unfold expressionStatement
  refine ((h .expression).withIn true).bind fun e => ?_
  extract_lets ending
  have hending : Balanced (ending ()) := by
    refine balanced_eatStatementEnd.andThen fun _ => (balanced_pure ()).ite ?_
    refine looks_token.still.balanced.andThen fun t => ?_
    split
    · refine Balanced.ite ?_ (refuses_fail _).balanced
      refine (still_note _).balanced.andThen fun _ => ?_
      exact (h _).andThen fun _ => balanced_pure ()
    · exact (refuses_fail _).balanced
  split
  · exact eat_ite rfl (balanced_labelled h _ _ _) (hending _ _)
  · exact hending _ _

theorem balanced_importStatement (h : KeepsBrackets @reach) :
    Balanced (importStatement @reach) := by
  intro T st
  unfold importStatement
  refine looks_peek.still.bind fun next => ?_
  refine (looks_atWord? _).still.bind fun _ => Leads.ite ?_ (refuses_fail _).leads
  refine (h .expression).bind fun _ => ?_
  exact balanced_eatStatementEnd.bind fun _ => leads_pure rfl

/-! ## Compound statements -/

theorem balanced_parenthesised (h : KeepsBrackets @reach) : Balanced (parenthesised @reach) := by
  intro T st
  unfold parenthesised
  refine (leads_expect rfl).bind fun _ => ?_
  exact ((h .expression).withIn true).bind fun _ => leads_expect rfl

theorem leads_ifStatement (h : KeepsBrackets @reach) {t : Token} (ht : t.after? st = some st) :
    Leads (fun l => T l ∧ l.token = t) st (ifStatement @reach) fun _ => st := by
  unfold ifStatement
  refine take_bind ht ((balanced_parenthesised h).bind fun _ => ?_)
  refine (h (.statement false)).bind fun _ => ?_
  exact eatToken_ite rfl (h _ _ _) (leads_pure rfl)

theorem balanced_loopBody (h : KeepsBrackets @reach) : Balanced (loopBody @reach) :=
  (h (.statement false)).within _

theorem leads_whileStatement (h : KeepsBrackets @reach) {t : Token} (ht : t.after? st = some st) :
    Leads (fun l => T l ∧ l.token = t) st (whileStatement @reach) fun _ => st := by
  unfold whileStatement
  exact take_bind ht ((balanced_parenthesised h).bind fun _ => balanced_loopBody h _ _)

theorem leads_doStatement (h : KeepsBrackets @reach) {t : Token} (ht : t.after? st = some st) :
    Leads (fun l => T l ∧ l.token = t) st (doStatement @reach) fun _ => st := by
  unfold doStatement
  refine take_bind ht ((balanced_loopBody h).bind fun _ => ?_)
  refine (balanced_expectWord _).bind fun _ => ?_
  refine (balanced_parenthesised h).bind fun _ => ?_
  exact (balanced_eat fun _ => rfl).bind fun _ => leads_pure rfl

theorem balanced_loopParts (h : KeepsBrackets @reach) : Balanced (loopParts @reach) := by
  intro T st
  unfold loopParts
  extract_lets step
  have hstep : Balanced (step ()) := by
    refine (looks_at? _).still.balanced.andThen fun _ => (balanced_pure ()).ite ?_
    exact ((h .expression).withIn true).andThen fun _ => balanced_pure ()
  refine eat_ite rfl (hstep _ _) ?_
  refine ((h .expression).withIn true).bind fun _ => ?_
  exact (balanced_eat fun _ => rfl).bind fun _ => hstep _ _

theorem leads_loopSource (h : KeepsBrackets @reach) :
    Leads (fun l => l.token.IsPlain) st (loopSource @reach) fun _ => st := by
  unfold loopSource
  refine eatToken_ite rfl ?_ ?_
  · exact ((h .assignment).withIn true).bind fun _ => leads_pure rfl
  · refine advance_bind st (fun l hl => hl st) ?_
    exact ((h .expression).withIn true).bind fun _ => leads_pure rfl

/-- A loop head behind its first part: what the loop runs over, or two more parts. -/
theorem leads_loopRest (h : KeepsBrackets @reach) {p : Parse Bool}
    (hp : Leads (fun l => l.token.IsPlain) st p fun _ => st) :
    Leads T st (atLoopWord >>= fun isSource =>
      if isSource = true then p
      else expect .semicolon >>= fun _ => loopParts @reach >>= fun _ => pure false)
      fun _ => st := by
  refine looks_atLoopWord.bind fun isSource => ?_
  split
  · rename_i hsource
    exact hp.weaken fun l hl => hl.2 hsource
  · refine (leads_expect rfl).bind fun _ => ?_
    exact (balanced_loopParts h).bind fun _ => leads_pure rfl

theorem balanced_declaringHead (h : KeepsBrackets @reach) (kind : Declaration) :
    Balanced (declaringHead @reach kind) := by
  intro T st
  unfold declaringHead
  refine still_context.bind fun c => ?_
  refine ((balanced_declarators h kind true).withIn _).bind fun (count, hasValue) => ?_
  refine leads_loopRest h (Leads.ite ?_ ?_)
  · exact (still_note _).bind fun _ => leads_loopSource h
  · exact (looks_atName? _).still.bind fun _ => (still_note _).guard (leads_loopSource h)

theorem balanced_expressionHead (h : KeepsBrackets @reach) : Balanced (expressionHead @reach) := by
  intro T st
  unfold expressionHead
  refine ((h .expression).withIn false).bind fun first => ?_
  refine leads_loopRest h ?_
  split
  · exact (still_noteAny _).bind fun _ => leads_loopSource h
  · exact (still_noteAny _).bind fun _ => leads_loopSource h
  · exact Leads.ite (leads_loopSource h) ((still_note _).bind fun _ => leads_loopSource h)

theorem balanced_loopHead (h : KeepsBrackets @reach) : Balanced (loopHead @reach) := by
  intro T st
  unfold loopHead
  refine looks_declaration?.bind fun o => ?_
  split
  · exact advance_bind st (fun l hl => hl.2 rfl st) (balanced_declaringHead h _ _ _)
  · refine eat_ite rfl ?_ (balanced_expressionHead h _ _)
    exact (balanced_loopParts h).bind fun _ => leads_pure rfl

theorem leads_forStatement (h : KeepsBrackets @reach) {t : Token} (ht : t.after? st = some st) :
    Leads (fun l => T l ∧ l.token = t) st (forStatement @reach) fun _ => st := by
  unfold forStatement
  refine take_bind ht ((balanced_eatToken fun _ => rfl).bind fun awaits => ?_)
  refine still_context.bind fun _ => (still_note _).guard ?_
  refine (leads_expect rfl).bind fun _ => ?_
  refine ((balanced_loopHead h).within _).bind fun overItems => ?_
  refine (leads_expect rfl).bind fun _ => ?_
  refine (balanced_loopBody h).bind fun _ => ?_
  exact ((still_fail _).ite (still_pure ())).leads

theorem balanced_catchClause (h : KeepsBrackets @reach) : Balanced (catchClause @reach) := by
  intro T st
  unfold catchClause
  refine eatToken_ite rfl ?_ (leads_pure rfl)
  extract_lets body
  have hbody : Balanced (body ()) := (h .block).andThen fun _ => balanced_pure true
  refine eat_ite rfl ?_ (hbody _ _)
  refine (h (.pattern false)).bind fun _ => ?_
  exact (leads_expect rfl).bind fun _ => hbody _ _

theorem balanced_finallyClause (h : KeepsBrackets @reach) : Balanced (finallyClause @reach) := by
  intro T st
  unfold finallyClause
  exact eatToken_ite rfl ((h .block).bind fun _ => leads_pure rfl) (leads_pure rfl)

theorem leads_tryStatement (h : KeepsBrackets @reach) {t : Token} (ht : t.after? st = some st) :
    Leads (fun l => T l ∧ l.token = t) st (tryStatement @reach) fun _ => st := by
  unfold tryStatement
  refine take_bind ht ((h .block).bind fun _ => ?_)
  refine (balanced_catchClause h).bind fun caught => ?_
  refine (balanced_finallyClause h).bind fun closed => ?_
  exact ((still_pure ()).ite (still_note _)).leads

theorem refuses_strayHandler (h : KeepsBrackets @reach) : Refuses (strayHandler @reach) := by
  refine (refuses_note _).bind fun _ => ?_
  refine KeepsFaults.bind ?_ fun _ => ?_
  · refine KeepsFaults.recover ?_ fun _ => keepsFaults_pure ()
    exact (balanced_catchClause h).keepsFaults.bind fun _ => keepsFaults_pure ()
  · refine KeepsFaults.recover ?_ fun _ => keepsFaults_pure ()
    exact (balanced_finallyClause h).keepsFaults.bind fun _ => keepsFaults_pure ()

theorem balanced_caseBody (h : KeepsBrackets @reach) : Balanced (caseBody @reach) := by
  intro T st
  unfold caseBody
  refine still_bound.bind fun n => ?_
  refine Balanced.iterate (fun _ => ?_) n () _ _
  refine looks_token.still.balanced.andThen fun t => ?_
  split
  case h_4 => exact (h (.statement true)).andThen fun _ => balanced_pure _
  all_goals exact balanced_pure _

theorem leads_switchStatement (h : KeepsBrackets @reach) {t : Token} (ht : t.after? st = some st) :
    Leads (fun l => T l ∧ l.token = t) st (switchStatement @reach) fun _ => st := by
  unfold switchStatement
  refine take_bind ht ((balanced_parenthesised h).bind fun _ => ?_)
  refine (leads_expect rfl).bind fun _ => ?_
  refine Balanced.bind (Balanced.within ?_ _) fun _ => leads_expect rfl
  refine still_bound.balanced.andThen fun n => ?_
  refine Balanced.iterate (fun hasDefault => ?_) n false
  intro T st
  refine token_bind fun t => ?_
  split
  · refine take_bind rfl (((h .expression).withIn true).bind fun _ => ?_)
    refine (leads_expect rfl).bind fun _ => ?_
    exact (balanced_caseBody h).bind fun _ => leads_pure rfl
  · refine take_bind rfl ((still_fail _).guard ?_)
    refine (leads_expect rfl).bind fun _ => ?_
    exact (balanced_caseBody h).bind fun _ => leads_pure rfl
  · exact leads_pure rfl

theorem leads_withStatement (h : KeepsBrackets @reach) {t : Token} (ht : t.after? st = some st) :
    Leads (fun l => T l ∧ l.token = t) st (withStatement @reach) fun _ => st := by
  unfold withStatement
  refine (still_noteStrict _).bind fun _ => take_bind ht ?_
  exact (balanced_parenthesised h).bind fun _ => h _ _ _

theorem balanced_block (h : KeepsBrackets @reach) : Balanced (block @reach) := by
  intro T st
  unfold block
  refine (leads_expect rfl).bind fun _ => ?_
  exact (balanced_statementsToBrace h).bind fun _ => leads_closeBlock

/-! ## All statements -/

theorem leads_wordStatement (h : KeepsBrackets @reach) (declarations : Bool) (word : String) :
    Leads (fun l => T l ∧ l.token = .keyword word) st (wordStatement @reach declarations word)
      fun _ => st := by
  unfold wordStatement
  split
  · exact leads_breakStatement rfl
  · exact leads_continueStatement rfl
  · exact take_bind rfl (balanced_expectStatementEnd _ _)
  · exact leads_doStatement h rfl
  · exact leads_forStatement h rfl
  · extract_lets rest
    have hrest : Leads (fun l => T l ∧ l.token = .keyword "function") st (rest ()) fun _ => st :=
      take_bind rfl (balanced_functionFromKeyword h false true _ _)
    exact Leads.ite hrest ((still_note _).bind fun _ => hrest)
  · extract_lets rest
    have hrest : Leads (fun l => T l ∧ l.token = .keyword "class") st (rest ()) fun _ => st :=
      take_bind rfl (balanced_classFromKeyword h true _ _)
    exact Leads.ite hrest ((still_note _).bind fun _ => hrest)
  · exact leads_ifStatement h rfl
  · exact leads_returnStatement h rfl
  · exact leads_switchStatement h rfl
  · exact leads_throwStatement h rfl
  · exact leads_tryStatement h rfl
  · exact leads_withStatement h rfl
  · exact leads_whileStatement h rfl
  · exact take_bind rfl (balanced_declarationRest h _ _ _)
  · refine Leads.ite ?_ (balanced_expressionStatement h _ _)
    exact take_bind rfl (balanced_declarationRest h _ _ _)
  · exact (refuses_strayHandler h).leads
  · exact (refuses_strayHandler h).leads
  · exact balanced_importStatement h _ _
  · exact balanced_importStatement h _ _
  · exact balanced_expressionStatement h _ _

theorem balanced_statement (h : KeepsBrackets @reach) (declarations : Bool) :
    Balanced (statement @reach declarations) := by
  intro T st
  unfold statement
  refine token_bind fun t => ?_
  split
  · exact leads_wordStatement h declarations _
  · exact h _ _ _
  · exact leads_advance fun l hl => by rw [hl.2]; rfl
  · refine looks_peek.still.bind fun next => ?_
    refine Leads.ite ?_ (balanced_expressionStatement h _ _)
    exact take_bind rfl (balanced_declarationRest h _ _ _)
  · refine looks_peek.bind fun next => ?_
    split
    · rename_i hnext
      rw [Bool.and_eq_true, beq_iff_eq] at hnext
      exact takeBoth_bind rfl hnext.1 rfl (balanced_functionFromKeyword h _ _ _ _)
    · exact balanced_expressionStatement h _ _
  · exact balanced_expressionStatement h _ _

/-! ## Scripts -/

theorem balanced_step (h : KeepsBrackets @reach) {α : Type} (goal : Goal α) :
    Balanced (step @reach goal) := by
  cases goal with
  | expression => exact balanced_expression h
  | assignment => exact balanced_assignment h
  | unary => exact balanced_unaryExpression h
  | operators left least => exact balanced_operators h left least
  | leftHand => exact balanced_leftHandSide h
  | member => exact balanced_memberOrNew h
  | pattern lexical => exact balanced_bindingPattern h lexical
  | statement declarations => exact balanced_statement h declarations
  | block => exact balanced_block h
  | function form => exact balanced_functionTail h form
  | classTail => exact balanced_classTail h

theorem keepsBrackets_parse (depth : Nat) : KeepsBrackets (parse depth) := by
  induction depth with
  | zero => exact fun _ => (refuses_throw _).balanced
  | succ depth ih => exact fun goal => balanced_step ih goal

theorem balanced_script (depth : Nat) : Balanced (script depth) := by
  unfold script
  refine looks_token.still.balanced.andThen fun _ => Balanced.within ?_ _
  refine still_bound.balanced.andThen fun n => Balanced.iterate (fun _ => ?_) n ()
  refine looks_token.still.balanced.andThen fun _ => (balanced_pure _).ite ?_
  exact (keepsBrackets_parse depth _).andThen fun _ => balanced_pure _

end Stencil.Ecma
