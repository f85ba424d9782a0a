import Mathlib.Data.List.Forall2
import Stencil.Proofs.Traversal
import Stencil.Proofs.Tree.Acyclic
import Stencil.Validation.Check

/-!
# The validator reports in pre-order

`Tree.reports?` first lists the checks of a walk and then makes them.  This file
says what it reports without either list:

* `expressionProblems`, `unaryProblems`, `identifierProblems` and
  `parameterProblems` are the problems that one check finds;
* `Element.attributeProblems` chooses among them by the name of an attribute;
* `NodeReports` puts the reports of a node before those of its children, taken
  in their order.

`reports?_eq_preorder` proves that an acyclic tree has exactly one such list and
that the validator reports it.  A walk never runs out of depth there
(`checksAt?_isSome`), since the nodes on the way down are distinct.
-/

namespace Stencil

open Text Validation Relation

/-! ## What a check finds -/

/-- The problems of an expression. -/
def expressionProblems (checker : Checker) (code raw : String) : List Problem :=
  match checker.body ("return " ++ code) with
  | .ok () => []
  | .error message =>
    match findKeyword? none (strip code.toList) with
    | some keyword => [.prohibitedKeyword keyword (trim raw)]
    | none => [.invalidExpression message code (trim raw)]

/-- The problems of an event handler with unary operators called like methods. -/
def unaryProblems (code raw : String) : List Problem :=
  match findUnary? none (strip code.toList) with
  | none => []
  | some (before, call) =>
    if before = some '$' then [] else [.unaryOperator (String.ofList call) (trim raw)]

/-- The problems of a name that a loop may declare. -/
def identifierProblems (checker : Checker) (role : String) (name : Option String) (raw : String) :
    List Problem :=
  match name with
  | none => []
  | some name =>
    match checker.body ("var " ++ name ++ "=_") with
    | .ok () => []
    | .error _ => [.invalidIdentifier role name (trim raw)]

/-- The problems of the parameters of a slot. -/
def parameterProblems (checker : Checker) (code raw : String) : List Problem :=
  match checker.parameters code with
  | .ok () => []
  | .error message => [.invalidParameters message code (trim raw)]

/-- The problems of an attribute, by its name. -/
def Element.attributeProblems (checker : Checker) (e : Element) (name value : String) :
    List Problem :=
  let raw := name ++ "=\"" ++ value ++ "\""
  if isDirective name = false ∨ value = "" then []
  else if name = "v-for" then
    expressionProblems checker (e.loopSource.getD "") raw ++
      identifierProblems checker "v-for alias" e.loopItem raw ++
      identifierProblems checker "v-for iterator" e.iterator1 raw ++
      identifierProblems checker "v-for iterator" e.iterator2 raw
  else if name = "v-slot" ∨ hasStart name "#" = true then parameterProblems checker value raw
  else if isEvent name = true then unaryProblems value raw ++ expressionProblems checker value raw
  else expressionProblems checker value raw

/-! ## Reports in pre-order -/

/-- A problem as the validator reports it: as an error, at a place. -/
def Problem.errorAt (span : Option Span) (problem : Problem) : Report :=
  ⟨⟨problem.code, problem.message, span⟩, false⟩

/-- The span that was recorded with the source of an attribute. -/
def Element.recordedSpan (e : Element) (name : String) : Option Span :=
  match e.sources.get? name with
  | some source => source.span
  | none => none

/-- The reports of an element itself, attribute by attribute. -/
def Element.ownReports (checker : Checker) (e : Element) : List Report :=
  e.written.entries.flatMap fun (name, value) =>
    (e.attributeProblems checker name value).map (Problem.errorAt (e.recordedSpan name))

/-- The reports of a node and of everything below it. -/
inductive NodeReports (t : Tree) (checker : Checker) : NodeId → List Report → Prop
  | element {id : NodeId} {e : Element} {below : List (List Report)}
      (hnode : t.get? id = some (.element e))
      (hbelow : List.Forall₂ (NodeReports t checker) e.children below) :
      NodeReports t checker id (e.ownReports checker ++ below.flatten)
  | expression {id : NodeId} {code text : String} {tokens : List Interpolation.Token}
      {span : Option Span} {parent : Option NodeId}
      (hnode : t.get? id = some (.expression code tokens text span parent)) :
      NodeReports t checker id ((expressionProblems checker code text).map (Problem.errorAt span))
  | text {id : NodeId} {text : String} {span : Option Span} {parent : Option NodeId}
      (hnode : t.get? id = some (.text text span parent)) : NodeReports t checker id []
  | missing {id : NodeId} (hnode : t.get? id = none) : NodeReports t checker id []

/-- The reports of the whole tree. -/
def TreeReports (t : Tree) (checker : Checker) (reports : List Report) : Prop :=
  match t.root with
  | none => reports = []
  | some root => NodeReports t checker root reports

/-! ## Checks that were listed report their problems -/

/-- The reports of some checks, made one after another. -/
def Check.reportAll (checker : Checker) (checks : List Check) : List Report :=
  (checks.filterMap (Check.diagnostic? checker)).map fun d => ⟨d, false⟩

namespace Check

variable {checker : Checker} {code raw role : String} {span : Option Span}

@[simp] theorem reportAll_nil : reportAll checker [] = [] := rfl

@[simp] theorem reportAll_append (first second : List Check) :
    reportAll checker (first ++ second) = reportAll checker first ++ reportAll checker second := by
  simp [reportAll]

theorem reportAll_cons (c : Check) (checks : List Check) :
    reportAll checker (c :: checks) =
      (c.problem? checker).toList.map (Problem.errorAt c.span) ++ reportAll checker checks := by
  cases hproblem : c.problem? checker with
  | none => simp [reportAll, diagnostic?, hproblem]
  | some problem =>
      simp [reportAll, diagnostic?, hproblem, Problem.errorAt, Problem.diagnostic]

theorem reportAll_flatMap {α : Type} (f : α → List Check) (xs : List α) :
    reportAll checker (xs.flatMap f) = xs.flatMap fun x => reportAll checker (f x) := by
  induction xs with
  | nil => rfl
  | cons x xs ih => rw [List.flatMap_cons, List.flatMap_cons, reportAll_append, ih]

theorem problem?_expression :
    (problem? checker ⟨.expression, code, raw, span⟩).toList =
      expressionProblems checker code raw := by
  unfold problem? expressionProblems refusal
  cases checker.body ("return " ++ code) with
  | ok => rfl
  | error message => cases findKeyword? none (strip code.toList) <;> rfl

theorem problem?_unaryCalls :
    (problem? checker ⟨.unaryCalls, code, raw, span⟩).toList = unaryProblems code raw := by
  unfold problem? unaryProblems
  cases findUnary? none (strip code.toList) with
  | none => rfl
  | some found =>
      obtain ⟨before, call⟩ := found
      by_cases hescaped : before = some '$'
      · subst hescaped
        rfl
      · simp only [if_neg hescaped]
        rfl

theorem problem?_identifier (name : Option String) :
    reportAll checker (name.toList.map fun code => ⟨.identifier role, code, raw, span⟩) =
      (identifierProblems checker role name raw).map (Problem.errorAt span) := by
  cases name with
  | none => rfl
  | some name =>
      simp only [Option.toList_some, List.map_cons, List.map_nil, reportAll_cons, reportAll_nil,
        List.append_nil, problem?, identifierProblems]
      cases checker.body ("var " ++ name ++ "=_") <;> rfl

theorem problem?_parameters :
    (problem? checker ⟨.parameters, code, raw, span⟩).toList =
      parameterProblems checker code raw := by
  unfold problem? parameterProblems
  cases checker.parameters code <;> rfl

end Check

theorem Element.attributeSpan_eq_recordedSpan (e : Element) (name : String) :
    e.attributeSpan name = e.recordedSpan name := by
  unfold attributeSpan recordedSpan
  cases e.sources.get? name <;> rfl

theorem Element.reportAll_attributeChecks (checker : Checker) (e : Element) (name value : String) :
    Check.reportAll checker (e.attributeChecks name value) =
      (e.attributeProblems checker name value).map (Problem.errorAt (e.recordedSpan name)) := by
  have hskip : (!isDirective name || value.isEmpty) = true ↔
      isDirective name = false ∨ value = "" := by
    simp
  have hslot : (name == "v-slot" || hasStart name "#") = true ↔
      name = "v-slot" ∨ hasStart name "#" = true := by
    simp
  unfold Element.attributeChecks Element.attributeProblems
  simp only [hskip, hslot, beq_iff_eq, e.attributeSpan_eq_recordedSpan]
  split_ifs
  · rfl
  · simp only [Element.loopChecks, Check.reportAll_cons, Check.reportAll_append,
      Check.problem?_expression, Check.problem?_identifier, List.map_append, List.append_assoc]
  · simp only [Check.reportAll_cons, Check.reportAll_nil, Check.problem?_parameters,
      List.append_nil]
  · simp only [Check.reportAll_cons, Check.reportAll_nil, Check.problem?_unaryCalls,
      Check.problem?_expression, List.map_append, List.append_nil]
  · simp only [Check.reportAll_cons, Check.reportAll_nil, Check.problem?_expression,
      List.append_nil]

theorem Element.reportAll_checks (checker : Checker) (e : Element) :
    Check.reportAll checker e.checks = e.ownReports checker := by
  simp only [Element.checks, Element.ownReports, Check.reportAll_flatMap,
    Element.reportAll_attributeChecks]

/-! ## A walk is deep enough -/

namespace Tree

variable {t : Tree}

/-- The walk from a node reaches the bottom of an acyclic tree if its depth and
the known ancestors of the node together exceed the number of nodes. -/
theorem checksAt?_isSome {depth : Nat} {id : NodeId} {ancestors : List NodeId}
    (hacyclic : t.AcyclicBelow id) (hnodup : ancestors.Nodup)
    (hancestors : ∀ a ∈ ancestors, TransGen t.Child a id)
    (hdepth : t.nodes.length < depth + ancestors.length) :
    (t.checksAt? depth id).isSome = true := by
  induction depth generalizing id ancestors with
  | zero =>
      have := length_le_of_ancestors hnodup hancestors
      omega
  | succ depth ih =>
      rw [checksAt?]
      split
      · rename_i e hnode
        have hchild : ∀ child ∈ e.children, t.Child id child := fun child hmem =>
          ⟨e, by rw [element?, hnode]; rfl, hmem⟩
        have hpath : (id :: ancestors).Nodup :=
          List.nodup_cons.mpr ⟨hacyclic.not_mem hancestors, hnodup⟩
        obtain ⟨below, hbelow⟩ := mapM_isSome (t.checksAt? depth) e.children <| by
          intro child hmem
          refine ih (hacyclic.child (hchild child hmem)) hpath ?_ ?_
          · intro a ha
            rcases List.mem_cons.mp ha with rfl | ha
            · exact .single (hchild child hmem)
            · exact (hancestors a ha).tail (hchild child hmem)
          · rw [List.length_cons]
            omega
        rw [hbelow]
        rfl
      · rfl
      · rfl
      · rfl

/-- The reports of a node, read off the node. -/
theorem nodeReports_iff_get? {checker : Checker} {id : NodeId} {reports : List Report} :
    NodeReports t checker id reports ↔
      match t.get? id with
      | some (.element e) =>
        ∃ below, List.Forall₂ (NodeReports t checker) e.children below ∧
          reports = e.ownReports checker ++ below.flatten
      | some (.expression code _ text span _) =>
        reports = (expressionProblems checker code text).map (Problem.errorAt span)
      | some (.text ..) | none => reports = [] := by
  constructor
  · intro hreports
    cases hreports with
    | element hnode hbelow =>
        rw [hnode]
        exact ⟨_, hbelow, rfl⟩
    | expression hnode => rw [hnode]
    | text hnode => rw [hnode]
    | missing hnode => rw [hnode]
  · intro hreports
    split at hreports
    · rename_i e hnode
      obtain ⟨below, hbelow, rfl⟩ := hreports
      exact .element hnode hbelow
    · rename_i hnode
      exact hreports ▸ .expression hnode
    · rename_i hnode
      exact hreports ▸ .text hnode
    · rename_i hnode
      exact hreports ▸ .missing hnode

theorem forall₂_iff_eq_map {α β γ : Type} {R : α → γ → Prop} {f : α → Option β} {g : β → γ}
    {xs : List α} {ys : List β} (hlisted : List.Forall₂ (fun x y => f x = some y) xs ys)
    (hR : ∀ {x y}, f x = some y → ∀ z, R x z ↔ z = g y) (zs : List γ) :
    List.Forall₂ R xs zs ↔ zs = ys.map g := by
  induction hlisted generalizing zs with
  | nil => simp
  | cons hx _ ih =>
      rw [List.forall₂_cons_left_iff, List.map_cons]
      constructor
      · rintro ⟨z, rest, hz, hrest, rfl⟩
        rw [(hR hx z).mp hz, (ih rest).mp hrest]
      · rintro rfl
        exact ⟨_, _, (hR hx _).mpr rfl, (ih _).mpr rfl, rfl⟩

/-- A finished walk has listed the reports of its node, and the node has no
other ones. -/
theorem nodeReports_iff {checker : Checker} {depth : Nat} {id : NodeId} {checks : List Check}
    (hchecks : t.checksAt? depth id = some checks) (reports : List Report) :
    NodeReports t checker id reports ↔ reports = Check.reportAll checker checks := by
  induction depth generalizing id checks reports with
  | zero => simp [checksAt?] at hchecks
  | succ depth ih =>
      rw [nodeReports_iff_get?]
      rw [checksAt?] at hchecks
      cases hnode : t.get? id with
      | none =>
          rw [hnode] at hchecks
          rw [← Option.some.inj hchecks, Check.reportAll_nil]
      | some node =>
          rw [hnode] at hchecks
          cases node with
          | element e =>
              obtain ⟨below, hbelow, hchecks⟩ := Option.bind_eq_some_iff.mp hchecks
              have hchildren := forall₂_iff_eq_map (mapM_eq_some_iff.mp hbelow)
                (R := NodeReports t checker) (g := Check.reportAll checker) fun hx z => ih hx z
              rw [← Option.some.inj hchecks, Check.reportAll_append, Element.reportAll_checks]
              rw [List.flatten_eq_flatMap, Check.reportAll_flatMap]
              simp only [hchildren, exists_eq_left, List.flatMap_def]
              rfl
          | expression code tokens text span parent =>
              rw [← Option.some.inj hchecks, Check.reportAll_cons, Check.problem?_expression,
                Check.reportAll_nil, List.append_nil]
          | text text span parent => rw [← Option.some.inj hchecks, Check.reportAll_nil]

end Tree

/-- **The validator reports in pre-order.**  For a tree without a cycle below
its root, the walk of the validator ends, and what it reports are the reports of
the nodes, each element before its children and these in their order.  A problem
of an attribute is reported at the span that was recorded with its source. -/
theorem reports?_eq_preorder (t : Tree) (checker : Checker) (hacyclic : t.Acyclic) :
    ∃ reports, t.reports? checker = some reports ∧
      ∀ others, TreeReports t checker others ↔ others = reports := by
  have hwalk : ∃ checks, t.checks? = some checks ∧
      ∀ others, TreeReports t checker others ↔ others = Check.reportAll checker checks := by
    unfold Tree.checks? TreeReports
    cases hroot : t.root with
    | none => exact ⟨[], rfl, fun others => Iff.rfl⟩
    | some root =>
        have hdeep : (t.checksAt? (t.nodes.length + 1) root).isSome = true :=
          Tree.checksAt?_isSome (hacyclic root hroot) List.nodup_nil (by simp) (by simp)
        obtain ⟨checks, hchecks⟩ := Option.isSome_iff_exists.mp hdeep
        exact ⟨checks, hchecks, Tree.nodeReports_iff hchecks⟩
  obtain ⟨checks, hchecks, hreports⟩ := hwalk
  refine ⟨Check.reportAll checker checks, ?_, hreports⟩
  rw [Tree.reports?, Tree.diagnostics?, hchecks]
  rfl

/-- An element with one expression twice below it and a position that dangles.
Its handler, its condition and the expression stand in the source; its binding
does not. -/
def sharedTree : Tree where
  nodes := [
    .element {
      written := ⟨[("@click", "delete(a)"), ("id", "b"), (":key", "k"), ("v-if", "c")]⟩
      sources := ⟨[("v-if", ⟨"v-if", "c", some ⟨30, 8⟩⟩),
        ("@click", ⟨"@click", "delete(a)", some ⟨5, 18⟩⟩)]⟩
      children := [1, 9, 1] },
    .expression "c +" [] "c +" (some ⟨40, 7⟩) none]
  root := some 0

/-- The checker that refuses all code. -/
def Checker.refusing : Checker where
  body _ := .error "refused"
  parameters _ := .error "refused"

theorem acyclic_sharedTree : sharedTree.Acyclic := by
  apply Tree.acyclic_of_child_gt
  rintro parent child ⟨e, helement, hmem⟩
  unfold Tree.element? Tree.get? at helement
  cases hposition : parent.toNat with
  | zero =>
      rw [hposition] at helement
      obtain rfl := Option.some.inj helement
      obtain rfl : parent = 0 := UInt32.toNat_inj.mp hposition
      have hall : ([1, 9, 1] : List NodeId).all (0 < ·) := by decide
      exact of_decide_eq_true (List.all_eq_true.mp hall child hmem)
  | succ position =>
      cases position <;> simp [hposition, sharedTree, Node.element?] at helement

/-- The handler is reported twice, and every report has the span of what it is
about. -/
theorem reports?_sharedTree :
    sharedTree.Acyclic ∧ ∃ reports, sharedTree.reports? .refusing = some reports ∧
      (∀ others, TreeReports sharedTree .refusing others ↔ others = reports) ∧
      reports.map (fun r => (r.diagnostic.code, r.diagnostic.span)) =
        [("T102", some ⟨5, 18⟩), ("T101", some ⟨5, 18⟩), ("T100", none), ("T100", some ⟨30, 8⟩),
          ("T100", some ⟨40, 7⟩), ("T100", some ⟨40, 7⟩)] := by
  obtain ⟨reports, hreports, hunique⟩ := reports?_eq_preorder _ .refusing acyclic_sharedTree
  refine ⟨acyclic_sharedTree, reports, hreports, hunique, ?_⟩
  have hspans : (sharedTree.reports? .refusing).map
      (List.map fun r => (r.diagnostic.code, r.diagnostic.span)) = some
        [("T102", some ⟨5, 18⟩), ("T101", some ⟨5, 18⟩), ("T100", none), ("T100", some ⟨30, 8⟩),
          ("T100", some ⟨40, 7⟩), ("T100", some ⟨40, 7⟩)] := by
    decide +kernel
  rw [hreports, Option.map_some] at hspans
  exact Option.some.inj hspans

end Stencil
