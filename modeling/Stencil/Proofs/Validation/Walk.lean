import Stencil.Proofs.Json.Codec
import Stencil.Proofs.Validation.PreOrder

/-!
# How far a walk goes

The validator visits a node and then what hangs under it, child by child, and it
visits a node as often as it gets there.  `Tree.Walk` follows it one visit at a
time and keeps the nodes that are still to be visited in a list.  A walk is a
derivation, so there is one only if the visits come to an end.

* `Walk.acyclicBelow`: a walk that ends has met no cycle, since the walk from a
  child is shorter than that from its parent;
* `checks?_eq_some_iff`: the validator makes the checks of the nodes that are
  visited, in the order of the visits;
* `validation_ends_iff_acyclic`: it comes to an end exactly on trees without a
  cycle below the root.
-/

namespace Stencil

open Relation

/-- The nodes that hang under a node. -/
def Node.children : Node → List NodeId
  | element e => e.children
  | _ => []

namespace Tree

variable {t : Tree}

/-- The nodes that a walk goes on to from a position. -/
def childrenAt (t : Tree) (id : NodeId) : List NodeId :=
  match t.get? id with
  | some node => node.children
  | none => []

/-- `Walk t waiting visited`: from the nodes that wait, the first one first, the
nodes are visited in the order of the second list, and then none waits. -/
inductive Walk (t : Tree) : List NodeId → List NodeId → Prop
  | done : Walk t [] []
  | visit {id : NodeId} {waiting visited : List NodeId}
      (hrest : Walk t (t.childrenAt id ++ waiting) visited) :
      Walk t (id :: waiting) (id :: visited)

theorem mem_childrenAt_iff {parent child : NodeId} :
    child ∈ t.childrenAt parent ↔ t.Child parent child := by
  unfold childrenAt Child element?
  cases t.get? parent with
  | none => simp
  | some node => cases node <;> simp [Node.children, Node.element?]

/-! ## Walks one after another -/

namespace Walk

theorem append {first second visited visited' : List NodeId} (hfirst : t.Walk first visited)
    (hsecond : t.Walk second visited') : t.Walk (first ++ second) (visited ++ visited') := by
  induction hfirst with
  | done => exact hsecond
  | @visit id waiting visited _ ih =>
      rw [List.append_assoc] at ih
      exact .visit ih

theorem split {first second visited : List NodeId} (h : t.Walk (first ++ second) visited) :
    ∃ visited₁ visited₂, t.Walk first visited₁ ∧ t.Walk second visited₂ ∧
      visited = visited₁ ++ visited₂ := by
  generalize hwaiting : first ++ second = waiting at h
  induction h generalizing first with
  | done =>
      obtain ⟨rfl, rfl⟩ := List.append_eq_nil_iff.mp hwaiting
      exact ⟨[], [], .done, .done, rfl⟩
  | @visit id waiting visited hrest ih =>
      cases first with
      | nil =>
          rw [List.nil_append] at hwaiting
          subst hwaiting
          exact ⟨[], id :: visited, .done, .visit hrest, rfl⟩
      | cons head first =>
          obtain ⟨rfl, rfl⟩ := List.cons.inj hwaiting
          obtain ⟨visited₁, visited₂, hfirst, hsecond, rfl⟩ :=
            ih (List.append_assoc (t.childrenAt head) first second)
          exact ⟨head :: visited₁, visited₂, .visit hfirst, hsecond, rfl⟩

/-- There is only one way to walk. -/
theorem unique {waiting visited visited' : List NodeId} (h : t.Walk waiting visited)
    (h' : t.Walk waiting visited') : visited = visited' := by
  induction h generalizing visited' with
  | done =>
      cases h'
      rfl
  | visit _ ih =>
      cases h' with
      | visit hrest' => rw [ih hrest']

/-! ## A walk that ends has met no cycle -/

theorem child {id child : NodeId} {visited : List NodeId} (h : t.Walk [id] visited)
    (hchild : t.Child id child) :
    ∃ below, t.Walk [child] below ∧ below.length < visited.length := by
  obtain ⟨before, after, hchildren⟩ := List.append_of_mem (mem_childrenAt_iff.mpr hchild)
  cases h with
  | visit hrest =>
      rw [List.append_nil, hchildren] at hrest
      obtain ⟨visited₁, rest, -, hbehind, rfl⟩ := hrest.split
      rw [← List.singleton_append] at hbehind
      obtain ⟨below, visited₂, hbelow, -, rfl⟩ := hbehind.split
      refine ⟨below, hbelow, ?_⟩
      simp only [List.length_cons, List.length_append]
      omega

theorem descendant {id node : NodeId} {visited : List NodeId} (h : t.Walk [id] visited)
    (hpath : TransGen t.Child id node) :
    ∃ below, t.Walk [node] below ∧ below.length < visited.length := by
  induction hpath with
  | single hchild => exact h.child hchild
  | tail _ hchild ih =>
      obtain ⟨above, habove, hlt⟩ := ih
      obtain ⟨below, hbelow, hlt'⟩ := habove.child hchild
      exact ⟨below, hbelow, hlt'.trans hlt⟩

theorem acyclicBelow {id : NodeId} {visited : List NodeId} (h : t.Walk [id] visited) :
    t.AcyclicBelow id := by
  intro node hreach hcycle
  have hnode : ∃ below, t.Walk [node] below := by
    rcases reflTransGen_iff_eq_or_transGen.mp hreach with rfl | hpath
    · exact ⟨visited, h⟩
    · obtain ⟨below, hbelow, -⟩ := h.descendant hpath
      exact ⟨below, hbelow⟩
  obtain ⟨below, hbelow⟩ := hnode
  obtain ⟨again, hagain, hlt⟩ := hbelow.descendant hcycle
  rw [hagain.unique hbelow] at hlt
  exact Nat.lt_irrefl _ hlt

end Walk

/-! ## The validator walks -/

/-- The checks of one visit. -/
def checksOf (t : Tree) (id : NodeId) : List Check :=
  match t.get? id with
  | some (.element e) => e.checks
  | some (.expression code _ text span _) => [⟨.expression, code, text, span⟩]
  | some (.text ..) | none => []

/-- The checks of some nodes that walks have been found for. -/
theorem exists_walk_of_forall₂ {f : NodeId → Option (List Check)}
    (hwalk : ∀ {id checks}, f id = some checks →
      ∃ visited, t.Walk [id] visited ∧ checks = visited.flatMap t.checksOf)
    {ids : List NodeId} {below : List (List Check)}
    (hbelow : List.Forall₂ (fun id checks => f id = some checks) ids below) :
    ∃ visited, t.Walk ids visited ∧ below.flatten = visited.flatMap t.checksOf := by
  induction hbelow with
  | nil => exact ⟨[], .done, rfl⟩
  | cons hid _ ih =>
      obtain ⟨first, hfirst, rfl⟩ := hwalk hid
      obtain ⟨rest, hrest, hchecks⟩ := ih
      refine ⟨first ++ rest, hfirst.append hrest, ?_⟩
      rw [List.flatten_cons, hchecks, List.flatMap_append]

/-- Checks that are listed are those of a walk. -/
theorem exists_walk_of_checksAt? {depth : Nat} {id : NodeId} {checks : List Check}
    (hchecks : t.checksAt? depth id = some checks) :
    ∃ visited, t.Walk [id] visited ∧ checks = visited.flatMap t.checksOf := by
  induction depth generalizing id checks with
  | zero => simp [checksAt?] at hchecks
  | succ depth ih =>
      -- A node that is no element is visited and hands on to no other one.
      have hleaf : t.childrenAt id = [] → checks = t.checksOf id →
          ∃ visited, t.Walk [id] visited ∧ checks = visited.flatMap t.checksOf := by
        rintro hchildren rfl
        refine ⟨[id], .visit ?_, by simp⟩
        rw [hchildren]
        exact .done
      rw [checksAt?] at hchecks
      cases hnode : t.get? id with
      | none =>
          rw [hnode] at hchecks
          exact hleaf (by simp [childrenAt, hnode])
            (by simpa [checksOf, hnode] using (Option.some.inj hchecks).symm)
      | some node =>
          rw [hnode] at hchecks
          cases node with
          | element e =>
              obtain ⟨below, hbelow, hchecks⟩ := Option.bind_eq_some_iff.mp hchecks
              obtain ⟨visited, hwalk, hflatten⟩ :=
                exists_walk_of_forall₂ ih (mapM_eq_some_iff.mp hbelow)
              have hchildren : t.childrenAt id = e.children := by
                rw [childrenAt, hnode]
                rfl
              refine ⟨id :: visited, .visit ?_, ?_⟩
              · rw [hchildren, List.append_nil]
                exact hwalk
              · rw [← Option.some.inj hchecks, List.flatMap_cons, ← hflatten, checksOf, hnode]
          | expression code tokens text span parent =>
              exact hleaf (by simp [childrenAt, hnode, Node.children])
                (by simpa [checksOf, hnode] using (Option.some.inj hchecks).symm)
          | text text span parent =>
              exact hleaf (by simp [childrenAt, hnode, Node.children])
                (by simpa [checksOf, hnode] using (Option.some.inj hchecks).symm)

/-- Below a node without a cycle there is a walk, and it makes the checks that
the validator lists. -/
theorem exists_walk_of_acyclicBelow {id : NodeId} (hacyclic : t.AcyclicBelow id) :
    ∃ visited, t.Walk [id] visited ∧
      t.checksAt? (t.nodes.length + 1) id = some (visited.flatMap t.checksOf) := by
  have hdeep : (t.checksAt? (t.nodes.length + 1) id).isSome = true :=
    checksAt?_isSome hacyclic List.nodup_nil (by simp) (by simp)
  obtain ⟨checks, hchecks⟩ := Option.isSome_iff_exists.mp hdeep
  obtain ⟨visited, hwalk, rfl⟩ := exists_walk_of_checksAt? hchecks
  exact ⟨visited, hwalk, hchecks⟩

theorem acyclic_iff_exists_walk : t.Acyclic ↔ ∃ visited, t.Walk t.root.toList visited := by
  unfold Acyclic
  cases t.root with
  | none => exact ⟨fun _ => ⟨[], .done⟩, fun _ _ hroot => nomatch hroot⟩
  | some root =>
      constructor
      · intro hacyclic
        obtain ⟨visited, hwalk, -⟩ := exists_walk_of_acyclicBelow (hacyclic root rfl)
        exact ⟨visited, hwalk⟩
      · rintro ⟨visited, hwalk⟩ other hother
        obtain rfl := Option.some.inj hother
        exact hwalk.acyclicBelow

theorem checks?_of_walk {visited : List NodeId} (hwalk : t.Walk t.root.toList visited) :
    t.checks? = some (visited.flatMap t.checksOf) := by
  unfold checks?
  cases hroot : t.root with
  | none =>
      rw [hroot] at hwalk
      cases hwalk
      rfl
  | some root =>
      rw [hroot] at hwalk
      obtain ⟨visited', hwalk', hchecks⟩ := exists_walk_of_acyclicBelow hwalk.acyclicBelow
      rw [hwalk.unique hwalk']
      exact hchecks

theorem checks?_eq_some_iff {checks : List Check} :
    t.checks? = some checks ↔
      ∃ visited, t.Walk t.root.toList visited ∧ checks = visited.flatMap t.checksOf := by
  constructor
  · intro hchecks
    unfold checks? at hchecks
    cases hroot : t.root with
    | none =>
        rw [hroot] at hchecks
        exact ⟨[], .done, (Option.some.inj hchecks).symm⟩
    | some root =>
        rw [hroot] at hchecks
        exact exists_walk_of_checksAt? hchecks
  · rintro ⟨visited, hwalk, rfl⟩
    exact checks?_of_walk hwalk

theorem acyclic_iff_exists_checks : t.Acyclic ↔ ∃ checks, t.checks? = some checks := by
  rw [acyclic_iff_exists_walk]
  constructor
  · rintro ⟨visited, hwalk⟩
    exact ⟨_, checks?_of_walk hwalk⟩
  · rintro ⟨checks, hchecks⟩
    obtain ⟨visited, hwalk, -⟩ := checks?_eq_some_iff.mp hchecks
    exact ⟨visited, hwalk⟩

/-- The reports of one visit. -/
def reportsOf (t : Tree) (checker : Checker) (id : NodeId) : List Report :=
  Check.reportAll checker (t.checksOf id)

theorem reports?_eq_some_iff {checker : Checker} {reports : List Report} :
    t.reports? checker = some reports ↔
      ∃ visited, t.Walk t.root.toList visited ∧
        reports = visited.flatMap (t.reportsOf checker) := by
  have hreports : t.reports? checker = t.checks?.map (Check.reportAll checker) := by
    rw [reports?, diagnostics?, Option.map_map]
    rfl
  rw [hreports, Option.map_eq_some_iff]
  constructor
  · rintro ⟨checks, hchecks, rfl⟩
    obtain ⟨visited, hwalk, rfl⟩ := checks?_eq_some_iff.mp hchecks
    exact ⟨visited, hwalk, Check.reportAll_flatMap _ visited⟩
  · rintro ⟨visited, hwalk, rfl⟩
    exact ⟨_, checks?_of_walk hwalk, Check.reportAll_flatMap _ visited⟩

end Tree

/-- **The validator comes to an end exactly on acyclic trees.**  Whatever nodes,
children and root a tree has, the visits from its root come to an end if and only
if no node that can be reached from the root is below itself.  The validator
answers just in this case, with the reports of the nodes in the order of the
visits. -/
theorem validation_ends_iff_acyclic (t : Tree) (checker : Checker) :
    ((∃ visited, t.Walk t.root.toList visited) ↔ t.Acyclic) ∧
    ∀ reports, t.reports? checker = some reports ↔
      ∃ visited, t.Walk t.root.toList visited ∧
        reports = visited.flatMap (t.reportsOf checker) :=
  ⟨Tree.acyclic_iff_exists_walk.symm, fun _ => Tree.reports?_eq_some_iff⟩

/-- An element that is its own child. -/
def ownChildTree : Tree where
  nodes := [.element { children := [0] }]
  root := some 0

theorem validation_of_ownChildTree_never_ends :
    Tree.parse? ownChildTree.render = some ownChildTree ∧
      (¬ ∃ visited, ownChildTree.Walk ownChildTree.root.toList visited) ∧
      ∀ checker, ownChildTree.reports? checker = none := by
  have hnames : ownChildTree.NamesDistinct := by
    intro e he
    obtain rfl := Node.element.inj (List.mem_singleton.mp he)
    exact ⟨List.nodup_nil, List.nodup_nil⟩
  have hchild : ownChildTree.Child 0 0 := ⟨{ children := [0] }, rfl, by simp⟩
  have hnone : ¬ ∃ visited, ownChildTree.Walk ownChildTree.root.toList visited := by
    intro hwalk
    exact Tree.acyclic_iff_exists_walk.mpr hwalk 0 rfl 0 .refl (.single hchild)
  refine ⟨Tree.parse?_render_of_settled hnames rfl, hnone, fun checker => ?_⟩
  rw [Option.eq_none_iff_forall_ne_some]
  intro reports hreports
  obtain ⟨visited, hwalk, -⟩ := Tree.reports?_eq_some_iff.mp hreports
  exact hnone ⟨visited, hwalk⟩

end Stencil
