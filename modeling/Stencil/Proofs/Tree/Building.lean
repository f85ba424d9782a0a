import Mathlib.Data.List.Nodup
import Stencil.Proofs.Tree.Update
import Stencil.Proofs.Validation.Walk

/-!
# Trees that are built call by call

Making a node a child checks nothing, so the calls that build a tree can hang a
node below itself.  They cannot do so below the root if each node is made a child
at most once and the root never is.

* `Tree.Linked` is what every call keeps: a child knows its parent, no parent
  lists it twice, and only nodes that were appended are listed;
* `Linked.acyclic`: then parents are unique, and a cycle that can be reached from
  the root would have to contain it;
* `Walk.nodup_of_linked`: for the same reason no node waits for its visit twice.
-/

namespace Stencil

open Relation

/-! ## What appending does to a node -/

namespace Node

theorem parent_withParent (node : Node) (parent : NodeId) :
    (node.withParent parent).parent = some parent := by
  cases node <;> rfl

theorem children_withParent (node : Node) (parent : NodeId) :
    (node.withParent parent).children = node.children := by
  cases node <;> rfl

/-- A node with a further child, if it is an element. -/
def adopt (child : NodeId) : Node → Node :=
  mapElement fun e => { e with children := e.children ++ [child] }

theorem parent_adopt (node : Node) (child : NodeId) : (node.adopt child).parent = node.parent := by
  cases node <;> rfl

theorem children_adopt (node : Node) (child : NodeId) :
    (node.adopt child).children = node.children ∨
      (node.adopt child).children = node.children ++ [child] := by
  cases node with
  | element e => exact .inr rfl
  | expression code tokens text span parent => exact .inl rfl
  | text text span parent => exact .inl rfl

/-- What becomes of the node at a position when `child` is appended to `parent`. -/
def relink (parent child : NodeId) (position : Nat) (node : Node) : Node :=
  let node := if child.toNat = position then node.withParent parent else node
  if parent.toNat = position then node.adopt child else node

theorem parent_relink (parent child : NodeId) (position : Nat) (node : Node) :
    (node.relink parent child position).parent =
      if child.toNat = position then some parent else node.parent := by
  unfold relink
  split_ifs <;> simp only [parent_adopt, parent_withParent]

theorem children_relink (parent child : NodeId) (position : Nat) (node : Node) :
    (node.relink parent child position).children = node.children ∨
      parent.toNat = position ∧
        (node.relink parent child position).children = node.children ++ [child] := by
  have hsame : (if child.toNat = position then node.withParent parent else node).children =
      node.children := by
    split_ifs
    · exact children_withParent node parent
    · rfl
  unfold relink
  dsimp only
  by_cases hparent : parent.toNat = position
  · rw [if_pos hparent, ← hsame]
    exact (children_adopt _ child).imp_right fun hadopt => ⟨hparent, hadopt⟩
  · rw [if_neg hparent]
    exact .inl hsame

end Node

/-! ## Calls -/

/-- A call that builds a tree.  A node that is pushed brings no children along. -/
inductive Edit where
  | createElement (tag : String) (attributes : List Attribute) (parent : Option NodeId)
  | push (node : Node) (hchildren : node.children = [])
  | appendChild (parent child : NodeId)
  | setRoot (root : NodeId)

namespace Tree

variable {t : Tree}

/-- A tree after one call. -/
def edit (t : Tree) : Edit → Tree
  | .createElement tag attributes parent => (t.createElement tag attributes parent).2
  | .push node _ => (t.push node).2
  | .appendChild parent child => t.appendChild parent child
  | .setRoot root => t.setRoot root

/-- The node that a call makes a child, if it exists by then. -/
def appendedBy (t : Tree) : Edit → List NodeId
  | .appendChild _ child => if (t.get? child).isSome then [child] else []
  | .createElement .. | .push .. | .setRoot _ => []

/-- A tree after some calls. -/
def editAll (t : Tree) (edits : List Edit) : Tree :=
  edits.foldl edit t

/-- The nodes that some calls make children, one entry for each time. -/
def appendedByAll (t : Tree) : List Edit → List NodeId
  | [] => []
  | edit :: edits => t.appendedBy edit ++ (t.edit edit).appendedByAll edits

/-! ## What a call does to the tree -/

theorem getElem?_appendChild {child : NodeId} (hchild : (t.get? child).isSome) (parent : NodeId)
    (position : Nat) :
    (t.appendChild parent child).nodes[position]? =
      t.nodes[position]?.map (Node.relink parent child position) := by
  obtain ⟨node, hnode⟩ := Option.isSome_iff_exists.mp hchild
  simp only [appendChild, hnode, modifyElement, modify, List.getElem?_modify, Option.map_eq_map,
    Option.map_map]
  rfl

theorem get?_appendChild {child id : NodeId} (hchild : (t.get? child).isSome) (parent : NodeId)
    {node : Node} (hnode : t.get? id = some node) :
    (t.appendChild parent child).get? id = some (node.relink parent child id.toNat) := by
  rw [get?, getElem?_appendChild hchild]
  exact Option.map_eq_some_iff.mpr ⟨node, hnode, rfl⟩

/-- The children of a node are those from before, and for one node also the child
that was appended. -/
theorem children_of_appendChild {parent child : NodeId} (hchild : (t.get? child).isSome)
    {position : Nat} {node : Node}
    (hnode : (t.appendChild parent child).nodes[position]? = some node) :
    ∃ old, t.nodes[position]? = some old ∧ (node.children = old.children ∨
      parent.toNat = position ∧ node.children = old.children ++ [child]) := by
  rw [getElem?_appendChild hchild] at hnode
  obtain ⟨old, hold, rfl⟩ := Option.map_eq_some_iff.mp hnode
  exact ⟨old, hold, old.children_relink parent child position⟩

theorem mem_children_of_appendChild {parent child c : NodeId} (hchild : (t.get? child).isSome)
    {position : Nat} {node : Node}
    (hnode : (t.appendChild parent child).nodes[position]? = some node) (hc : c ∈ node.children) :
    (∃ old, t.nodes[position]? = some old ∧ c ∈ old.children) ∨
      parent.toNat = position ∧ c = child := by
  obtain ⟨old, hold, hsame | ⟨hposition, hmore⟩⟩ := children_of_appendChild hchild hnode
  · exact .inl ⟨old, hold, hsame ▸ hc⟩
  · rw [hmore, List.mem_append, List.mem_singleton] at hc
    exact hc.imp (fun hc => ⟨old, hold, hc⟩) fun heq => ⟨hposition, heq⟩

/-! ## What calls keep -/

/-- The children in a tree were appended, know their parents, and are listed once
by them. -/
structure Linked (t : Tree) (appended : List NodeId) : Prop where
  exists_parent : ∀ {position : Nat} {node : Node} {child : NodeId},
    t.nodes[position]? = some node → child ∈ node.children →
      ∃ c parent, t.get? child = some c ∧ c.parent = some parent ∧ parent.toNat = position
  nodup : ∀ {position : Nat} {node : Node}, t.nodes[position]? = some node → node.children.Nodup
  mem_appended : ∀ {position : Nat} {node : Node} {child : NodeId},
    t.nodes[position]? = some node → child ∈ node.children → child ∈ appended

theorem linked_empty : Linked {} [] where
  exists_parent hnode := by simp at hnode
  nodup hnode := by simp at hnode
  mem_appended hnode := by simp at hnode

theorem Linked.push {appended : List NodeId} (h : t.Linked appended) {node : Node}
    (hchildren : node.children = []) : (t.push node).2.Linked appended := by
  -- The new node has no children, and the old ones stand where they stood.
  have hold : ∀ {position : Nat} {other : Node}, (t.push node).2.nodes[position]? = some other →
      t.nodes[position]? = some other ∨ other.children = [] := by
    intro position other hother
    rw [Tree.push, List.getElem?_append] at hother
    split_ifs at hother with hlt
    · exact .inl hother
    · have hmem := List.mem_of_getElem? hother
      rw [List.mem_singleton.mp hmem]
      exact .inr hchildren
  refine ⟨fun hother hchild => ?_, fun hother => ?_, fun hother hchild => ?_⟩
  · rcases hold hother with hother | hnone
    · obtain ⟨c, parent, hc, hparent, hposition⟩ := h.exists_parent hother hchild
      have hlt := (List.getElem?_eq_some_iff.mp hc).1
      refine ⟨c, parent, ?_, hparent, hposition⟩
      rw [get?, Tree.push, List.getElem?_append_left hlt]
      exact hc
    · rw [hnone] at hchild
      exact absurd hchild List.not_mem_nil
  · rcases hold hother with hother | hnone
    · exact h.nodup hother
    · rw [hnone]
      exact List.nodup_nil
  · rcases hold hother with hother | hnone
    · exact h.mem_appended hother hchild
    · rw [hnone] at hchild
      exact absurd hchild List.not_mem_nil

theorem Linked.appendChild {appended : List NodeId} (h : t.Linked appended) {child : NodeId}
    (hchild : (t.get? child).isSome) (hfresh : child ∉ appended) (parent : NodeId) :
    (t.appendChild parent child).Linked (appended ++ [child]) := by
  refine ⟨fun {position node c} hnode hc => ?_, fun {position node} hnode => ?_,
    fun {position node c} hnode hc => ?_⟩
  · rcases mem_children_of_appendChild hchild hnode hc with ⟨old, hold, hc⟩ | ⟨hposition, rfl⟩
    · -- Another child was appended before, so that its link is left alone.
      obtain ⟨before, link, hbefore, hlink, hposition⟩ := h.exists_parent hold hc
      have hne : child.toNat ≠ c.toNat := by
        intro heq
        rw [UInt32.toNat_inj.mp heq] at hfresh
        exact hfresh (h.mem_appended hold hc)
      refine ⟨_, link, get?_appendChild hchild parent hbefore, ?_, hposition⟩
      rw [Node.parent_relink, if_neg hne, hlink]
    · obtain ⟨before, hbefore⟩ := Option.isSome_iff_exists.mp hchild
      refine ⟨_, parent, get?_appendChild hchild parent hbefore, ?_, hposition⟩
      rw [Node.parent_relink, if_pos rfl]
  · obtain ⟨old, hold, hsame | ⟨-, hmore⟩⟩ := children_of_appendChild hchild hnode
    · rw [hsame]
      exact h.nodup hold
    · rw [hmore, List.nodup_append]
      refine ⟨h.nodup hold, List.nodup_singleton child, fun a ha b hb => ?_⟩
      rw [List.mem_singleton.mp hb]
      rintro rfl
      exact hfresh (h.mem_appended hold ha)
  · rw [List.mem_append, List.mem_singleton]
    rcases mem_children_of_appendChild hchild hnode hc with ⟨old, hold, hc⟩ | ⟨-, heq⟩
    · exact .inl (h.mem_appended hold hc)
    · exact .inr heq

/-- One call keeps the links as long as it appends no node for a second time. -/
theorem Linked.edit {appended : List NodeId} (h : t.Linked appended) (edit : Edit)
    (honce : (appended ++ t.appendedBy edit).Nodup) :
    (t.edit edit).Linked (appended ++ t.appendedBy edit) := by
  cases edit with
  | createElement tag attributes parent =>
      rw [appendedBy, List.append_nil]
      exact h.push rfl
  | push node hchildren =>
      rw [appendedBy, List.append_nil]
      exact h.push hchildren
  | appendChild parent child =>
      rw [appendedBy] at honce ⊢
      split_ifs at honce ⊢ with hchild
      · have hfresh : child ∉ appended := fun hmem =>
          (List.nodup_append.mp honce).2.2 child hmem child (List.mem_singleton_self child) rfl
        exact h.appendChild hchild hfresh parent
      · have hnone : t.get? child = none := Option.not_isSome_iff_eq_none.mp hchild
        have hsame : t.edit (.appendChild parent child) = t := by
          rw [Tree.edit, Tree.appendChild, hnone]
        rw [List.append_nil, hsame]
        exact h
  | setRoot root =>
      rw [appendedBy, List.append_nil]
      exact ⟨h.exists_parent, h.nodup, h.mem_appended⟩

theorem Linked.editAll {appended : List NodeId} (h : t.Linked appended) (edits : List Edit)
    (honce : (appended ++ t.appendedByAll edits).Nodup) :
    (t.editAll edits).Linked (appended ++ t.appendedByAll edits) := by
  induction edits generalizing t appended with
  | nil =>
      rw [appendedByAll, List.append_nil]
      exact h
  | cons edit edits ih =>
      rw [appendedByAll, ← List.append_assoc] at honce ⊢
      exact ih (h.edit edit honce.of_append_left) honce

/-! ## What links say of a walk -/

theorem Linked.parent_unique {appended : List NodeId} (h : t.Linked appended)
    {parent parent' child : NodeId} (hchild : t.Child parent child)
    (hchild' : t.Child parent' child) : parent = parent' := by
  obtain ⟨e, helement, hmem⟩ := hchild
  obtain ⟨e', helement', hmem'⟩ := hchild'
  obtain ⟨c, link, hc, hlink, hposition⟩ :=
    h.exists_parent (element?_eq_some_iff.mp helement) hmem
  obtain ⟨c', link', hc', hlink', hposition'⟩ :=
    h.exists_parent (element?_eq_some_iff.mp helement') hmem'
  obtain rfl : c = c' := Option.some.inj (hc.symm.trans hc')
  obtain rfl : link = link' := Option.some.inj (hlink.symm.trans hlink')
  exact UInt32.toNat_inj.mp (hposition.symm.trans hposition')

theorem Linked.not_child {appended : List NodeId} (h : t.Linked appended) {id : NodeId}
    (hid : id ∉ appended) (parent : NodeId) : ¬ t.Child parent id := by
  rintro ⟨e, helement, hmem⟩
  exact hid (h.mem_appended (element?_eq_some_iff.mp helement) hmem)

theorem Linked.nodup_childrenAt {appended : List NodeId} (h : t.Linked appended) (id : NodeId) :
    (t.childrenAt id).Nodup := by
  unfold childrenAt
  cases hnode : t.get? id with
  | none => exact List.nodup_nil
  | some node => exact h.nodup hnode

/-- No node is listed twice in the whole tree: one parent lists it once, and two
parents would both be its only parent. -/
theorem Linked.nodup_listed {appended : List NodeId} (h : t.Linked appended) :
    (t.nodes.flatMap Node.children).Nodup := by
  rw [List.nodup_flatMap]
  constructor
  · intro node hnode
    obtain ⟨position, hposition⟩ := List.mem_iff_getElem?.mp hnode
    exact h.nodup hposition
  · rw [List.pairwise_iff_getElem]
    intro i j hi hj hlt child hchild hchild'
    obtain ⟨c, parent, hc, hparent, hposition⟩ :=
      h.exists_parent (List.getElem?_eq_getElem hi) hchild
    obtain ⟨c', parent', hc', hparent', hposition'⟩ :=
      h.exists_parent (List.getElem?_eq_getElem hj) hchild'
    obtain rfl : c = c' := Option.some.inj (hc.symm.trans hc')
    obtain rfl : parent = parent' := Option.some.inj (hparent.symm.trans hparent')
    omega

/-- A cycle that can be reached from the root comes back to the node on the way
that is nearer to the root, and so to the root, which has no parent. -/
theorem Linked.acyclic {appended : List NodeId} (h : t.Linked appended)
    (hroot : ∀ root, t.root = some root → root ∉ appended) : t.Acyclic := by
  intro root hr node hreach hcycle
  induction hreach with
  | refl =>
      obtain ⟨parent, -, hchild⟩ := TransGen.tail'_iff.mp hcycle
      exact h.not_child (hroot root hr) parent hchild
  | tail _ hchild ih =>
      obtain ⟨last, hback, hlast⟩ := TransGen.tail'_iff.mp hcycle
      obtain rfl := h.parent_unique hlast hchild
      exact ih (TransGen.head' hchild hback)

/-- Nodes that were visited or wait stay distinct: all but the root have got there
from a node that was visited, and from no other one. -/
theorem Walk.nodup_of_linked {appended : List NodeId} (h : t.Linked appended) {root : NodeId}
    (hroot : root ∉ appended) {seen waiting visited : List NodeId} (hwalk : t.Walk waiting visited)
    (hnodup : (seen ++ waiting).Nodup)
    (hreached : ∀ id ∈ seen ++ waiting, id = root ∨ ∃ parent ∈ seen, t.Child parent id) :
    (seen ++ visited).Nodup := by
  induction hwalk generalizing seen with
  | done => exact hnodup
  | @visit id waiting visited _ ih =>
      have hseen : id ∉ seen := fun hmem =>
        (List.nodup_append.mp hnodup).2.2 id hmem id List.mem_cons_self rfl
      have hfresh : ∀ child ∈ t.childrenAt id, child ∉ seen ++ id :: waiting := by
        intro child hmem hold
        have hchild := mem_childrenAt_iff.mp hmem
        rcases hreached child hold with rfl | ⟨parent, hparent, hother⟩
        · exact h.not_child hroot id hchild
        · exact hseen (h.parent_unique hother hchild ▸ hparent)
      have hperm : (seen ++ [id] ++ (t.childrenAt id ++ waiting)).Perm
          (t.childrenAt id ++ (seen ++ id :: waiting)) := by
        rw [List.append_cons seen id waiting, ← List.append_assoc, ← List.append_assoc]
        exact List.perm_append_comm.append_right waiting
      have hnext : (seen ++ [id] ++ (t.childrenAt id ++ waiting)).Nodup := by
        rw [hperm.nodup_iff, List.nodup_append]
        exact ⟨h.nodup_childrenAt id, hnodup, fun child hmem other hother heq =>
          hfresh child hmem (heq ▸ hother)⟩
      have hvisited := ih hnext ?_
      · rwa [List.append_assoc, List.singleton_append] at hvisited
      · intro other hother
        rw [hperm.mem_iff, List.mem_append] at hother
        rcases hother with hchild | hold
        · exact .inr ⟨id, by simp, mem_childrenAt_iff.mp hchild⟩
        · refine (hreached other hold).imp_right ?_
          rintro ⟨parent, hparent, hchild⟩
          exact ⟨parent, List.mem_append_left _ hparent, hchild⟩

end Tree

/-- **Trees that are built call by call are safe to walk.**  Start from the empty
tree, make each node a child at most once, and never the root.  Then every child
in a list of children has the element with this list as its parent, no node
stands in these lists twice, and the walk of the validator from the root comes to
an end and visits no node twice. -/
theorem built_tree_safe_to_walk (edits : List Edit) (checker : Checker)
    (honce : (Tree.appendedByAll {} edits).Nodup)
    (hroot : ∀ root, (Tree.editAll {} edits).root = some root →
      root ∉ Tree.appendedByAll {} edits) :
    let t := Tree.editAll {} edits
    (∀ (position : Nat) (e : Element) (child : NodeId),
      t.nodes[position]? = some (.element e) → child ∈ e.children →
        ∃ node parent, t.get? child = some node ∧ node.parent = some parent ∧
          parent.toNat = position) ∧
    (t.nodes.flatMap Node.children).Nodup ∧
    ∃ visited, t.Walk t.root.toList visited ∧ visited.Nodup ∧
      t.reports? checker = some (visited.flatMap (t.reportsOf checker)) := by
  intro t
  have hlinked : t.Linked (Tree.appendedByAll {} edits) :=
    Tree.linked_empty.editAll edits honce
  obtain ⟨visited, hwalk⟩ := Tree.acyclic_iff_exists_walk.mp (hlinked.acyclic hroot)
  refine ⟨fun position e child hnode hchild => hlinked.exists_parent hnode hchild,
    hlinked.nodup_listed, visited, hwalk, ?_, Tree.reports?_eq_some_iff.mpr ⟨visited, hwalk, rfl⟩⟩
  cases hroot' : t.root with
  | none =>
      rw [hroot'] at hwalk
      cases hwalk
      exact List.nodup_nil
  | some root =>
      rw [hroot'] at hwalk
      have hstart : ∀ id ∈ [] ++ [root], id = root ∨ ∃ parent ∈ [], t.Child parent id :=
        fun id hid => .inl (List.mem_singleton.mp hid)
      exact hwalk.nodup_of_linked hlinked (hroot root hroot') (List.nodup_singleton root) hstart

/-- Calls that hang two elements below each other, beside a root with a text. -/
def entangledEdits : List Edit :=
  [.createElement "div" [] none, .createElement "p" [] none, .createElement "p" [] none,
    .push (.text "a" none none) rfl, .setRoot 0, .appendChild 0 3, .appendChild 1 2,
    .appendChild 2 1]

theorem built_tree_safe_to_walk_entangled :
    TransGen (Tree.editAll {} entangledEdits).Child 1 1 ∧
    ((Tree.editAll {} entangledEdits).nodes.flatMap Node.children).Nodup ∧
    ∃ visited, (Tree.editAll {} entangledEdits).Walk [0] visited ∧ visited.Nodup := by
  have hdown : (Tree.editAll {} entangledEdits).Child 1 2 :=
    ⟨_, rfl, List.mem_singleton_self 2⟩
  have hup : (Tree.editAll {} entangledEdits).Child 2 1 :=
    ⟨_, rfl, List.mem_singleton_self 1⟩
  have hroot : ∀ root, (Tree.editAll {} entangledEdits).root = some root →
      root ∉ Tree.appendedByAll {} entangledEdits := by
    intro root hroot
    obtain rfl : 0 = root := Option.some.inj hroot
    decide
  obtain ⟨-, hlisted, visited, hwalk, hnodup, -⟩ :=
    built_tree_safe_to_walk entangledEdits .refusing (by decide) hroot
  exact ⟨.tail (.single hdown) hup, hlisted, visited, hwalk, hnodup⟩

end Stencil
