import Mathlib.Data.List.Nodup
import Mathlib.Data.List.Perm.Subperm
import Mathlib.Data.List.Range
import Mathlib.Logic.Relation
import Stencil.Tree.Basic

/-!
# Trees without cycles

Nodes refer to their children by position, so nothing in the type of a tree
keeps a node from hanging below itself.  `Tree.AcyclicBelow` says that this does
not happen below a given node; positions may still dangle, and a node may hang
under several parents or several times under one.

The fact that walks need is `length_le_of_ancestors`: a list of distinct
ancestors of a node is no longer than the list of nodes, because every ancestor
is an element of the tree.
-/

namespace Stencil.Tree

open Relation

variable {t : Tree}

/-- The element at `parent` lists `child` among its children. -/
def Child (t : Tree) (parent child : NodeId) : Prop :=
  ∃ e, t.element? parent = some e ∧ child ∈ e.children

/-- No node that can be reached from a node through child links is below
itself. -/
def AcyclicBelow (t : Tree) (id : NodeId) : Prop :=
  ∀ node, ReflTransGen t.Child id node → ¬ TransGen t.Child node node

/-- No node that can be reached from the root is below itself. -/
def Acyclic (t : Tree) : Prop :=
  ∀ root, t.root = some root → t.AcyclicBelow root

theorem AcyclicBelow.child {id child : NodeId} (hacyclic : t.AcyclicBelow id)
    (hchild : t.Child id child) : t.AcyclicBelow child :=
  fun node hreach => hacyclic node (ReflTransGen.head hchild hreach)

theorem AcyclicBelow.not_mem {id : NodeId} {ancestors : List NodeId}
    (hacyclic : t.AcyclicBelow id) (hancestors : ∀ a ∈ ancestors, TransGen t.Child a id) :
    id ∉ ancestors :=
  fun hmem => hacyclic id .refl (hancestors id hmem)

theorem lt_length_of_get? {id : NodeId} {node : Node} (hnode : t.get? id = some node) :
    id.toNat < t.nodes.length :=
  (List.getElem?_eq_some_iff.mp hnode).1

theorem Child.lt_length {parent child : NodeId} (hchild : t.Child parent child) :
    parent.toNat < t.nodes.length := by
  obtain ⟨e, helement, -⟩ := hchild
  obtain ⟨node, hnode, -⟩ := Option.bind_eq_some_iff.mp helement
  exact lt_length_of_get? hnode

/-- There are no more ancestors of a node than nodes. -/
theorem length_le_of_ancestors {id : NodeId} {ancestors : List NodeId} (hnodup : ancestors.Nodup)
    (hancestors : ∀ a ∈ ancestors, TransGen t.Child a id) :
    ancestors.length ≤ t.nodes.length := by
  have hpositions : (ancestors.map UInt32.toNat).Nodup :=
    hnodup.map fun _ _ hposition => UInt32.toNat_inj.mp hposition
  have hsubset : ancestors.map UInt32.toNat ⊆ List.range t.nodes.length := by
    intro position hposition
    obtain ⟨a, ha, rfl⟩ := List.mem_map.mp hposition
    obtain ⟨next, hnext, -⟩ := TransGen.head'_iff.mp (hancestors a ha)
    exact List.mem_range.mpr hnext.lt_length
  simpa using (List.subperm_of_subset hpositions hsubset).length_le

/-- A tree is acyclic if every child stands behind its parent in the list of
nodes. -/
theorem acyclic_of_child_gt (hbehind : ∀ parent child, t.Child parent child → parent < child) :
    t.Acyclic := by
  intro root _ node _ hcycle
  have hlt : ∀ {a b : NodeId}, TransGen t.Child a b → a < b := by
    intro a b hpath
    induction hpath with
    | single hchild => exact hbehind _ _ hchild
    | tail _ hchild ih => exact UInt32.lt_trans ih (hbehind _ _ hchild)
  exact UInt32.lt_irrefl node (hlt hcycle)

end Stencil.Tree
