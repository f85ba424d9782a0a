import Mathlib.Data.List.Basic
import Stencil.Processing
import Stencil.Proofs.Span

/-!
# Changing one element of a tree

Every pass works on the element at one position.  The lemmas of this file let
proofs about a pass forget the tree around that element:

* changes at one position compose (`modifyElement_modifyElement`,
  `updateElement_updateElement`), and
* a change at the position of a node that was just added is the same as adding
  the changed node (`modifyElement_append`, `updateElement_push`).

No change makes an element something else (`KeepsElements`).
-/

namespace Stencil

namespace Tree

variable {t t' t'' : Tree} {id : NodeId} {e : Element}

theorem element?_eq_some_iff : t.element? id = some e ↔ t.get? id = some (.element e) := by
  constructor
  · intro helement
    obtain ⟨node, hnode, he⟩ := Option.bind_eq_some_iff.mp helement
    cases node with
    | element _ =>
        obtain rfl := Option.some.inj he
        exact hnode
    | expression _ _ _ _ _ => exact nomatch he
    | text _ _ _ => exact nomatch he
  · intro hnode
    rw [element?, hnode]
    rfl

theorem lt_length_of_element? (helement : t.element? id = some e) :
    id.toNat < t.nodes.length :=
  (List.getElem?_eq_some_iff.mp (element?_eq_some_iff.mp helement)).1

/-! ## Changes at one position -/

theorem modifyElement_eq_set (helement : t.element? id = some e) (f : Element → Element) :
    t.modifyElement id f = { t with nodes := t.nodes.set id.toNat (.element (f e)) } := by
  have hnode : t.nodes[id.toNat]? = some (.element e) := element?_eq_some_iff.mp helement
  unfold modifyElement modify
  congr 1
  rw [List.modify_eq_set_getElem?, hnode]
  rfl

theorem element?_modifyElement (helement : t.element? id = some e) (f : Element → Element) :
    (t.modifyElement id f).element? id = some (f e) := by
  rw [modifyElement_eq_set helement, element?_eq_some_iff]
  exact List.getElem?_set_self (lt_length_of_element? helement)

theorem modifyElement_modifyElement (t : Tree) (id : NodeId) (f g : Element → Element) :
    (t.modifyElement id f).modifyElement id g = t.modifyElement id fun e => g (f e) := by
  unfold modifyElement modify
  congr 1
  rw [List.modify_modify_eq]
  congr 1
  funext node
  cases node <;> rfl

theorem modifyElement_const_self (helement : t.element? id = some e) :
    (t.modifyElement id fun _ => e) = t := by
  rw [modifyElement_eq_set helement]
  have hnode : t.nodes[id.toNat]? = some (.element e) := element?_eq_some_iff.mp helement
  obtain ⟨hlt, hget⟩ := List.getElem?_eq_some_iff.mp hnode
  rw [← hget, List.set_getElem_self]

theorem modifyElement_const_eq_self_iff {e' : Element} (helement : t.element? id = some e) :
    (t.modifyElement id fun _ => e') = t ↔ e' = e := by
  constructor
  · intro heq
    have hmodified := element?_modifyElement helement fun _ => e'
    rw [heq, helement] at hmodified
    exact (Option.some.inj hmodified).symm
  · rintro rfl
    exact modifyElement_const_self helement

theorem modifyElement_self (t : Tree) (place : NodeId) :
    (t.modifyElement place fun e => e) = t := by
  have hid : (Node.mapElement fun e => e) = id := by
    funext node
    cases node <;> rfl
  unfold modifyElement modify
  rw [hid, List.modify_id]

theorem updateElement_of_element? (helement : t.element? id = some e)
    (f : Element → Reported Element) :
    t.updateElement id f = (f e >>= fun e => pure (t.modifyElement id fun _ => e)) := by
  simp only [updateElement, helement]

theorem updateElement_pure (t : Tree) (id : NodeId) : t.updateElement id pure = pure t := by
  cases helement : t.element? id with
  | none => simp only [updateElement, helement]
  | some e => rw [updateElement_of_element? helement, pure_bind, modifyElement_const_self helement]

theorem updateElement_updateElement (t : Tree) (id : NodeId) (f g : Element → Reported Element) :
    (t.updateElement id f >>= fun t => t.updateElement id g) =
      t.updateElement id fun e => f e >>= g := by
  cases helement : t.element? id with
  | none => simp only [updateElement, helement, pure_bind]
  | some e =>
      rw [updateElement_of_element? helement, updateElement_of_element? helement, bind_assoc,
        bind_assoc]
      congr 1
      funext changed
      rw [pure_bind, updateElement_of_element? (element?_modifyElement helement _)]
      simp only [modifyElement_modifyElement]

/-! ## New nodes -/

theorem toNat_nextId (hroom : t.nodes.length < UInt32.size) :
    t.nextId.toNat = t.nodes.length :=
  toNat_offsetOfNat hroom

@[simp] theorem fst_push (t : Tree) (node : Node) : (t.push node).1 = t.nextId := rfl

@[simp] theorem length_push (t : Tree) (node : Node) :
    (t.push node).2.nodes.length = t.nodes.length + 1 := by
  simp [push]

theorem element?_append (hroom : t.nodes.length < UInt32.size) (e : Element) (later : List Node) :
    ({ t with nodes := t.nodes ++ .element e :: later } : Tree).element? t.nextId = some e := by
  rw [element?_eq_some_iff, get?, toNat_nextId hroom]
  exact List.getElem?_append_right (Nat.le_refl _) |>.trans (by simp)

/-- Behind the nodes of a tree stand those that were added. -/
theorem element?_append_of_getElem? {later : List Node} {k : Nat}
    (hroom : t.nodes.length + k < UInt32.size) (hnode : later[k]? = some (.element e)) :
    ({ t with nodes := t.nodes ++ later } : Tree).element? (offsetOfNat (t.nodes.length + k)) =
      some e := by
  rw [element?_eq_some_iff, get?, toNat_offsetOfNat hroom]
  calc (t.nodes ++ later)[t.nodes.length + k]?
      = later[t.nodes.length + k - t.nodes.length]? :=
        List.getElem?_append_right (Nat.le_add_right _ _)
    _ = later[k]? := by rw [Nat.add_sub_cancel_left]
    _ = some (.element e) := hnode

/-- Changing the first of some new nodes is adding the changed node. -/
theorem modifyElement_append (hroom : t.nodes.length < UInt32.size) (e : Element)
    (later : List Node) (f : Element → Element) :
    ({ t with nodes := t.nodes ++ .element e :: later } : Tree).modifyElement t.nextId f =
      { t with nodes := t.nodes ++ .element (f e) :: later } := by
  rw [modifyElement_eq_set (element?_append hroom e later), toNat_nextId hroom]
  simp

theorem element?_push (hroom : t.nodes.length < UInt32.size) (e : Element) :
    (t.push (.element e)).2.element? t.nextId = some e :=
  element?_append hroom e []

theorem modifyElement_push (hroom : t.nodes.length < UInt32.size) (e : Element)
    (f : Element → Element) :
    (t.push (.element e)).2.modifyElement t.nextId f = (t.push (.element (f e))).2 :=
  modifyElement_append hroom e [] f

theorem updateElement_push (hroom : t.nodes.length < UInt32.size) (e : Element)
    (f : Element → Reported Element) :
    (t.push (.element e)).2.updateElement t.nextId f =
      (f e >>= fun e => pure (t.push (.element e)).2) := by
  rw [updateElement_of_element? (element?_push hroom e)]
  simp only [modifyElement_push hroom]

/-! ## Elements stay elements -/

/-- What is an element in one tree is an element in another one. -/
def KeepsElements (t t' : Tree) : Prop :=
  ∀ id, (t.element? id).isSome → (t'.element? id).isSome

theorem KeepsElements.refl (t : Tree) : t.KeepsElements t := fun _ hsome => hsome

theorem KeepsElements.trans (hfirst : t.KeepsElements t') (hsecond : t'.KeepsElements t'') :
    t.KeepsElements t'' :=
  fun id hsome => hsecond id (hfirst id hsome)

theorem keepsElements_modifyElement (t : Tree) (id : NodeId) (f : Element → Element) :
    t.KeepsElements (t.modifyElement id f) := by
  intro other hsome
  obtain ⟨e, he⟩ := Option.isSome_iff_exists.mp hsome
  have hnode : t.nodes[other.toNat]? = some (.element e) := element?_eq_some_iff.mp he
  unfold element? get? modifyElement modify
  rw [List.getElem?_modify, hnode]
  by_cases hid : id.toNat = other.toNat
  · simp [hid, Node.mapElement, Node.element?]
  · simp [hid, Node.element?]

theorem keepsElements_push (t : Tree) (node : Node) : t.KeepsElements (t.push node).2 := by
  intro id hsome
  obtain ⟨e, he⟩ := Option.isSome_iff_exists.mp hsome
  have hlt : id.toNat < t.nodes.length := lt_length_of_element? he
  have hkept : (t.push node).2.element? id = some e := by
    rw [element?_eq_some_iff] at he ⊢
    exact (List.getElem?_append_left hlt).trans he
  rw [hkept]
  rfl

theorem keepsElements_updateElement (t : Tree) (id : NodeId) (f : Element → Reported Element) :
    t.KeepsElements (t.updateElement id f).value := by
  cases helement : t.element? id with
  | none =>
      simp only [updateElement, helement, Reported.value_pure]
      exact .refl t
  | some e =>
      rw [updateElement_of_element? helement]
      exact keepsElements_modifyElement t id _

end Tree

end Stencil
