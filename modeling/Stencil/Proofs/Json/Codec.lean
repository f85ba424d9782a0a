import Mathlib.Data.List.Perm.Basic
import Stencil.Json.Codec
import Stencil.Proofs.Dict.Table
import Stencil.Proofs.Json.Text
import Stencil.Proofs.Traversal

/-!
# A stored tree is read back

`Tree.parse?` undoes `Tree.render`, up to the order of the sources of elements,
which are put into their hash tables again.  The argument has two halves, which
meet at the JSON value of a tree:

* every record is read from the object that it is written as (`ofJson?_toJson`),
  whether or not it has a span, a condition or a parent;
* every such object is `Storable`, so its text is read back as the same object.

Only the names of a dictionary can spoil this.  An object may repeat a name and a
dictionary that is read from it does not, so the trees that come back are those
whose elements have distinct names (`Tree.NamesDistinct`), and all trees that were
ever read are among them.

The order of the sources does show in the text.  Two names that ask for one slot
change places whenever they are read and written (`crossing_sources_swap`), so
that a text which was written need not be written again.
-/

namespace Stencil

/-! ## Values are read from what is written of them -/

namespace Json

variable {α : Type} {write : α → Json} {read? : Json → Option α}

@[simp] theorem string?_string (text : String) : string? (.string text) = some text := by
  rw [string?]

@[simp] theorem bool?_bool (b : Bool) : bool? (.bool b) = some b := by
  rw [bool?]

@[simp] theorem word?_word (n : UInt32) : word? (word n) = some n := by
  have hsize : n.toNat < UInt32.size := n.toNat_lt
  simp [word?, word, nat, hsize]

@[simp] theorem word_ne_null (n : UInt32) : word n ≠ .null := nofun

/-- A missing value is written as `null`, which must not stand for another value. -/
@[simp] theorem option?_option (hread : ∀ a, read? (write a) = some a)
    (hnull : ∀ a, write a ≠ .null) (a : Option α) : option? read? (option write a) = some a := by
  cases a with
  | none => rfl
  | some a =>
      rw [option, option?, hread, Option.map_some]
      exact hnull a

@[simp] theorem list?_list {items : List α} (hread : ∀ a ∈ items, read? (write a) = some a) :
    list? read? (list write items) = some items :=
  mapM_map_eq_some hread

theorem pairs?_dict (hread : ∀ a, read? (write a) = some a) (d : Dict α) :
    pairs? read? (dict write d) = some d.entries := by
  apply mapM_map_eq_some
  rintro ⟨name, value⟩ -
  simp only [hread, Option.map_some]

@[simp] theorem dict?_dict (hread : ∀ a, read? (write a) = some a) {d : Dict α}
    (hnodup : d.names.Nodup) : dict? read? (dict write d) = some d := by
  rw [dict?, pairs?_dict hread, Option.map_some, Dict.ofList_entries hnodup]

@[simp] theorem table?_dict (hread : ∀ a, read? (write a) = some a) (d : Dict α) :
    table? read? (dict write d) = some (Dict.scatter d.entries) := by
  rw [table?, pairs?_dict hread, Option.map_some]

/-- A dictionary shows all of its entries, in their order. -/
theorem dict_injective (hread : ∀ a, read? (write a) = some a) {d d' : Dict α}
    (hdict : dict write d = dict write d') : d = d' := by
  have hpairs := congrArg (pairs? read?) hdict
  rw [pairs?_dict hread, pairs?_dict hread] at hpairs
  exact congrArg Dict.mk (Option.some.inj hpairs)

end Json

/-! ## Fields are found under their names -/

namespace Fields

/-- An object is read as the record of its fields if these are some of the known
ones in their order. -/
@[simp] theorem read?_object {names : List String} {fields : List (String × Json)}
    (hnames : (fields.map Prod.fst).Sublist names) (hnodup : names.Nodup) :
    Fields.read? names (.object fields) = some ⟨false, fields⟩ := by
  have hknown : fields.filter (fun field => names.contains field.1) = fields := by
    rw [List.filter_eq_self]
    intro field hfield
    exact List.contains_iff_mem.mpr (hnames.subset (List.mem_map_of_mem hfield))
  rw [Fields.read?, hknown, if_pos (hnodup.sublist hnames)]

variable {α : Type} (positional : Bool) (key name : String) (value : Json)
  (entries : List (String × Json)) (default : α) (read? : Json → Option α)

@[simp] theorem required_cons :
    (⟨positional, (key, value) :: entries⟩ : Fields).required name read? =
      if name = key then read? value
      else (⟨positional, entries⟩ : Fields).required name read? := by
  rw [required, Dict.lookup_cons_eq_ite]
  split_ifs <;> rfl

@[simp] theorem defaulted_cons :
    (⟨positional, (key, value) :: entries⟩ : Fields).defaulted name default read? =
      if name = key then read? value
      else (⟨positional, entries⟩ : Fields).defaulted name default read? := by
  rw [defaulted, Dict.lookup_cons_eq_ite]
  split_ifs <;> rfl

@[simp] theorem defaulted_nil :
    (⟨positional, []⟩ : Fields).defaulted name default read? = some default := rfl

end Fields

/-! ## Records are read from their objects -/

@[simp] theorem Span.ofJson?_toJson (s : Span) : ofJson? s.toJson = some s := by
  simp [ofJson?, toJson]

/-- A span is never written as `null`. -/
@[simp] theorem Span.option?_toJson (s : Span) :
    Json.option? ofJson? s.toJson = some (some s) := by
  change (ofJson? s.toJson).map some = _
  rw [ofJson?_toJson, Option.map_some]

-- A record with a span has one field more than a record without, so these are two cases.
@[simp] theorem Attribute.ofJson?_toJson (a : Attribute) : ofJson? a.toJson = some a := by
  obtain ⟨name, value, span⟩ := a
  cases span <;> simp [ofJson?, toJson, Span.field, Span.read?]

@[simp] theorem Branch.ofJson?_toJson (b : Branch) : ofJson? b.toJson = some b := by
  simp [ofJson?, toJson]

@[simp] theorem Binding.ofJson?_toJson (b : Binding) : ofJson? b.toJson = some b := by
  obtain ⟨name, value, dynamic, span⟩ := b
  cases span <;> simp [ofJson?, toJson, Span.field, Span.read?]

@[simp] theorem EventBinding.ofJson?_toJson (b : EventBinding) : ofJson? b.toJson = some b := by
  obtain ⟨name, value, modifiers, dynamic, span⟩ := b
  cases span <;> simp [ofJson?, toJson, Span.field, Span.read?]

@[simp] theorem DirectiveBinding.ofJson?_toJson (b : DirectiveBinding) :
    ofJson? b.toJson = some b := by
  obtain ⟨name, rawName, value, argument, dynamicArgument, modifiers, span⟩ := b
  cases span <;> simp [ofJson?, toJson, Span.field, Span.read?]

@[simp] theorem Interpolation.Token.ofJson?_toJson (token : Token) :
    ofJson? token.toJson = some token := by
  cases token <;> simp [ofJson?, toJson]

namespace Element

/-- The dictionaries of an element have distinct names. -/
structure NamesDistinct (e : Element) : Prop where
  written : e.written.names.Nodup
  sources : e.sources.names.Nodup

theorem names_fields_sublist (e : Element) : (e.fields.map Prod.fst).Sublist fieldNames := by
  obtain ⟨_, _, _, _, _, _, span, _⟩ := e
  cases span <;> simp [fields, fieldNames, Span.field]

theorem nodup_fieldNames : fieldNames.Nodup := by
  simp [fieldNames]

/-- An element whose sources have been put into a hash table again. -/
def settled (e : Element) : Element :=
  { e with sources := Dict.scatter e.sources.entries }

theorem ofJson?_fields {e : Element} (hwritten : e.written.names.Nodup) :
    ofJson? (.object e.fields) = some e.settled := by
  rw [ofJson?, Fields.read?_object e.names_fields_sublist nodup_fieldNames, Option.bind_eq_bind,
    Option.bind_some]
  -- The fields are read one after the other, and their values make up the element.
  repeat apply bind_eq_some_of
  · rfl
  all_goals
    obtain ⟨_, _, _, _, _, _, span, _⟩ := e
    cases span <;> simp [fields, Span.field, Span.read?, hwritten]

end Element

/-! ## What is written can be stored -/

namespace Json

variable {α : Type} {write : α → Json} {n : Nat}

attribute [simp] Storable.null Storable.bool Storable.string

@[simp] theorem storable_word (k : UInt32) : Storable n (word k) := .word n k

@[simp] theorem storable_object_iff {fields : List (String × Json)} :
    Storable (n + 1) (.object fields) ↔ ∀ field ∈ fields, Storable n field.2 := by
  constructor
  · intro hstorable
    cases hstorable with
    | object hfields => exact hfields
  · exact .object

@[simp] theorem storable_option (hwrite : ∀ a, Storable n (write a)) (a : Option α) :
    Storable n (option write a) := by
  cases a with
  | none => exact .null n
  | some a => exact hwrite a

@[simp] theorem storable_list (hwrite : ∀ a, Storable n (write a)) (items : List α) :
    Storable (n + 1) (list write items) := by
  refine .array fun item hitem => ?_
  obtain ⟨a, -, rfl⟩ := List.mem_map.mp hitem
  exact hwrite a

@[simp] theorem storable_dict (hwrite : ∀ a, Storable n (write a)) (d : Dict α) :
    Storable (n + 1) (dict write d) := by
  refine .object fun field hfield => ?_
  obtain ⟨entry, -, rfl⟩ := List.mem_map.mp hfield
  exact hwrite entry.2

end Json

section Storable

variable (n : Nat)

@[simp] theorem Span.storable_toJson (s : Span) : Json.Storable (n + 1) s.toJson := by
  simp [toJson]

@[simp] theorem Attribute.storable_toJson (a : Attribute) : Json.Storable (n + 2) a.toJson := by
  obtain ⟨name, value, span⟩ := a
  cases span <;> simp [toJson, Span.field]

@[simp] theorem Branch.storable_toJson (b : Branch) : Json.Storable (n + 1) b.toJson := by
  simp [toJson]

@[simp] theorem Binding.storable_toJson (b : Binding) : Json.Storable (n + 2) b.toJson := by
  obtain ⟨name, value, dynamic, span⟩ := b
  cases span <;> simp [toJson, Span.field]

@[simp] theorem EventBinding.storable_toJson (b : EventBinding) :
    Json.Storable (n + 2) b.toJson := by
  obtain ⟨name, value, modifiers, dynamic, span⟩ := b
  cases span <;> simp [toJson, Span.field]

@[simp] theorem DirectiveBinding.storable_toJson (b : DirectiveBinding) :
    Json.Storable (n + 2) b.toJson := by
  obtain ⟨name, rawName, value, argument, dynamicArgument, modifiers, span⟩ := b
  cases span <;> simp [toJson, Span.field]

@[simp] theorem Interpolation.Token.storable_toJson (token : Token) :
    Json.Storable (n + 1) token.toJson := by
  cases token <;> simp [toJson]

@[simp] theorem Element.storable_fields (e : Element) :
    Json.Storable (n + 4) (.object e.fields) := by
  obtain ⟨_, _, _, _, _, _, span, _⟩ := e
  cases span <;> simp [fields, Span.field]

/-- No node is nested more than four levels deep. -/
@[simp] theorem Node.storable_toJson (node : Node) : Json.Storable (n + 4) node.toJson := by
  cases node with
  | element e =>
      have hfields := Json.storable_object_iff.mp (e.storable_fields n)
      exact .object (List.forall_mem_cons.mpr ⟨.string _ _, hfields⟩)
  | expression code tokens source span parent => cases span <;> simp [toJson, Span.field]
  | text source span parent => cases span <;> simp [toJson, Span.field]

end Storable

/-! ## Nodes and trees are read back -/

namespace Node

theorem typed?_object {type : String} {fields : List (String × Json)}
    (htype : "type" ∉ fields.map Prod.fst) :
    typed? (.object (("type", .string type) :: fields)) = some (type, .object fields) := by
  have hother : ∀ field ∈ fields, field.1 ≠ "type" := fun field hfield heq =>
    htype (heq ▸ List.mem_map_of_mem hfield)
  have hnone : fields.filter (fun field => field.1 == "type") = [] := by
    rw [List.filter_eq_nil_iff]
    intro field hfield
    simp [hother field hfield]
  have hall : fields.filter (fun field => field.1 != "type") = fields := by
    rw [List.filter_eq_self]
    intro field hfield
    simp [hother field hfield]
  simp [typed?, hnone, hall]

/-- A node whose sources have been put into a hash table again. -/
def settled : Node → Node
  | .element e => .element e.settled
  | node => node

theorem ofJson?_toJson {node : Node} (hnames : ∀ e, node = .element e → e.NamesDistinct) :
    ofJson? node.toJson = some node.settled := by
  have hdepth : node.toJson.depth ≤ maxDepth :=
    Nat.le_trans (node.storable_toJson 0).depth_le (by decide)
  rw [ofJson?, if_pos hdepth]
  cases node with
  | element e =>
      have htype : "type" ∉ e.fields.map Prod.fst := fun hmem =>
        absurd (e.names_fields_sublist.subset hmem) (by decide)
      simp [toJson, typed?_object htype, settled, Element.ofJson?_fields (hnames e rfl).written]
  | expression code tokens source span parent =>
      cases span <;>
        simp [toJson, settled, typed?_object, expressionOfJson?, Span.field, Span.read?]
  | text source span parent =>
      cases span <;> simp [toJson, settled, typed?_object, textOfJson?, Span.field, Span.read?]

end Node

namespace Tree

/-- The dictionaries of all elements have distinct names. -/
def NamesDistinct (t : Tree) : Prop :=
  ∀ e, .element e ∈ t.nodes → e.NamesDistinct

/-- A tree whose sources have been put into hash tables again. -/
def settled (t : Tree) : Tree :=
  { t with nodes := t.nodes.map Node.settled }

theorem ofJson?_toJson {t : Tree} (hnames : t.NamesDistinct) :
    ofJson? t.toJson = some t.settled := by
  have hnodes : Json.list? Node.ofJson? (.list Node.toJson t.nodes) =
      some (t.nodes.map Node.settled) := by
    change (t.nodes.map Node.toJson).mapM Node.ofJson? = _
    rw [mapM_eq_some_iff, List.forall₂_map_left_iff, List.forall₂_map_right_iff, List.forall₂_same]
    intro node hnode
    apply Node.ofJson?_toJson
    rintro e rfl
    exact hnames e hnode
  simp [ofJson?, toJson, fieldNames, settled, hnodes]

theorem parseRecord?_render (t : Tree) :
    Json.parseRecord? fieldNames t.render = some t.toJson := by
  -- The quoted name of the first field is longer than a tree is deep.
  have hlength : 5 ≤ t.render.toList.length := by
    have hname : (Text.quoteChars "nodes".toList).length = 7 := by decide
    rw [render, Json.render, String.toList_ofList, toJson, Json.chars_object, Json.separated,
      Json.fieldChars, List.length_cons, List.length_append, List.length_append, hname]
    omega
  apply Json.parseRecord?_render (n := 5)
  · simp [fieldNames]
  · simp
  · exact hlength

/-- A tree is read from its text, with its sources in new tables. -/
theorem parse?_render {t : Tree} (hnames : t.NamesDistinct) : parse? t.render = some t.settled := by
  rw [parse?, parseRecord?_render, Option.bind_some, ofJson?_toJson hnames]

/-- A tree is read back as it is if its sources stand in the order of their
tables. -/
theorem parse?_render_of_settled {t : Tree} (hnames : t.NamesDistinct) (hsettled : t.settled = t) :
    parse? t.render = some t := by
  rw [parse?_render hnames, hsettled]

end Tree

/-! ## What is read has distinct names -/

theorem Json.nodup_names_of_dict? {α : Type} {read? : Json → Option α} {j : Json} {d : Dict α}
    (hread : dict? read? j = some d) : d.names.Nodup := by
  obtain ⟨pairs, -, rfl⟩ := Option.map_eq_some_iff.mp hread
  exact Dict.nodup_names_ofList pairs

theorem Json.nodup_names_of_table? {α : Type} {read? : Json → Option α} {j : Json} {d : Dict α}
    (hread : table? read? j = some d) : d.names.Nodup := by
  obtain ⟨pairs, -, rfl⟩ := Option.map_eq_some_iff.mp hread
  exact Dict.nodup_names_scatter pairs

theorem Fields.nodup_names_of_defaulted {α : Type} {f : Fields} {name : String}
    {read? : Json → Option (Dict α)} {d : Dict α}
    (hnodup : ∀ {j d}, read? j = some d → d.names.Nodup)
    (hread : f.defaulted name {} read? = some d) : d.names.Nodup := by
  rw [defaulted] at hread
  split at hread
  · exact hnodup hread
  · rw [← Option.some.inj hread]
    exact List.nodup_nil

theorem Element.namesDistinct_of_ofJson? {j : Json} {e : Element} (hread : ofJson? j = some e) :
    e.NamesDistinct := by
  obtain ⟨f, -, hread⟩ := Option.bind_eq_some_iff.mp hread
  obtain ⟨tag, -, hread⟩ := Option.bind_eq_some_iff.mp hread
  obtain ⟨pending, -, hread⟩ := Option.bind_eq_some_iff.mp hread
  obtain ⟨written, hwritten, hread⟩ := Option.bind_eq_some_iff.mp hread
  obtain ⟨sources, hsources, hread⟩ := Option.bind_eq_some_iff.mp hread
  -- None of the other fields matters.
  iterate 22 obtain ⟨_, -, hread⟩ := Option.bind_eq_some_iff.mp hread
  rw [← Option.some.inj hread]
  exact ⟨Fields.nodup_names_of_defaulted Json.nodup_names_of_dict? hwritten,
    Fields.nodup_names_of_defaulted Json.nodup_names_of_table? hsources⟩

/-- An element is read from the record behind its type. -/
theorem Node.exists_record_of_ofJson? {j : Json} {e : Element}
    (hread : ofJson? j = some (.element e)) : ∃ record, Element.ofJson? record = some e := by
  rw [ofJson?] at hread
  split_ifs at hread
  obtain ⟨⟨type, record⟩, -, hread⟩ := Option.bind_eq_some_iff.mp hread
  dsimp only at hread
  split at hread
  · obtain ⟨read, hrecord, hread⟩ := Option.bind_eq_some_iff.mp hread
    obtain rfl : read = e := Node.element.inj (Option.some.inj hread)
    exact ⟨record, hrecord⟩
  · -- The other types give nodes of other kinds.
    simp [expressionOfJson?, Option.bind_eq_some_iff] at hread
  · simp [textOfJson?, Option.bind_eq_some_iff] at hread
  · exact nomatch hread

namespace Tree

theorem namesDistinct_of_ofJson? {j : Json} {t : Tree} (hread : ofJson? j = some t) :
    t.NamesDistinct := by
  obtain ⟨f, -, hread⟩ := Option.bind_eq_some_iff.mp hread
  obtain ⟨nodes, hnodes, hread⟩ := Option.bind_eq_some_iff.mp hread
  obtain ⟨value, -, hvalue⟩ := Option.bind_eq_some_iff.mp hnodes
  obtain rfl : t.nodes = nodes := by
    dsimp only at hread
    split_ifs at hread
    all_goals
      obtain ⟨root, -, hroot⟩ := Option.bind_eq_some_iff.mp hread
      rw [← Option.some.inj hroot]
  intro e he
  cases value with
  | array items =>
      obtain ⟨item, -, hitem⟩ := exists_mem_of_forall₂ (mapM_eq_some_iff.mp hvalue) he
      obtain ⟨record, hrecord⟩ := Node.exists_record_of_ofJson? hitem
      exact Element.namesDistinct_of_ofJson? hrecord
  | _ => exact nomatch hvalue

theorem namesDistinct_of_parse? {text : String} {t : Tree} (hread : parse? text = some t) :
    t.NamesDistinct := by
  obtain ⟨j, -, hj⟩ := Option.bind_eq_some_iff.mp hread
  exact namesDistinct_of_ofJson? hj

end Tree

/-! ## The order of sources -/

/-- Two nodes that differ at most in the order in which the sources of an element
stand. -/
inductive Node.Reorders : Node → Node → Prop
  | refl (node : Node) : Reorders node node
  | element (e : Element) {sources : Dict Attribute}
      (hsources : sources.entries.Perm e.sources.entries) :
      Reorders (.element e) (.element { e with sources })

namespace Node.Reorders

variable {first second third : Node}

theorem symm (h : Reorders first second) : Reorders second first := by
  cases h with
  | refl => exact .refl _
  | @element e sources hsources => exact .element { e with sources } hsources.symm

theorem trans (h : Reorders first second) (h' : Reorders second third) :
    Reorders first third := by
  cases h with
  | refl => exact h'
  | @element e sources hsources =>
      cases h' with
      | refl => exact .element e hsources
      | element _ hsources' => exact .element e (hsources'.trans hsources)

/-- A node that is written the same has its sources in the same order. -/
theorem eq_of_toJson_eq (h : Reorders first second) (hjson : first.toJson = second.toJson) :
    first = second := by
  cases h with
  | refl => rfl
  | @element e sources hsources =>
      simp only [toJson, Json.object.injEq, List.cons.injEq, true_and, Element.fields,
        List.cons_append, List.nil_append, Prod.mk.injEq] at hjson
      rw [← Json.dict_injective Attribute.ofJson?_toJson hjson.1]

end Node.Reorders

theorem Node.reorders_settled {node : Node} (hnames : ∀ e, node = .element e → e.NamesDistinct) :
    node.Reorders node.settled := by
  cases node with
  | element e => exact .element e (Dict.perm_entries_scatter_entries (hnames e rfl).sources)
  | expression => exact .refl _
  | text => exact .refl _

namespace Tree

/-- Two trees that differ at most in the order in which the sources of elements
stand. -/
structure Reorders (t t' : Tree) : Prop where
  nodes : List.Forall₂ Node.Reorders t.nodes t'.nodes
  root : t.root = t'.root

namespace Reorders

variable {first second third : Tree}

theorem symm (h : Reorders first second) : Reorders second first where
  nodes := h.nodes.flip.imp fun _ _ => Node.Reorders.symm
  root := h.root.symm

theorem trans (h : Reorders first second) (h' : Reorders second third) :
    Reorders first third where
  nodes := by
    obtain ⟨hnodes, -⟩ := h
    obtain ⟨hnodes', -⟩ := h'
    generalize first.nodes = nodes₁, second.nodes = nodes₂, third.nodes = nodes₃ at hnodes hnodes' ⊢
    induction hnodes generalizing nodes₃ with
    | nil => exact hnodes'
    | cons hnode _ ih =>
        obtain ⟨node, rest, hnode', hrest, rfl⟩ := List.forall₂_cons_left_iff.mp hnodes'
        exact .cons (hnode.trans hnode') (ih rest hrest)
  root := h.root.trans h'.root

/-- A tree that is written the same has its sources in the same order. -/
theorem render_eq_iff (h : Reorders first second) :
    first.render = second.render ↔ first = second := by
  refine ⟨fun hrender => ?_, fun heq => heq ▸ rfl⟩
  have hjson : first.toJson = second.toJson := by
    have hread := parseRecord?_render first
    rw [hrender, parseRecord?_render] at hread
    exact (Option.some.inj hread).symm
  have hnodes : List.Forall₂ (fun node node' => Node.toJson node = Node.toJson node')
      first.nodes second.nodes := by
    simp only [toJson, Json.list, Json.object.injEq, List.cons.injEq, Prod.mk.injEq,
      Json.array.injEq] at hjson
    rw [← List.forall₂_map_right_iff (R := fun node json => Node.toJson node = json),
      ← List.forall₂_map_left_iff (R := Eq), List.forall₂_eq_eq_eq]
    exact hjson.1.2
  have heq : first.nodes = second.nodes := by
    rw [← List.forall₂_eq_eq_eq]
    exact h.nodes.mp (fun _ _ => Node.Reorders.eq_of_toJson_eq) hnodes
  obtain ⟨nodes, root⟩ := first
  obtain ⟨nodes', root'⟩ := second
  rw [show nodes = nodes' from heq, show root = root' from h.root]

end Reorders

theorem reorders_settled {t : Tree} (hnames : t.NamesDistinct) : t.Reorders t.settled where
  nodes := by
    rw [settled, List.forall₂_map_right_iff, List.forall₂_same]
    intro node hnode
    apply Node.reorders_settled
    rintro e rfl
    exact hnames e hnode
  root := rfl

theorem NamesDistinct.of_reorders {t t' : Tree} (hnames : t.NamesDistinct)
    (hreorders : t.Reorders t') : t'.NamesDistinct := by
  intro e' he'
  obtain ⟨node, hnode, hsame⟩ := exists_mem_of_forall₂ hreorders.nodes he'
  cases hsame with
  | refl => exact hnames e' hnode
  | element e hsources =>
      obtain ⟨hwritten, hdistinct⟩ := hnames e hnode
      exact ⟨hwritten, (hsources.map Prod.fst).nodup_iff.mpr hdistinct⟩

/-- **Reading a tree undoes writing it.**  A tree comes back from its text, up to
the order of the sources of its elements, exactly if the dictionaries of its
elements have distinct names, as they have if they are made by insertion, from
pairs or by reading.  The sources may be written in any order.  Whatever text a
tree was read from, the text that is written of it is read as the same tree up to
the order of sources, and it is written again if and only if this order is kept. -/
theorem parse?_render_reorders_iff :
    (∀ (α : Type) (d : Dict α) (name : String) (value : α), d.names.Nodup →
      (d.insert name value).names.Nodup) ∧
    (∀ (α : Type) (pairs : List (String × α)), (Dict.ofList pairs).names.Nodup) ∧
    (∀ t : Tree, (∃ back, parse? t.render = some back ∧ t.Reorders back) ↔ t.NamesDistinct) ∧
    (∀ t t' : Tree, t.NamesDistinct → t.Reorders t' →
      ∃ back, parse? t'.render = some back ∧ t.Reorders back) ∧
    ∀ (text : String) (t : Tree), parse? text = some t →
      ∃ back, parse? t.render = some back ∧ t.Reorders back ∧
        (back.render = t.render ↔ back = t) := by
  refine ⟨fun α d name value hnodup => Dict.nodup_insertEntry hnodup,
    fun α => Dict.nodup_names_ofList, fun t => ⟨?_, fun hnames => ?_⟩,
    fun t t' hnames hreorders => ?_, fun text t hread => ?_⟩
  · rintro ⟨back, hread, hreorders⟩
    exact (namesDistinct_of_parse? hread).of_reorders hreorders.symm
  · exact ⟨t.settled, parse?_render hnames, reorders_settled hnames⟩
  · have hnames' := hnames.of_reorders hreorders
    exact ⟨t'.settled, parse?_render hnames', hreorders.trans (reorders_settled hnames')⟩
  · have hnames := namesDistinct_of_parse? hread
    have hreorders := reorders_settled hnames
    exact ⟨t.settled, parse?_render hnames, hreorders, hreorders.symm.render_eq_iff⟩

/-- A tree of one element with some sources. -/
def sourceTree (sources : List Attribute) : Tree where
  nodes := [.element { sources := ⟨sources.map fun a => (a.name, a)⟩ }]
  root := some 0

/-- The names `id` and `:key` ask for one slot of a table, so that the second one
of them is listed first.  Whenever the tree is read and written, the two change
places in its text. -/
theorem crossing_sources_swap :
    parse? (sourceTree [⟨"id", "a", none⟩, ⟨":key", "b", none⟩]).render =
        some (sourceTree [⟨":key", "b", none⟩, ⟨"id", "a", none⟩]) ∧
      parse? (sourceTree [⟨":key", "b", none⟩, ⟨"id", "a", none⟩]).render =
        some (sourceTree [⟨"id", "a", none⟩, ⟨":key", "b", none⟩]) ∧
      (sourceTree [⟨":key", "b", none⟩, ⟨"id", "a", none⟩]).render ≠
        (sourceTree [⟨"id", "a", none⟩, ⟨":key", "b", none⟩]).render := by
  have hnames : (sourceTree [⟨"id", "a", none⟩, ⟨":key", "b", none⟩]).NamesDistinct := by
    rintro e he
    obtain rfl := Node.element.inj (List.mem_singleton.mp he)
    exact ⟨by decide, by decide⟩
  have hsettled : (sourceTree [⟨"id", "a", none⟩, ⟨":key", "b", none⟩]).settled =
      sourceTree [⟨":key", "b", none⟩, ⟨"id", "a", none⟩] := by
    decide +kernel
  have hagain : (sourceTree [⟨":key", "b", none⟩, ⟨"id", "a", none⟩]).settled =
      sourceTree [⟨"id", "a", none⟩, ⟨":key", "b", none⟩] := by
    decide +kernel
  have hreorders := reorders_settled hnames
  rw [hsettled] at hreorders
  refine ⟨hsettled ▸ parse?_render hnames, hagain ▸ parse?_render (hnames.of_reorders hreorders),
    fun hrender => ?_⟩
  exact absurd (hreorders.symm.render_eq_iff.mp hrender) (by decide)

end Tree

end Stencil
