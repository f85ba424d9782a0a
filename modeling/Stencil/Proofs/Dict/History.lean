import Mathlib.Data.Finset.Card
import Mathlib.Data.List.Induction
import Stencil.Json.Codec
import Stencil.Proofs.Dict
import Stencil.Proofs.Traversal

/-!
# What a dictionary holds after some operations

Names are inserted into a dictionary and erased from it.  All that it holds in
the end can be read off the history of these operations:

* a name has the value of the last insertion of it, unless it was erased since
  (`LastInserts`);
* a name stands before another one exactly if it was there at a time when the
  other one was not, and has not been erased since (`Precedes`).

Each has one lemma on what a further operation does to it, and `Follows` is kept
by every operation, so it holds after all of them.  A dictionary made from pairs,
or read from an object, has a history of insertions only.
-/

namespace Stencil

namespace Dict

variable {α : Type}

/-- What is done with a dictionary. -/
inductive Operation (α : Type) where
  | insert (name : String) (value : α)
  | erase (name : String)

/-- The name that an operation is about. -/
def Operation.name : Operation α → String
  | .insert name _ => name
  | .erase name => name

/-- The dictionary after an operation. -/
def perform (d : Dict α) : Operation α → Dict α
  | .insert name value => d.insert name value
  | .erase name => d.erase name

/-- The dictionary after some operations. -/
def performAll (d : Dict α) (operations : List (Operation α)) : Dict α :=
  operations.foldl perform d

/-- The insertions of some pairs. -/
def insertions (pairs : List (String × α)) : List (Operation α) :=
  pairs.map fun pair => .insert pair.1 pair.2

theorem ofList_eq_performAll (pairs : List (String × α)) :
    ofList pairs = empty.performAll (insertions pairs) := by
  rw [performAll, insertions, List.foldl_map]
  rfl

/-! ## Names after one operation -/

theorem names_insert_of_mem {d : Dict α} {name : String} (hmem : name ∈ d.names) (value : α) :
    (d.insert name value).names = d.names := by
  obtain ⟨entries⟩ := d
  change (insertEntry name value entries).map Prod.fst = entries.map Prod.fst
  induction entries with
  | nil => exact absurd hmem List.not_mem_nil
  | cons entry entries ih =>
      by_cases hentry : entry.1 = name
      · rw [insertEntry, if_pos hentry, List.map_cons, List.map_cons, hentry]
      · have htail : name ∈ entries.map Prod.fst :=
          (List.mem_cons.mp hmem).resolve_left (Ne.symm hentry)
        rw [insertEntry, if_neg hentry, List.map_cons, List.map_cons, ih htail]

theorem names_insert_of_not_mem {d : Dict α} {name : String} (hnew : name ∉ d.names) (value : α) :
    (d.insert name value).names = d.names ++ [name] := by
  rw [names, insert, insertEntry_of_not_mem hnew, List.map_append]
  rfl

theorem names_erase_of_nodup {d : Dict α} (hnodup : d.names.Nodup) (name : String) :
    (d.erase name).names = d.names.filter (· != name) := by
  rw [names_erase, hnodup.erase_eq_filter]

/-- The names that an operation is not about stand as before. -/
theorem filter_names_perform {d : Dict α} (hnodup : d.names.Nodup) (op : Operation α) :
    (d.perform op).names.filter (· != op.name) = d.names.filter (· != op.name) := by
  cases op with
  | insert name value =>
      by_cases hmem : name ∈ d.names
      · rw [perform, names_insert_of_mem hmem]
      · rw [perform, names_insert_of_not_mem hmem, List.filter_append]
        simp [Operation.name]
  | erase name =>
      rw [perform, names_erase_of_nodup hnodup, List.filter_filter]
      simp [Operation.name]

/-! ## Values in a history -/

/-- The last operation on a name is the insertion of a value. -/
def LastInserts (history : List (Operation α)) (name : String) (value : α) : Prop :=
  ∃ before after, history = before ++ .insert name value :: after ∧ ∀ op ∈ after, op.name ≠ name

theorem not_lastInserts_nil (name : String) (value : α) : ¬ LastInserts [] name value := by
  rintro ⟨before, after, hsplit, -⟩
  simp at hsplit

/-- A further operation decides on its own name and on no other. -/
theorem lastInserts_append_singleton {history : List (Operation α)} {op : Operation α}
    {name : String} {value : α} :
    LastInserts (history ++ [op]) name value ↔
      op = .insert name value ∨ op.name ≠ name ∧ LastInserts history name value := by
  constructor
  · rintro ⟨before, after, hsplit, hafter⟩
    cases after using List.reverseRecOn with
    | nil => exact .inl (List.singleton_inj.mp (List.append_inj' hsplit rfl).2)
    | append_singleton after last =>
        rw [← List.cons_append, ← List.append_assoc] at hsplit
        obtain ⟨rfl, hlast⟩ := List.append_inj' hsplit rfl
        obtain rfl := List.singleton_inj.mp hlast
        exact .inr ⟨hafter op (by simp),
          before, after, rfl, fun other hother => hafter other (List.mem_append_left _ hother)⟩
  · rintro (rfl | ⟨hname, before, after, rfl, hafter⟩)
    · exact ⟨history, [], rfl, nofun⟩
    · refine ⟨before, after ++ [op], by simp, fun other hother => ?_⟩
      rcases List.mem_append.mp hother with hother | hother
      · exact hafter other hother
      · rw [List.mem_singleton.mp hother]
        exact hname

/-- A name was inserted and not erased since. -/
def Present (history : List (Operation α)) (name : String) : Prop :=
  ∃ value, LastInserts history name value

theorem present_append_insert {history : List (Operation α)} {inserted name : String} {value : α} :
    Present (history ++ [.insert inserted value]) name ↔
      name = inserted ∨ Present history name := by
  simp only [Present, lastInserts_append_singleton]
  constructor
  · rintro ⟨found, heq | ⟨-, hlast⟩⟩
    · exact .inl (Operation.insert.inj heq).1.symm
    · exact .inr ⟨found, hlast⟩
  · intro hpresent
    by_cases hname : name = inserted
    · exact ⟨value, .inl (by rw [hname])⟩
    · obtain ⟨found, hlast⟩ := hpresent.resolve_left hname
      exact ⟨found, .inr ⟨Ne.symm hname, hlast⟩⟩

theorem present_append_erase {history : List (Operation α)} {erased name : String} :
    Present (history ++ [.erase erased]) name ↔ name ≠ erased ∧ Present history name := by
  simp only [Present, lastInserts_append_singleton]
  constructor
  · rintro ⟨found, heq | ⟨hne, hlast⟩⟩
    · cases heq
    · exact ⟨Ne.symm hne, found, hlast⟩
  · rintro ⟨hne, found, hlast⟩
    exact ⟨found, .inr ⟨Ne.symm hne, hlast⟩⟩

theorem Present.append {early late : List (Operation α)} {name : String}
    (hearly : Present early name) (hkept : ∀ op ∈ late, op ≠ .erase name) :
    Present (early ++ late) name := by
  induction late using List.reverseRecOn with
  | nil => rwa [List.append_nil]
  | append_singleton late op ih =>
      have hpresent := ih fun other hother => hkept other (List.mem_append_left _ hother)
      rw [← List.append_assoc]
      cases op with
      | insert inserted value => exact present_append_insert.mpr (.inr hpresent)
      | erase erased =>
          refine present_append_erase.mpr ⟨?_, hpresent⟩
          rintro rfl
          exact hkept (.erase name) (by simp) rfl

/-! ## Order in a history -/

/-- Two names are present, and the first one was so at a time when the second one
was not, and has not been erased since. -/
def Precedes (history : List (Operation α)) (first second : String) : Prop :=
  Present history second ∧
    ∃ early late, history = early ++ late ∧ Present early first ∧ ¬ Present early second ∧
      ∀ op ∈ late, op ≠ .erase first

theorem not_precedes_nil (first second : String) :
    ¬ Precedes ([] : List (Operation α)) first second := by
  rintro ⟨⟨value, hlast⟩, -⟩
  exact not_lastInserts_nil second value hlast

/-- Two names come into their order when the second one is inserted, and keep it
until one of them is erased. -/
theorem precedes_append_singleton {history : List (Operation α)} {op : Operation α}
    {first second : String} :
    Precedes (history ++ [op]) first second ↔
      Present (history ++ [op]) second ∧ op ≠ .erase first ∧
        (Precedes history first second ∨ Present history first ∧ ¬ Present history second) := by
  constructor
  · rintro ⟨hsecond, early, late, hsplit, hfirst, habsent, hkept⟩
    cases late using List.reverseRecOn with
    | nil =>
        rw [List.append_nil] at hsplit
        exact absurd (hsplit ▸ hsecond) habsent
    | append_singleton late last =>
        rw [← List.append_assoc] at hsplit
        obtain ⟨rfl, hlast⟩ := List.append_inj' hsplit rfl
        obtain rfl := List.singleton_inj.mp hlast
        have hkept' : ∀ other ∈ late, other ≠ .erase first := fun other hother =>
          hkept other (List.mem_append_left _ hother)
        refine ⟨hsecond, hkept op (by simp), ?_⟩
        by_cases hpresent : Present (early ++ late) second
        · exact .inl ⟨hpresent, early, late, rfl, hfirst, habsent, hkept'⟩
        · refine .inr ⟨?_, hpresent⟩
          exact hfirst.append hkept'
  · rintro ⟨hsecond, hop, ⟨-, early, late, rfl, hfirst, habsent, hkept⟩ | ⟨hfirst, habsent⟩⟩
    · refine ⟨hsecond, early, late ++ [op], by simp, hfirst, habsent, fun other hother => ?_⟩
      rcases List.mem_append.mp hother with hother | hother
      · exact hkept other hother
      · rw [List.mem_singleton.mp hother]
        exact hop
    · exact ⟨hsecond, history, [op], rfl, hfirst, habsent, by simpa using hop⟩

theorem precedes_append_insert {history : List (Operation α)} {inserted first second : String}
    {value : α} :
    Precedes (history ++ [.insert inserted value]) first second ↔
      Precedes history first second ∨
        Present history first ∧ ¬ Present history second ∧ second = inserted := by
  rw [precedes_append_singleton, present_append_insert]
  constructor
  · rintro ⟨hsecond, -, hprecedes | ⟨hfirst, habsent⟩⟩
    · exact .inl hprecedes
    · exact .inr ⟨hfirst, habsent, hsecond.resolve_right habsent⟩
  · rintro (hprecedes | ⟨hfirst, habsent, hsecond⟩)
    · exact ⟨.inr hprecedes.1, nofun, .inl hprecedes⟩
    · exact ⟨.inl hsecond, nofun, .inr ⟨hfirst, habsent⟩⟩

theorem precedes_append_erase {history : List (Operation α)} {erased first second : String} :
    Precedes (history ++ [.erase erased]) first second ↔
      Precedes history first second ∧ first ≠ erased ∧ second ≠ erased := by
  rw [precedes_append_singleton, present_append_erase]
  constructor
  · rintro ⟨⟨hsecond, hpresent⟩, hfirst, hprecedes | ⟨-, habsent⟩⟩
    · exact ⟨hprecedes, fun heq => hfirst (by rw [heq]), hsecond⟩
    · exact absurd hpresent habsent
  · rintro ⟨hprecedes, hfirst, hsecond⟩
    exact ⟨⟨hsecond, hprecedes.1⟩, fun heq => hfirst (Operation.erase.inj heq).symm,
      .inl hprecedes⟩

/-! ## The dictionary follows its history -/

/-- A dictionary holds what a history leaves, in the order that it gives. -/
structure Follows (d : Dict α) (history : List (Operation α)) : Prop where
  nodup : d.names.Nodup
  get?_iff : ∀ name value, d.get? name = some value ↔ LastInserts history name value
  order_iff : ∀ first second,
    [first, second].Sublist d.names ↔ Precedes history first second

theorem Follows.mem_names_iff {d : Dict α} {history : List (Operation α)} (h : d.Follows history)
    (name : String) : name ∈ d.names ↔ Present history name := by
  rw [Dict.mem_names_iff, Option.ne_none_iff_exists']
  exact exists_congr fun value => h.get?_iff name value

theorem follows_empty : (empty : Dict α).Follows [] where
  nodup := List.nodup_nil
  get?_iff name value := iff_of_false nofun (not_lastInserts_nil name value)
  order_iff first second := iff_of_false (by simp [empty, names]) (not_precedes_nil first second)

theorem pair_sublist_append_singleton {first second name : String} {names : List String} :
    [first, second].Sublist (names ++ [name]) ↔
      [first, second].Sublist names ∨ first ∈ names ∧ second = name := by
  have hbackwards : ∀ xs : List String,
      [first, second].Sublist xs ↔ [second, first].Sublist xs.reverse :=
    fun xs => List.reverse_sublist.symm
  rw [hbackwards, hbackwards, List.reverse_append, List.reverse_singleton, List.singleton_append,
    List.sublist_cons_iff]
  refine or_congr_right ?_
  constructor
  · rintro ⟨rest, hpair, hrest⟩
    obtain ⟨rfl, rfl⟩ := List.cons.inj hpair
    exact ⟨List.mem_reverse.mp (List.singleton_sublist.mp hrest), rfl⟩
  · rintro ⟨hfirst, rfl⟩
    exact ⟨[first], rfl, List.singleton_sublist.mpr (List.mem_reverse.mpr hfirst)⟩

theorem pair_sublist_filter {first second : String} {keeps : String → Bool} {names : List String} :
    [first, second].Sublist (names.filter keeps) ↔
      [first, second].Sublist names ∧ keeps first ∧ keeps second := by
  constructor
  · intro hpair
    have hkept : ∀ name ∈ [first, second], keeps name := fun name hname =>
      (List.mem_filter.mp (hpair.subset hname)).2
    exact ⟨hpair.trans List.filter_sublist, hkept first (by simp), hkept second (by simp)⟩
  · rintro ⟨hpair, hfirst, hsecond⟩
    have hself : [first, second].filter keeps = [first, second] := by simp [hfirst, hsecond]
    exact hself ▸ hpair.filter keeps

theorem Follows.insert {d : Dict α} {history : List (Operation α)} (h : d.Follows history)
    (name : String) (value : α) :
    (d.insert name value).Follows (history ++ [.insert name value]) where
  nodup := nodup_insertEntry h.nodup
  get?_iff other found := by
    rw [get?_insert, lastInserts_append_singleton]
    split_ifs with hother
    · subst hother
      simp [Operation.name]
    · rw [h.get?_iff]
      simp [Operation.name, Ne.symm hother]
  order_iff first second := by
    rw [precedes_append_insert, ← h.order_iff, ← h.mem_names_iff, ← h.mem_names_iff]
    by_cases hmem : name ∈ d.names
    · rw [names_insert_of_mem hmem, or_iff_left]
      rintro ⟨-, habsent, rfl⟩
      exact habsent hmem
    · rw [names_insert_of_not_mem hmem, pair_sublist_append_singleton]
      refine or_congr_right (and_congr_right fun _ => ?_)
      exact ⟨fun heq => ⟨heq ▸ hmem, heq⟩, And.right⟩

theorem Follows.erase {d : Dict α} {history : List (Operation α)} (h : d.Follows history)
    (name : String) : (d.erase name).Follows (history ++ [.erase name]) where
  nodup := h.nodup.sublist (names_erase_sublist d name)
  get?_iff other found := by
    rw [lastInserts_append_singleton]
    by_cases hother : other = name
    · subst hother
      have hnone : (d.erase other).get? other = none := by
        rw [get?_eq_none_iff, mem_names_erase h.nodup]
        exact fun hmem => hmem.2 rfl
      simp [hnone, Operation.name]
    · rw [get?_erase_of_ne d hother, h.get?_iff]
      simp [Operation.name, Ne.symm hother]
  order_iff first second := by
    rw [precedes_append_erase, ← h.order_iff, names_erase_of_nodup h.nodup, pair_sublist_filter,
      bne_iff_ne, bne_iff_ne]

/-- What a dictionary holds after some operations follows the history with them. -/
theorem Follows.performAll {d : Dict α} {history : List (Operation α)} (h : d.Follows history)
    (operations : List (Operation α)) :
    (d.performAll operations).Follows (history ++ operations) := by
  induction operations generalizing d history with
  | nil => rwa [List.append_nil]
  | cons op operations ih =>
      rw [← List.singleton_append, ← List.append_assoc]
      cases op with
      | insert name value => exact ih (h.insert name value)
      | erase name => exact ih (h.erase name)

theorem follows_ofList (pairs : List (String × α)) : (ofList pairs).Follows (insertions pairs) := by
  rw [ofList_eq_performAll]
  exact follows_empty.performAll (insertions pairs)

/-! ## The other observations -/

/-- All that can be asked about the names of a dictionary of texts is settled by
what `get?` finds. -/
structure Consistent (d : Dict String) : Prop where
  contains_eq : ∀ name, d.contains name = (d.get? name).isSome
  nonEmpty?_iff : ∀ name value,
    d.nonEmpty? name = some value ↔ d.get? name = some value ∧ value ≠ ""
  size_eq : ∃ present : Finset String,
    (∀ name, name ∈ present ↔ (d.get? name).isSome) ∧ d.size = present.card
  isEmpty_iff : d.isEmpty ↔ ∀ name, d.get? name = none

theorem mem_names_iff_isSome (d : Dict α) (name : String) :
    name ∈ d.names ↔ (d.get? name).isSome := by
  rw [mem_names_iff, Option.isSome_iff_ne_none]

theorem contains_eq_isSome (d : Dict α) (name : String) :
    d.contains name = (d.get? name).isSome := by
  have hnames : d.contains name = true ↔ name ∈ d.names := by
    simp [contains, names, List.any_eq_true]
  rw [Bool.eq_iff_iff, hnames, mem_names_iff_isSome]

theorem isEmpty_iff_get? (d : Dict α) : d.isEmpty ↔ ∀ name, d.get? name = none := by
  simp only [get?_eq_none_iff, ← List.eq_nil_iff_forall_not_mem, isEmpty, List.isEmpty_iff, names,
    List.map_eq_nil_iff]

theorem consistent_of_nodup {d : Dict String} (hnodup : d.names.Nodup) : d.Consistent where
  contains_eq := d.contains_eq_isSome
  nonEmpty?_iff name value := by
    rw [nonEmpty?, Option.filter_eq_some_iff]
    simp
  size_eq := by
    refine ⟨d.names.toFinset, fun name => ?_, ?_⟩
    · rw [List.mem_toFinset, mem_names_iff_isSome]
    · rw [List.toFinset_card_of_nodup hnodup, names, List.length_map, size]
  isEmpty_iff := d.isEmpty_iff_get?

end Dict

/-! ## Dictionaries that are read -/

namespace Json

/-- The object with some texts as its fields. -/
def ofTexts (pairs : List (String × String)) : Json :=
  .object (pairs.map fun pair => (pair.1, .string pair.2))

theorem string?_eq_some_iff {j : Json} {text : String} :
    string? j = some text ↔ j = .string text := by
  cases j <;> simp [string?]

theorem textField_eq_some_iff {field : String × Json} {pair : String × String} :
    ((string? field.2).map fun value => (field.1, value)) = some pair ↔
      field = (pair.1, .string pair.2) := by
  obtain ⟨name, value⟩ := field
  obtain ⟨key, text⟩ := pair
  simp only [Option.map_eq_some_iff, string?_eq_some_iff, Prod.mk.injEq]
  constructor
  · rintro ⟨found, hvalue, hname, rfl⟩
    exact ⟨hname, hvalue⟩
  · rintro ⟨hname, hvalue⟩
    exact ⟨text, hvalue, hname, rfl⟩

/-- A dictionary of texts is read from an object of texts and from nothing else,
by inserting its fields in their order. -/
theorem dict?_string?_eq_some_iff {j : Json} {d : Dict String} :
    dict? string? j = some d ↔ ∃ pairs, j = ofTexts pairs ∧ d = Dict.ofList pairs := by
  have hfields : ∀ fields pairs,
      (fields.mapM fun field => (string? field.2).map fun value => (field.1, value)) = some pairs ↔
        Json.object fields = ofTexts pairs := by
    intro fields pairs
    simp only [mapM_eq_some_iff, textField_eq_some_iff]
    rw [← List.forall₂_map_right_iff (R := Eq), List.forall₂_eq_eq_eq, ofTexts, Json.object.injEq]
  have hpairs : ∀ pairs, pairs? string? j = some pairs ↔ j = ofTexts pairs := by
    intro pairs
    cases j with
    | object fields => exact hfields fields pairs
    | _ => simp [pairs?, ofTexts]
  rw [dict?, Option.map_eq_some_iff]
  simp only [hpairs, @eq_comm _ d]

end Json

theorem parseAttributes?_eq_some_iff {text : String} {d : Dict String} :
    parseAttributes? text = some d ↔
      ∃ pairs, Json.parse? text = some (Json.ofTexts pairs) ∧ d = Dict.ofList pairs := by
  rw [parseAttributes?, Option.bind_eq_some_iff]
  simp only [Json.dict?_string?_eq_some_iff]
  constructor
  · rintro ⟨j, hparse, pairs, rfl, hd⟩
    exact ⟨pairs, hparse, hd⟩
  · rintro ⟨pairs, hparse, hd⟩
    exact ⟨_, hparse, pairs, rfl, hd⟩

namespace Dict

/-- **A dictionary of attributes is a map in the order of insertion.**  It is
collected from pairs, and what is read from a value or a text is collected from
the fields of an object of texts.  After any further operations, names are
distinct, each has the value of its last insertion unless it was erased since,
two names stand in the order in which they came to stay, and all other
observations agree with `get?`.  Inserting a name that is there leaves all names
in their places, inserting one that is not there or was erased puts it last, and
no operation changes the order of the other names. -/
theorem attributes_in_insertion_order :
    (∀ j d, Json.dict? Json.string? j = some d ↔
      ∃ pairs, j = Json.ofTexts pairs ∧ d = ofList pairs) ∧
    (∀ text d, parseAttributes? text = some d ↔
      ∃ pairs, Json.parse? text = some (Json.ofTexts pairs) ∧ d = ofList pairs) ∧
    ∀ (pairs : List (String × String)) (operations : List (Operation String)),
      let d := (ofList pairs).performAll operations
      d.Follows (insertions pairs ++ operations) ∧ d.Consistent ∧
      (∀ name value,
        (d.insert name value).names = if name ∈ d.names then d.names else d.names ++ [name]) ∧
      (∀ name value,
        ((d.erase name).insert name value).names = d.names.filter (· != name) ++ [name]) ∧
      ∀ op, (d.perform op).names.filter (· != op.name) = d.names.filter (· != op.name) := by
  refine ⟨fun j d => Json.dict?_string?_eq_some_iff, fun text d =>
    parseAttributes?_eq_some_iff, fun pairs operations => ?_⟩
  intro d
  have hfollows : d.Follows (insertions pairs ++ operations) :=
    (follows_ofList pairs).performAll operations
  have hnodup := hfollows.nodup
  refine ⟨hfollows, consistent_of_nodup hnodup, fun name value => ?_, fun name value => ?_,
    filter_names_perform hnodup⟩
  · split_ifs with hmem
    · exact names_insert_of_mem hmem value
    · exact names_insert_of_not_mem hmem value
  · have herased : name ∉ (d.erase name).names := fun hmem =>
      ((mem_names_erase hnodup).mp hmem).2 rfl
    rw [names_insert_of_not_mem herased, names_erase_of_nodup hnodup]

end Dict

end Stencil
