/-!
# Dictionaries in insertion order

A dictionary keeps its entries in the order in which their names were first inserted.  Inserting a
name again changes its value in place.
-/

namespace Stencil

/-- A finite map from names to values that remembers the order of insertion. -/
structure Dict (α : Type) where
  entries : List (String × α) := []
  deriving DecidableEq

namespace Dict

variable {α : Type}

/-- The dictionary without entries. -/
def empty : Dict α := ⟨[]⟩

/-- The names in order. -/
def names (d : Dict α) : List String :=
  d.entries.map Prod.fst

/-- The value of a name. -/
def get? (d : Dict α) (name : String) : Option α :=
  d.entries.lookup name

/-- Whether a name has a value. -/
def contains (d : Dict α) (name : String) : Bool :=
  d.entries.any fun entry => entry.1 == name

/-- The entries with a value for a name: the old one is replaced, a new one comes last. -/
def insertEntry (name : String) (value : α) : List (String × α) → List (String × α)
  | [] => [(name, value)]
  | entry :: entries =>
    if entry.1 = name then (name, value) :: entries else entry :: insertEntry name value entries

/-- Gives a name a value. -/
def insert (d : Dict α) (name : String) (value : α) : Dict α :=
  ⟨insertEntry name value d.entries⟩

/-- Removes a name. -/
def erase (d : Dict α) (name : String) : Dict α :=
  ⟨d.entries.eraseP fun entry => entry.1 == name⟩

/-- The number of entries. -/
def size (d : Dict α) : Nat :=
  d.entries.length

/-- Whether there is no entry. -/
def isEmpty (d : Dict α) : Bool :=
  d.entries.isEmpty

/-- Inserts some pairs, the first one first. -/
def insertAll (d : Dict α) (pairs : List (String × α)) : Dict α :=
  pairs.foldl (fun d pair => d.insert pair.1 pair.2) d

/-- The dictionary of some pairs.  Of two with one name, the later value wins at the earlier
place. -/
def ofList (pairs : List (String × α)) : Dict α :=
  empty.insertAll pairs

/-- The value of a name, unless it is the empty text. -/
def nonEmpty? (d : Dict String) (name : String) : Option String :=
  (d.get? name).filter fun value => !value.isEmpty

/-! ## Names stay distinct -/

theorem mem_insertEntry_names {name other : String} {value : α} {entries : List (String × α)} :
    other ∈ (insertEntry name value entries).map Prod.fst ↔
      other = name ∨ other ∈ entries.map Prod.fst := by
  induction entries with
  | nil => simp [insertEntry]
  | cons entry entries ih =>
    by_cases h : entry.1 = name
    · simp [insertEntry, h]
    · simp only [insertEntry, h, if_false, List.map_cons, List.mem_cons, ih]
      constructor
      · rintro (h | h | h) <;> simp [h]
      · rintro (h | h | h) <;> simp [h]

theorem nodup_insertEntry {name : String} {value : α} {entries : List (String × α)}
    (h : (entries.map Prod.fst).Nodup) : ((insertEntry name value entries).map Prod.fst).Nodup := by
  induction entries with
  | nil => simp [insertEntry]
  | cons entry entries ih =>
    obtain ⟨hfresh, hrest⟩ := List.nodup_cons.1 h
    by_cases hname : entry.1 = name
    · simpa [insertEntry, hname] using h
    · simp only [insertEntry, hname, if_false, List.map_cons, List.nodup_cons]
      refine ⟨fun hmem => ?_, ih hrest⟩
      rcases mem_insertEntry_names.1 hmem with heq | hmem
      · exact hname heq
      · exact hfresh hmem

end Dict

end Stencil
