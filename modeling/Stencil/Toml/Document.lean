import Stencil.Toml.Reader

/-!
# Configuration files

A file is a list of lines: pairs of a key and a value, headers of tables and headers of tables in
arrays.  A table may be opened once only.
-/

namespace Stencil.Toml

/-! ## Lines -/

/-- A line of a file that says something. -/
inductive Statement where
  | pair (key : List String) (value : Toml)
  | header (path : List String)
  | arrayHeader (path : List String)

/-- One line. -/
def statement? (text : List Char) : Option (Statement × List Char) :=
  match text with
  | '[' :: '[' :: rest => do
    let (path, rest) ← key? (rest.length + 1) rest
    return (.arrayHeader path, ← char? ']' (← char? ']' rest))
  | '[' :: rest => do
    let (path, rest) ← key? (rest.length + 1) rest
    return (.header path, ← char? ']' rest)
  | _ => do
    let (key, rest) ← key? (text.length + 1) text
    let text := skipSpace (← char? '=' (skipSpace rest))
    let (value, rest) ← value? (text.length + 1) text
    return (.pair key value, rest)

/-- All lines that say something. -/
def statements? : Nat → List Char → Option (List Statement)
  | 0, _ => none
  | bound + 1, text =>
    match skipLines (text.length + 1) text with
    | [] => some []
    | text => do
      let (statement, rest) ← statement? text
      let rest ← finishLine? rest
      return statement :: (← statements? bound rest)

/-! ## Building the document -/

/-- How a table came to be. -/
inductive Origin where
  /-- It was opened by a header. -/
  | header
  /-- Only tables below it were opened by headers. -/
  | implicit
  /-- It is a part of a key with dots. -/
  | dotted
  deriving DecidableEq

/-- A document that is being built. -/
inductive Draft where
  | value (value : Toml)
  | table (origin : Origin) (entries : List (String × Draft))
  /-- The tables of an array, the last one first. -/
  | tables (items : List (List (String × Draft)))

/-- What a step does to the entries of a table. -/
abbrev Edit := List (String × Draft) → Option (List (String × Draft))

/-- Goes to the table at a path below a table and changes it there.  Missing tables are made.  With
`dotted` the path is a part of a key, and then it must not go through a table with a header. -/
def atPath? (dotted : Bool) (edit : Edit) : List String → Edit
  | [], entries => edit entries
  | name :: path, entries =>
    match entries.lookup name with
    | none => do
      let inner ← atPath? dotted edit path []
      return entries ++ [(name, .table (if dotted then .dotted else .implicit) inner)]
    | some (.table origin inner) =>
      if dotted && origin == .header then none
      else do
        let inner ← atPath? dotted edit path inner
        return Dict.insertEntry name (.table origin inner) entries
    | some (.tables (inner :: items)) => do
      let inner ← atPath? dotted edit path inner
      return Dict.insertEntry name (.tables (inner :: items)) entries
    | some _ => none

/-- Adds a value. -/
def addValue? (name : String) (value : Toml) : Edit := fun entries =>
  if (entries.lookup name).isSome then none else some (entries ++ [(name, .value value)])

/-- Opens a table. -/
def openTable? (name : String) : Edit := fun entries =>
  match entries.lookup name with
  | none => some (entries ++ [(name, .table .header [])])
  | some (.table .implicit inner) => some (Dict.insertEntry name (.table .header inner) entries)
  | some _ => none

/-- Opens the next table of an array. -/
def openItem? (name : String) : Edit := fun entries =>
  match entries.lookup name with
  | none => some (entries ++ [(name, .tables [[]])])
  | some (.tables items) => some (Dict.insertEntry name (.tables ([] :: items)) entries)
  | some _ => none

/-- Splits the last part off a key. -/
def splitLast? (key : List String) : Option (List String × String) :=
  key.getLast?.map fun last => (key.dropLast, last)

/-- A document and the path of the table that is open. -/
structure Building where
  entries : List (String × Draft) := []
  current : List String := []

/-- Takes in a line. -/
def Building.step? (b : Building) : Statement → Option Building
  | .pair key value => do
    let (path, last) ← splitLast? key
    let edit : Edit := atPath? true (addValue? last value) path
    return { b with entries := ← atPath? false edit b.current b.entries }
  | .header key => do
    let (path, last) ← splitLast? key
    return ⟨← atPath? false (openTable? last) path b.entries, key⟩
  | .arrayHeader key => do
    let (path, last) ← splitLast? key
    return ⟨← atPath? false (openItem? last) path b.entries, key⟩

mutual

/-- The value of a finished draft. -/
def Draft.finish : Draft → Toml
  | .value value => value
  | .table _ entries => .table (finishEntries entries)
  | .tables items => .array (finishItems items).reverse

/-- The values of finished entries. -/
def finishEntries : List (String × Draft) → List (String × Toml)
  | [] => []
  | (name, draft) :: entries => (name, draft.finish) :: finishEntries entries

/-- The values of the tables of an array. -/
def finishItems : List (List (String × Draft)) → List Toml
  | [] => []
  | entries :: items => .table (finishEntries entries) :: finishItems items

end

/-- A text without a byte order mark at its start. -/
def dropMark (text : List Char) : List Char :=
  match text with
  | '\ufeff' :: rest => rest
  | _ => text

/-- Reads a file: the entries of its outermost table. -/
def parse? (text : String) : Option (List (String × Toml)) := do
  let text := dropMark text.toList
  let statements ← statements? (text.length + 2) text
  let building ← statements.foldlM Building.step? {}
  return finishEntries building.entries

end Stencil.Toml
