import Stencil.Dict

/-!
# Dictionaries in the order of a hash table

Some dictionaries are kept in a hash table and read slot by slot.  Their order is neither that of
the names nor that of insertion: a name takes the slot that its hash asks for, and the next free
one if another name was there before it.
-/

namespace Stencil

/-! ## Hashes of names -/

namespace Hash

/-- Some bytes as a number, the lowest one first. -/
def word (bytes : List UInt8) : UInt64 :=
  bytes.foldr (fun byte high => high <<< 8 ||| byte.toUInt64) 0

/-- The two halves of a product, laid over each other. -/
def fold (x y : UInt64) : UInt64 :=
  let product := x.toNat * y.toNat
  UInt64.ofNat product ^^^ UInt64.ofNat (product >>> 64)

/-- The two words that a hash starts from. -/
def seeds : UInt64 × UInt64 := (0x243f6a8885a308d3, 0x13198a2e03707344)

/-- Takes up a block of sixteen bytes. -/
def absorb (state : UInt64 × UInt64) (block : List UInt8) : UInt64 × UInt64 :=
  (state.2, fold (state.1 ^^^ word (block.take 8))
    (0xa4093822299f31d0 ^^^ word ((block.drop 8).take 8)))

/-- Brings some bytes down to one word.  Long texts are taken up block by block, and the last bytes
of a text, which may belong to a block as well, are laid over what the blocks leave. -/
def compress (bytes : List UInt8) : UInt64 :=
  let size := bytes.length
  let state :=
    if 16 < size then
      (List.range ((size - 1) / 16)).foldl (fun state i => absorb state (bytes.drop (16 * i))) seeds
    else seeds
  let (first, last) :=
    if 16 < size then ((bytes.drop (size - 16)).take 8, bytes.drop (size - 8))
    else if 8 ≤ size then (bytes.take 8, bytes.drop (size - 8))
    else if 4 ≤ size then (bytes.take 4, bytes.drop (size - 4))
    else (bytes.take 1, (bytes.drop (size / 2)).take 1 ++ bytes.drop (size - 1))
  fold (state.1 ^^^ word first) (state.2 ^^^ word last) ^^^ UInt64.ofNat size

/-- The hash of a name.  A byte that no text holds marks the end of the name. -/
def name (text : String) : UInt64 :=
  let scale := fun (word : UInt64) => word * 0xf1357aea2e62a9c5
  let hash := scale (scale (compress (text.toList.flatMap String.utf8EncodeChar)) + 0xff)
  hash <<< 26 ||| hash >>> 38

end Hash

/-! ## Tables -/

namespace Table

variable {α : Type}

/-- The number of slots of a table with room for some entries; an eighth of them stays free. -/
def slotCount (room : Nat) : Nat :=
  if room < 4 then 4 else if room < 8 then 8 else (room * 8 / 7).nextPowerOfTwo

/-- The slots that a name with some hash may take, the best one first: groups of sixteen slots in a
row, each further behind the one before it. -/
def candidates (slots hash : Nat) : List Nat :=
  (List.range (max 1 (slots / 16))).flatMap fun group =>
    (List.range 16).map fun i => (hash + 16 * (group * (group + 1) / 2) + i) % slots

/-- The first slot for a name that is not used. -/
def freeSlot (slots : Nat) (used : List (Nat × String × α)) (name : String) : Nat :=
  ((candidates slots (Hash.name name).toNat).find? fun slot =>
    used.all fun (other, _) => other != slot).getD 0

/-- Puts an entry into a slot.  The used slots of a table are listed in ascending order. -/
def put (slot : Nat) (entry : String × α) : List (Nat × String × α) → List (Nat × String × α)
  | [] => [(slot, entry)]
  | first :: rest =>
    if slot < first.1 then (slot, entry) :: first :: rest else first :: put slot entry rest

/-- The used slots after entries with different names were put in, the first one first. -/
def layOut (slots : Nat) (entries : List (String × α)) : List (Nat × String × α) :=
  entries.foldl (fun used entry => put (freeSlot slots used entry.1) entry used) []

end Table

/-- The dictionary of some pairs, in the order of a hash table that was made with room for all of
them.  Of two pairs with one name, the later value wins at the earlier place.  (Room for more than
some ten thousand pairs is not made in advance when a tree is read; a table that grows instead may
have another order.) -/
def Dict.scatter {α : Type} (pairs : List (String × α)) : Dict α :=
  ⟨(Table.layOut (Table.slotCount pairs.length) (ofList pairs).entries).map Prod.snd⟩

end Stencil
