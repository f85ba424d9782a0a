import Stencil.Dict

/-!
# Configuration values
-/

namespace Stencil

/-- A value of a configuration file. -/
inductive Toml where
  | string (text : String)
  | integer (n : Int)
  /-- A decimal number, as the shortest text of it. -/
  | float (text : String)
  | boolean (b : Bool)
  /-- A date, a time or both, as it was written. -/
  | datetime (text : String)
  | array (items : List Toml)
  | table (entries : List (String × Toml))

namespace Toml

mutual

/-- A value laid over another one.  Tables are merged entry by entry, everything else is
replaced. -/
def layer (base : Option Toml) : Toml → Toml
  | .table entries =>
    .table (layerEntries (match base with
      | some (.table entries) => entries
      | _ => []) entries)
  | .string text => .string text
  | .integer n => .integer n
  | .float text => .float text
  | .boolean b => .boolean b
  | .datetime text => .datetime text
  | .array items => .array items

/-- Entries laid over other ones. -/
def layerEntries (base : List (String × Toml)) : List (String × Toml) → List (String × Toml)
  | [] => base
  | (name, value) :: entries =>
    layerEntries (Dict.insertEntry name (layer (base.lookup name) value) base) entries

end

/-- Whether a text can be a part of a path to a value. -/
def isPathPart (part : List Char) : Bool :=
  !part.isEmpty && part.all fun c => c.isAlphanum || c == '_' || c == '-'

/-- A value under a path of names. -/
def nested (value : Toml) : List String → Toml
  | [] => value
  | name :: path => .table [(name, nested value path)]

end Toml

end Stencil
