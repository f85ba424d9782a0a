import Stencil.Text.Quoted

/-!
# JSON values

The values of the format that trees are stored in, and their text.  An object keeps its fields in
their order, repeated names included.
-/

namespace Stencil

open Text

/-- A JSON number.  Only natural numbers have a meaning for this library. -/
inductive JsonNumber where
  /-- Digits only. -/
  | natural (n : Nat)
  /-- Any other number, as it was written. -/
  | decimal (text : String)
  deriving DecidableEq

/-- A JSON value. -/
inductive Json where
  | null
  | bool (b : Bool)
  | number (n : JsonNumber)
  | string (text : String)
  | array (items : List Json)
  | object (fields : List (String × Json))

namespace Json

/-- The number `n`. -/
def nat (n : Nat) : Json := .number (.natural n)

/-- A value that may be missing. -/
def option {α : Type} (f : α → Json) : Option α → Json
  | some a => f a
  | none => .null

/-- A list of values. -/
def list {α : Type} (f : α → Json) (items : List α) : Json :=
  .array (items.map f)

/-! ## Text -/

/-- The text of a number. -/
def numberChars : JsonNumber → List Char
  | .natural n => Nat.toDigits 10 n
  | .decimal text => text.toList

mutual

/-- The characters of a value, without blanks. -/
def chars : Json → List Char
  | .null => "null".toList
  | .bool true => "true".toList
  | .bool false => "false".toList
  | .number n => numberChars n
  | .string text => quoteChars text.toList
  | .array [] => ['[', ']']
  | .array (item :: items) => '[' :: chars item ++ itemsChars items
  | .object [] => ['\x7b', '\x7d']
  | .object ((name, value) :: fields) =>
    '\x7b' :: quoteChars name.toList ++ ':' :: chars value ++ fieldsChars fields

/-- The rest of an array behind its first item. -/
def itemsChars : List Json → List Char
  | [] => [']']
  | item :: items => ',' :: chars item ++ itemsChars items

/-- The rest of an object behind its first field. -/
def fieldsChars : List (String × Json) → List Char
  | [] => ['\x7d']
  | (name, value) :: fields =>
    ',' :: quoteChars name.toList ++ ':' :: chars value ++ fieldsChars fields

end

/-- The text of a value, without blanks. -/
def render (j : Json) : String :=
  String.ofList j.chars

/-! ## Depth and size of numbers -/

mutual

/-- How deeply arrays and objects are nested. -/
def depth : Json → Nat
  | .array items => itemsDepth items + 1
  | .object fields => fieldsDepth fields + 1
  | _ => 0

/-- The depth of the deepest item. -/
def itemsDepth : List Json → Nat
  | [] => 0
  | item :: items => max (depth item) (itemsDepth items)

/-- The depth of the deepest field. -/
def fieldsDepth : List (String × Json) → Nat
  | [] => 0
  | (_, value) :: fields => max (depth value) (fieldsDepth fields)

end

end Json

end Stencil
