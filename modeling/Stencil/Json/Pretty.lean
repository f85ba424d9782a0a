import Stencil.Json.Basic

/-!
# JSON over several lines

Every item and every field stands on a line of its own, two columns further in than what it belongs
to.
-/

namespace Stencil.Json

open Text

/-- A new line, some levels in. -/
def newLine (level : Nat) : List Char :=
  '\n' :: List.replicate (2 * level) ' '

mutual

/-- The characters of a value, some levels in. -/
def prettyChars (level : Nat) : Json → List Char
  | .null => "null".toList
  | .bool true => "true".toList
  | .bool false => "false".toList
  | .number n => numberChars n
  | .string text => quoteChars text.toList
  | .array [] => ['[', ']']
  | .array (item :: items) =>
    '[' :: newLine (level + 1) ++ prettyChars (level + 1) item ++ prettyItems level items
  | .object [] => ['\x7b', '\x7d']
  | .object ((name, value) :: fields) =>
    '\x7b' :: newLine (level + 1) ++ quoteChars name.toList ++ ':' :: ' ' ::
      prettyChars (level + 1) value ++ prettyFields level fields

/-- The rest of an array behind its first item. -/
def prettyItems (level : Nat) : List Json → List Char
  | [] => newLine level ++ [']']
  | item :: items =>
    ',' :: newLine (level + 1) ++ prettyChars (level + 1) item ++ prettyItems level items

/-- The rest of an object behind its first field. -/
def prettyFields (level : Nat) : List (String × Json) → List Char
  | [] => newLine level ++ ['\x7d']
  | (name, value) :: fields =>
    ',' :: newLine (level + 1) ++ quoteChars name.toList ++ ':' :: ' ' ::
      prettyChars (level + 1) value ++ prettyFields level fields

end

/-- The text of a value over several lines. -/
def pretty (j : Json) : String :=
  String.ofList (j.prettyChars 0)

end Stencil.Json
