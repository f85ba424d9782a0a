import Stencil.Text.Blank
import Stencil.Text.Word

/-!
# Words in code

Two searches in code without literals: for a reserved word that stands as a word of its own, and for
a unary operator that is called like a method.
-/

namespace Stencil.Validation

open Text

/-- The words that an expression must not hold. -/
def prohibitedKeywords : List String :=
  ["do", "if", "for", "let", "new", "try", "var", "case", "else", "with", "await", "break",
   "catch", "class", "const", "super", "throw", "while", "yield", "delete", "export", "import",
   "return", "switch", "default", "extends", "finally", "continue", "debugger", "function",
   "arguments"]

/-- The operators that must not be called like methods. -/
def unaryOperators : List String := ["delete", "typeof", "void"]

/-- The first word of a list that the text starts with and that ends there.  The character before
the text decides whether a word can start. -/
def keywordHere? (before : Option Char) (text : List Char) : Option String :=
  prohibitedKeywords.find? fun keyword =>
    match dropStart? keyword.toList text with
    | some rest => isBoundary before text.head? && isBoundary (keyword.toList.getLast?) rest.head?
    | none => false

/-- The leftmost reserved word of a text. -/
def findKeyword? (before : Option Char) : List Char → Option String
  | [] => none
  | c :: rest =>
    match keywordHere? before (c :: rest) with
    | some keyword => some keyword
    | none => findKeyword? (some c) rest

/-- A call of a certain operator at the start of a text: the operator, blanks, and what stands
between parentheses. -/
def operatorCall? (operator : String) (text : List Char) : Option (List Char) :=
  match dropStart? operator.toList text with
  | none => none
  | some rest =>
    match trimStart rest with
    | '(' :: inside =>
      match splitFirst? ')' inside with
      | some (arguments, _) =>
        some (operator.toList ++ rest.takeWhile isBlank ++ '(' :: arguments ++ [')'])
      | none => none
    | _ => none

/-- A call of a unary operator at the start of a text. -/
def unaryHere? (before : Option Char) (text : List Char) : Option (List Char) :=
  if isBoundary before text.head? then unaryOperators.findSome? fun op => operatorCall? op text
  else none

/-- The leftmost call of a unary operator, and the character before it. -/
def findUnary? (before : Option Char) : List Char → Option (Option Char × List Char)
  | [] => none
  | c :: rest =>
    match unaryHere? before (c :: rest) with
    | some call => some (before, call)
    | none => findUnary? (some c) rest

end Stencil.Validation
