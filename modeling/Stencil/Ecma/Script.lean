import Stencil.Ecma.Grammar.Statement

/-!
# Whole scripts

`parse` reaches every production from every other one through a bound on the depth of nesting, and
`Script.fault?` gives a script a bound that its nesting cannot exceed, because every few steps of
depth take a token.
-/

namespace Stencil.Ecma

/-- One step of a goal, with `reach` for the goals inside it. -/
def step (reach : Reach) : {α : Type} → Goal α → Parse α
  | _, .expression => expression reach
  | _, .assignment => assignment reach
  | _, .unary => unaryExpression reach
  | _, .operators left least => operators reach left least
  | _, .leftHand => leftHandSide reach
  | _, .member => memberOrNew reach
  | _, .pattern lexical => bindingPattern reach lexical
  | _, .statement declarations => statement reach declarations
  | _, .block => block reach
  | _, .function form => functionTail reach form
  | _, .classTail => classTail reach

/-- Parses a goal, nested to a depth. -/
def parse : Nat → {α : Type} → Goal α → Parse α
  | 0, _, _ => throw .tooDeep
  | depth + 1, _, goal => step (parse depth) goal

/-- A script: statements up to its end. -/
def script (depth : Nat) : Parse Unit := do
  let strict := (← token) == .string strictDirective
  within (fun c => { c with strict }) do
    iterate (← bound) (fun _ => do
      if (← token) == .endOfInput then return .inr ()
      parse depth (.statement true)
      return .inl ()) ()

/-- A depth that the nesting of a text does not reach. -/
def depthBound (text : List Char) : Nat :=
  8 * (text.length + 4)

/-- Why a script is refused: the fault that ended the parse, or else the first one noted. -/
def fault? (text : List Char) : Option Fault :=
  let (result, s) := (script (depthBound text)).run (State.start text)
  match result with
  | .error fault => some fault
  | .ok () => s.noted

/-- The text of a function with some parameters and a body, each on lines of its own. -/
def functionText (params body : List Char) : List Char :=
  "(function anonymous(".toList ++ params ++ "\n) \x7b\n".toList ++ body ++ "\n\x7d)".toList

/-- Why a text cannot be the body of a function without parameters. -/
def bodyFault? (body : String) : Option Fault :=
  fault? (functionText [] body.toList)

/-- Why a text cannot be the parameters of a function with an empty body. -/
def parametersFault? (params : String) : Option Fault :=
  fault? (functionText params.toList [])

end Stencil.Ecma
