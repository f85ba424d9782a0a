import Stencil.Validation.Check

/-!
# Procedures

A procedure is generated code that can be called.  A factory makes procedures, and says why it
cannot make one.  Where it cannot, an empty procedure takes the place.
-/

namespace Stencil

/-- Code that can be called. -/
inductive Procedure where
  /-- Code that passed the check of its factory. -/
  | compiled (source : String)
  /-- Stands for code that could not be made into a procedure; calling it does nothing. -/
  | noop
  deriving DecidableEq

namespace Procedure

/-- Whether calling it does nothing. -/
def isNoop : Procedure → Bool
  | compiled _ => false
  | noop => true

/-- The code of a procedure. -/
def source? : Procedure → Option String
  | compiled source => some source
  | noop => none

/-- Calls a procedure: `run` executes code, and `empty` is the result of doing nothing. -/
def call {α : Type} (run : String → α) (empty : α) : Procedure → α
  | compiled source => run source
  | noop => empty

end Procedure

/-- Why code could not be made into a procedure. -/
inductive ConstructError where
  /-- Procedures must not be made at run time. -/
  | prohibited (reason : String)
  /-- The code does not compile. -/
  | invalid (message : String)
  deriving DecidableEq

/-- What an error says to a reader. -/
def ConstructError.message : ConstructError → String
  | prohibited reason => "runtime code construction is disabled: " ++ reason
  | invalid message => "SyntaxError: " ++ message

/-- Makes procedures of code. -/
structure Factory where
  construct : String → Except ConstructError Procedure
  /-- Finds out whether procedures can be made at all. -/
  probe : Except ConstructError Unit := (construct "return 1").map fun _ => ()

/-- Accepts every body of a function, if procedures may be made at run time. -/
def Factory.ecma (allowed : Bool) : Factory where
  construct source :=
    if allowed then
      match Checker.ecma.body source with
      | .ok () => .ok (.compiled source)
      | .error message => .error (.invalid message)
    else .error (.prohibited "allow_runtime_compilation is off")

end Stencil
