import Stencil.Ecma.Lexer

/-!
# Parsing script text

The parts that the productions of the grammar share: what is known of an expression or a pattern
that has been read, the state of a parse, and the elementary steps on it.

A fault is either thrown, and then ends what is being read, or noted, and then reading goes on.
Either kind refuses the script.  A thrown fault leaves the state where it arose, because some
productions take a fault up and go on from there.
-/

namespace Stencil.Ecma

/-! ## What is known of an expression -/

/-- The form of an expression, as far as the grammar asks for it. -/
inductive Form where
  | name (text : String)
  | literal
  | member
  /-- An access or a call through an optional link. -/
  | chain
  | call
  /-- A construction without arguments. -/
  | bareNew
  | paren
  | array
  | object
  | assignment (plain : Bool)
  | arrow
  | binary (operator : Option Punct)
  | unary
  | update
  | conditional
  | sequence
  | awaiting
  | privateName
  | other
  /-- Stands for an expression that could not be read. -/
  | missing
  deriving DecidableEq

/-- What is known of an expression. -/
structure Shape where
  form : Form
  /-- A single variable or property, which every kind of assignment can change. -/
  simple : Bool := false
  /-- Why it cannot be assigned to as a pattern. -/
  target : Option Fault := some .notAPattern
  /-- Why it cannot declare names as a pattern. -/
  binding : Option Fault := some .notAPattern
  /-- It is an object with a shorthand property that has a default, as only a pattern should. -/
  loose : Bool := false
  deriving DecidableEq

/-- An expression that is neither a target nor a pattern. -/
def Shape.plain (form : Form) : Shape :=
  { form }

/-- A pattern element may be a target, or a target with a default. -/
def Shape.elementTarget (e : Shape) : Option Fault :=
  match e.form with
  | .array | .object => e.target
  | .assignment true | .missing => none
  | .name _ | .literal | .member | .call | .bareNew | .paren =>
    if e.simple then none else some .notAssignable
  | _ => some .notAPattern

/-- Whether a binding pattern is a single name. -/
inductive Pattern where
  | name
  | compound
  deriving DecidableEq

/-! ## The state of a parse -/

/-- Where in the script the parse is, as far as the grammar asks for it. -/
structure Context where
  strict : Bool := false
  /-- Inside a function, where a result can be returned. -/
  inFunction : Bool := false
  inParameters : Bool := false
  async : Bool := false
  generator : Bool := false
  /-- Inside the value of a field or a static block, where a class has no `arguments`. -/
  inField : Bool := false
  /-- Inside a static block, where `await` is no name. -/
  inStatic : Bool := false
  superMember : Bool := false
  newTarget : Bool := false
  canBreak : Bool := false
  canContinue : Bool := false
  /-- The word `in` is an operator here. -/
  allowIn : Bool := true
  /-- Inside the head of a loop. -/
  loopHead : Bool := false
  /-- Inside the head of a loop that awaits its items. -/
  awaitHead : Bool := false
  deriving DecidableEq

/-- The state of a parse. -/
structure State where
  lexeme : Lexeme
  /-- The tokens that have been taken, the last one first. -/
  trail : List Lexeme := []
  /-- The first fault noted. -/
  noted : Option Fault := none
  context : Context := {}
  /-- The token at which an arrow function may start. -/
  arrowStart : Option Nat := none
  /-- The labels of the enclosing statements of this function. -/
  labels : List String := []
  /-- The last token at which this function pauses, and why a parameter cannot pause there. -/
  pause : Option (Nat × Fault) := none
  /-- A regular expression cannot be read; nothing is read behind it. -/
  halted : Bool := false

/-- How many tokens have been taken. -/
def State.taken (s : State) : Nat :=
  s.trail.length

/-- The state at the start of a script. -/
def State.start (script : List Char) : State :=
  { lexeme := Lexeme.next script }

/-- A parse. -/
abbrev Parse := ExceptT Fault (StateM State)

/-! ## Elementary steps -/

/-- The current token. -/
def token : Parse Token :=
  return (← get).lexeme.token

/-- Whether a line ends before the current token. -/
def lineBefore : Parse Bool :=
  return (← get).lexeme.line

/-- Keeps the first fault. -/
def State.note (s : State) (fault : Fault) : State :=
  { s with noted := s.noted.or (some fault) }

/-- Keeps the first fault, if there is one. -/
def State.noteAny (s : State) (fault : Option Fault) : State :=
  { s with noted := s.noted.or fault }

/-- Goes on with the token that `rest` starts with. -/
def advanceTo (rest : List Char) : Parse Unit :=
  modify fun s =>
    let next := Lexeme.next rest
    let s := { s with lexeme := next, trail := s.lexeme :: s.trail }.noteAny next.note
    if s.context.strict then s.noteAny next.strictNote else s

/-- Takes the current token. -/
def advance : Parse Unit := do
  advanceTo (← get).lexeme.rest

/-- The token behind the current one. -/
def peek : Parse Lexeme :=
  return Lexeme.next (← get).lexeme.rest

/-- Takes a broken token and throws its fault. -/
def refuseBroken : Parse Unit := do
  if let .broken cause := ← token then
    advance
    throw cause

/-- Takes a broken token and notes its fault. -/
def noteBroken : Parse Unit := do
  if let .broken cause := ← token then
    modify (·.note cause)
    advance

/-- Ends the production with a fault.  A broken token is noted first and taken. -/
def fail {α : Type} (fault : Fault) : Parse α := do
  noteBroken
  throw fault

/-- Ends the whole parse with a fault. -/
def halt {α : Type} (fault : Fault) : Parse α := do
  modify fun s => { s with halted := true }
  throw fault

/-- Takes a fault up and goes on, unless the whole parse has ended with it. -/
def recover {α : Type} (p : Parse α) (handle : Fault → Parse α) : Parse α :=
  tryCatch p fun fault => do
    if (← get).halted then throw fault
    handle fault

/-- Notes a fault and goes on.  A broken token is noted first and taken. -/
def note (fault : Fault) : Parse Unit := do
  noteBroken
  modify (·.note fault)

/-- Notes a fault, if there is one. -/
def noteAny (fault : Option Fault) : Parse Unit :=
  match fault with
  | some fault => note fault
  | none => pure ()

/-- Whether the current token is a punctuator. -/
def at? (p : Punct) : Parse Bool :=
  return (← token) == .punct p

/-- Whether the current token is a reserved word. -/
def atWord? (word : String) : Parse Bool :=
  return (← token) == .keyword word

/-- Whether the current token is a certain name. -/
def atName? (text : String) : Parse Bool :=
  return (← token) == .name text

/-- Takes the current token if it is `t`. -/
def eatToken (t : Token) : Parse Bool := do
  if (← token) == t then
    advance
    return true
  else
    return false

/-- Takes a punctuator if it is there. -/
def eat (p : Punct) : Parse Bool :=
  eatToken (.punct p)

/-- Takes a punctuator that has to be there. -/
def expect (p : Punct) : Parse Unit := do
  unless ← eat p do
    fail (.expected p.text (← token).display)

/-- Takes a reserved word that has to be there. -/
def expectWord (word : String) : Parse Unit := do
  unless ← eatToken (.keyword word) do
    fail (.expected word (← token).display)

/-- Takes a name or a reserved word that has to be there, and gives its text. -/
def anyWord : Parse String := do
  match ← token with
  | .name text | .keyword text =>
    advance
    return text
  | _ => fail .nameExpected

/-- Whether a statement can end here: at a semicolon, a closing brace, the end of the script or a
new line. -/
def atStatementEnd : Parse Bool := do
  match ← token with
  | .punct .semicolon | .punct .closeBrace | .endOfInput => return true
  | _ => lineBefore

/-- Ends a statement, if it can end here. -/
def eatStatementEnd : Parse Bool := do
  if ← eat .semicolon then return true else atStatementEnd

/-- Ends a statement that has to end here. -/
def expectStatementEnd : Parse Unit := do
  unless ← eatStatementEnd do
    fail (.expected Punct.semicolon.text (← token).display)

/-- Runs a parse in another context. -/
def within {α : Type} (change : Context → Context) (p : Parse α) : Parse α := fun s =>
  let (result, s') := p.run { s with context := change s.context }
  (result, { s' with context := s.context })

/-- Runs a parse where `in` is an operator, or is none. -/
def withIn {α : Type} (allow : Bool) (p : Parse α) : Parse α :=
  within (fun c => { c with allowIn := allow }) p

/-- Runs a parse that belongs to another function: neither its labels nor its pauses are those
around it. -/
def apart {α : Type} (p : Parse α) : Parse α := fun s =>
  let (result, s') := p.run { s with labels := [], pause := none }
  (result, { s' with labels := s.labels, pause := s.pause })

/-- The current context. -/
def context : Parse Context :=
  return (← get).context

/-- Notes a fault of strict code. -/
def noteStrict (fault : Fault) : Parse Unit := do
  if (← context).strict then note fault

/-- Remembers that the function pauses at the current token. -/
def markPause (fault : Fault) : Parse Unit :=
  modify fun s => { s with pause := some (s.taken, fault) }

/-- A number of steps that no list of items in the rest of the script exceeds. -/
def bound : Parse Nat :=
  return (← get).lexeme.start.length + 2

/-- Repeats a step until it gives a result, at most a number of times. -/
def iterate {σ α : Type} : Nat → (σ → Parse (Sum σ α)) → σ → Parse α
  | 0, _, _ => throw .tooDeep
  | n + 1, step, s => do
    match ← step s with
    | .inl s => iterate n step s
    | .inr a => return a

/-! ## Goals -/

/-- How a function is written. -/
structure FunctionForm where
  async : Bool := false
  generator : Bool := false
  /-- A method, which can reach the members of its parent class. -/
  method : Bool := false
  /-- The number of parameters that an accessor has to have. -/
  accessor : Option Nat := none

/-- The productions that can contain themselves. -/
inductive Goal : Type → Type where
  /-- Expressions divided by commas. -/
  | expression : Goal Shape
  | assignment : Goal Shape
  | unary : Goal Shape
  /-- What follows `left`, by operators that bind more tightly than `least`. -/
  | operators (left : Shape) (least : Nat) : Goal Shape
  | leftHand : Goal Shape
  /-- A construction, or what can be constructed. -/
  | member : Goal Shape
  /-- A binding pattern; with `lexical`, one that must not be named `let`. -/
  | pattern (lexical : Bool) : Goal Pattern
  /-- A statement; with `declarations`, also a declaration. -/
  | statement (declarations : Bool) : Goal Unit
  | block : Goal Unit
  /-- The parameters and the body of a function. -/
  | function (form : FunctionForm) : Goal Unit
  /-- A class from behind its name. -/
  | classTail : Goal Unit

/-- How the productions reach one another. -/
abbrev Reach := {α : Type} → Goal α → Parse α

end Stencil.Ecma
