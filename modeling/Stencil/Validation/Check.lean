import Stencil.Directive.Name
import Stencil.Ecma.Script
import Stencil.Problem
import Stencil.Tree.Basic
import Stencil.Validation.Strip
import Stencil.Validation.Word

/-!
# Checks of a tree

Every piece of code in a tree has to compile.  `Tree.checks?` lists the checks that a tree calls
for, in the order of a walk through it, and `Check.problem?` makes one of them.  A tree given from
outside may hold a cycle below its root, and then its walk never ends and there is no list of
checks.
-/

namespace Stencil

open Text Validation

/-! ## Checkers -/

/-- Decides whether code compiles; it never runs it.  The text of an error says why not. -/
structure Checker where
  /-- Checks the body of a function without parameters. -/
  body : String → Except String Unit
  /-- Checks the parameters of a function with an empty body. -/
  parameters : String → Except String Unit

/-- The checker of the scripting language. -/
def Checker.ecma : Checker where
  body code := (Ecma.bodyFault? code).elim (.ok ()) fun fault => .error fault.message
  parameters code := (Ecma.parametersFault? code).elim (.ok ()) fun fault => .error fault.message

/-- A question to a checker. -/
inductive SyntaxCall where
  | body (code : String)
  | parameters (code : String)
  deriving DecidableEq

/-! ## Checks -/

/-- What has to be checked. -/
inductive CheckKind where
  /-- An expression. -/
  | expression
  /-- The handler of an event must call no unary operator like a method. -/
  | unaryCalls
  /-- A name that a loop declares. -/
  | identifier (role : String)
  /-- The parameters of a slot. -/
  | parameters
  deriving DecidableEq

/-- A check of a piece of code. -/
structure Check where
  kind : CheckKind
  code : String
  /-- How the code looks in the template. -/
  raw : String
  span : Option Span
  deriving DecidableEq

namespace Check

/-- The question that a check asks. -/
def call? (c : Check) : Option SyntaxCall :=
  match c.kind with
  | .expression => some (.body ("return " ++ c.code))
  | .unaryCalls => none
  | .identifier _ => some (.body ("var " ++ c.code ++ "=_"))
  | .parameters => some (.parameters c.code)

/-- Why an expression that does not compile is refused. -/
def refusal (c : Check) (message : String) : Problem :=
  match findKeyword? none (strip c.code.toList) with
  | some keyword => .prohibitedKeyword keyword (trim c.raw)
  | none => .invalidExpression message c.code (trim c.raw)

/-- The problem that a check finds. -/
def problem? (checker : Checker) (c : Check) : Option Problem :=
  match c.kind with
  | .expression =>
    match checker.body ("return " ++ c.code) with
    | .ok () => none
    | .error message => some (c.refusal message)
  | .unaryCalls =>
    match findUnary? none (strip c.code.toList) with
    | none | some (some '$', _) => none
    | some (_, call) => some (.unaryOperator (String.ofList call) (trim c.raw))
  | .identifier role =>
    match checker.body ("var " ++ c.code ++ "=_") with
    | .ok () => none
    | .error _ => some (.invalidIdentifier role c.code (trim c.raw))
  | .parameters =>
    match checker.parameters c.code with
    | .ok () => none
    | .error message => some (.invalidParameters message c.code (trim c.raw))

/-- The diagnostic that a check gives. -/
def diagnostic? (checker : Checker) (c : Check) : Option Diagnostic :=
  (c.problem? checker).map fun problem => problem.diagnostic c.span

end Check

/-! ## The checks of an element -/

/-- The checks of a loop: what it runs over and the names it declares. -/
def Element.loopChecks (e : Element) (raw : String) (span : Option Span) : List Check :=
  let name (role : String) (code : Option String) : List Check :=
    code.toList.map fun code => ⟨.identifier role, code, raw, span⟩
  ⟨.expression, e.loopSource.getD "", raw, span⟩ ::
    (name "v-for alias" e.loopItem ++ name "v-for iterator" e.iterator1 ++
      name "v-for iterator" e.iterator2)

/-- The checks of an attribute, by its name. -/
def Element.attributeChecks (e : Element) (name value : String) : List Check :=
  if !isDirective name || value.isEmpty then []
  else
    let span := e.attributeSpan name
    let raw := name ++ "=\"" ++ value ++ "\""
    if name == "v-for" then e.loopChecks raw span
    else if name == "v-slot" || hasStart name "#" then [⟨.parameters, value, raw, span⟩]
    else if isEvent name then [⟨.unaryCalls, value, raw, span⟩, ⟨.expression, value, raw, span⟩]
    else [⟨.expression, value, raw, span⟩]

/-- The checks of an element itself, in the order of its attributes. -/
def Element.checks (e : Element) : List Check :=
  e.written.entries.flatMap fun (name, value) => e.attributeChecks name value

/-! ## The walk -/

namespace Tree

/-- The checks of a node and what hangs under it, down to a depth; `none` if that is not enough. -/
def checksAt? (t : Tree) : Nat → NodeId → Option (List Check)
  | 0, _ => none
  | depth + 1, id =>
    match t.get? id with
    | some (.element e) => do
      let below ← e.children.mapM (t.checksAt? depth)
      return e.checks ++ below.flatten
    | some (.expression code _ text span _) => some [⟨.expression, code, text, span⟩]
    | some (.text ..) | none => some []

/-- The checks of a tree in the order of a walk from its root.  A walk that goes deeper than there
are nodes runs in a cycle. -/
def checks? (t : Tree) : Option (List Check) :=
  match t.root with
  | none => some []
  | some root => t.checksAt? (t.nodes.length + 1) root

/-- The questions that checking a tree asks, in their order. -/
def syntaxCalls? (t : Tree) : Option (List SyntaxCall) :=
  t.checks?.map fun checks => checks.filterMap Check.call?

/-- The diagnostics of a tree, in the order of the walk. -/
def diagnostics? (t : Tree) (checker : Checker) : Option (List Diagnostic) :=
  t.checks?.map fun checks => checks.filterMap (Check.diagnostic? checker)

/-- The reports that checking a tree makes; none of them is only a tip. -/
def reports? (t : Tree) (checker : Checker) : Option (List Report) :=
  (t.diagnostics? checker).map fun diagnostics => diagnostics.map fun d => ⟨d, false⟩

end Tree

end Stencil
