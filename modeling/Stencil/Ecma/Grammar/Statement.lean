import Stencil.Ecma.Grammar.Expression

/-!
# Statements
-/

namespace Stencil.Ecma

/-! ## Declarations of variables -/

/-- The ways to declare variables. -/
inductive Declaration where
  | var
  | letting
  | const
  deriving DecidableEq

/-- Whether a loop goes on with what it runs over. -/
def atLoopWord : Parse Bool :=
  return (← atWord? "in") || (← atName? "of")

/-- One variable or pattern with its value; whether it has a value.  Constants and patterns need one,
except in the head of a loop that gives it. -/
def declarator (reach : Reach) (kind : Declaration) (inLoop : Bool) : Parse Bool := do
  let pattern ← reach (.pattern (kind != .var))
  if inLoop && (← atLoopWord) then return false
  if ← eat .assign then
    let _ ← reach .assignment
    return true
  if kind == .const then note .constWithoutValue
  else if pattern == .compound then fail .patternWithoutValue
  return false

/-- Declared variables: how many there are, and whether the first has a value. -/
def declarators (reach : Reach) (kind : Declaration) (inLoop : Bool) : Parse (Nat × Bool) := do
  iterate (← bound) (fun (count, first) => do
    if ← at? .semicolon then
      note .trailingComma
      return .inr (count, first)
    let hasValue ← declarator reach kind inLoop
    let state := (count + 1, if count == 0 then hasValue else first)
    return if ← eat .comma then .inl state else .inr state) (0, false)

/-- Skips the rest of a declaration that does not end where it should, which is noted. -/
def skipDeclaration (reach : Reach) : Parse Unit := do
  note .semicolonExpected
  recover (do let _ ← reach .expression) fun _ => pure ()
  iterate (← bound) (fun _ => do
    if ← eatStatementEnd then return .inr ()
    advance
    return .inl ()) ()

/-- A declaration of variables, from behind its keyword. -/
def declarationRest (reach : Reach) (kind : Declaration) : Parse Unit := do
  let _ ← withIn true (declarators reach kind false)
  unless ← eatStatementEnd do skipDeclaration reach

/-- Whether a token behind the word `let` makes it declare something. -/
def followsLet : Token → Bool
  | .name _ | .punct .openBracket | .punct .openBrace => true
  | _ => false

/-- The declaration that starts at the current token. -/
def declaration? : Parse (Option Declaration) := do
  match ← token with
  | .keyword "var" => return some .var
  | .keyword "const" => return some .const
  | .name "let" => return if followsLet (← peek).token then some .letting else none
  | _ => return none

/-! ## Simple statements -/

/-- The label of a jump. -/
def jumpLabel : Parse (Option String) := do
  if ← eatStatementEnd then return none
  match ← token with
  | .name text =>
    if isPauseWord (← context) text then fail .nameExpected
    checkName text
    advance
    expectStatementEnd
    return some text
  | _ => fail .nameExpected

/-- A jump out of a statement. -/
def breakStatement : Parse Unit := do
  advance
  let label ← jumpLabel
  match label with
  | some text => unless (← get).labels.contains text do note .unknownBreakLabel
  | none => unless (← context).canBreak do note .breakNotAllowed

/-- A jump to the next round of a loop. -/
def continueStatement : Parse Unit := do
  advance
  let label ← jumpLabel
  if !(← context).canContinue then note .continueNotAllowed
  else if let some text := label then
    unless (← get).labels.contains text do note .unknownContinueLabel

/-- The result of a function. -/
def returnStatement (reach : Reach) : Parse Unit := do
  advance
  unless ← atStatementEnd do
    let _ ← withIn true (reach .expression)
  expectStatementEnd
  unless (← context).inFunction do note .returnNotAllowed

/-- An exception; its value stands on the same line. -/
def throwStatement (reach : Reach) : Parse Unit := do
  advance
  if ← lineBefore then fail .lineBreakAfterThrow
  let _ ← withIn true (reach .expression)
  expectStatementEnd

/-- A labelled statement, from behind the colon. -/
def labelled (reach : Reach) (label : String) : Parse Unit := do
  let labels := (← get).labels
  modify fun s => { s with labels := label :: s.labels }
  within (fun c => { c with canBreak := true }) do
    if ← eatToken (.keyword "function") then
      let generator ← at? .star
      functionFromKeyword reach false true
      noteStrict .labelledInStrict
      if generator then note .labelledFunction
    else
      reach (.statement false)
  if labels.contains label then note (.repeatedLabel label)
  modify fun s => { s with labels }

/-- An expression as a statement, or a labelled statement.  An operator where the statement should
end is noted, and reading goes on with it. -/
def expressionStatement (reach : Reach) : Parse Unit := do
  let e ← withIn true (reach .expression)
  if let .name text := e.form then
    if ← eat .colon then return ← labelled reach text
  unless ← eatStatementEnd do
    match ← token with
    | .punct p =>
      if p.precedence?.isSome then
        note .semicolonExpected
        let _ ← reach (.operators e 0)
      else fail .statementEndExpected
    | _ => fail .statementEndExpected

/-- An import or an export at the place of a statement; only an import that is an expression can
stand there. -/
def importStatement (reach : Reach) : Parse Unit := do
  let next := (← peek).token
  if (← atWord? "import") && (next == .punct .openParen || next == .punct .dot) then
    let _ ← reach .expression
    let _ ← eatStatementEnd
  else fail .importNotAllowed

/-! ## Compound statements -/

/-- An expression in parentheses behind a keyword. -/
def parenthesised (reach : Reach) : Parse Unit := do
  expect .openParen
  let _ ← withIn true (reach .expression)
  expect .closeParen

/-- A conditional statement. -/
def ifStatement (reach : Reach) : Parse Unit := do
  advance
  parenthesised reach
  reach (.statement false)
  if ← eatToken (.keyword "else") then reach (.statement false)

/-- The body of a loop. -/
def loopBody (reach : Reach) : Parse Unit :=
  within (fun c => { c with canBreak := true, canContinue := true }) (reach (.statement false))

/-- A loop that tests before each round. -/
def whileStatement (reach : Reach) : Parse Unit := do
  advance
  parenthesised reach
  loopBody reach

/-- A loop that tests behind each round. -/
def doStatement (reach : Reach) : Parse Unit := do
  advance
  loopBody reach
  expectWord "while"
  parenthesised reach
  let _ ← eat .semicolon

/-- The test and the step of a loop with three parts, from behind the first semicolon.  The second
semicolon may be missing behind a test. -/
def loopParts (reach : Reach) : Parse Unit := do
  unless ← eat .semicolon do
    let _ ← withIn true (reach .expression)
    let _ ← eat .semicolon
  unless ← at? .closeParen do
    let _ ← withIn true (reach .expression)

/-- What a loop runs over, from the word `in` or `of` on; whether the word is `of`. -/
def loopSource (reach : Reach) : Parse Bool := do
  if ← eatToken (.name "of") then
    let _ ← withIn true (reach .assignment)
    return true
  else
    advance
    let _ ← withIn true (reach .expression)
    return false

/-- A loop head that declares variables, from behind its keyword; whether it runs over the items of
`of`. -/
def declaringHead (reach : Reach) (kind : Declaration) : Parse Bool := do
  let c ← context
  let (count, hasValue) ← withIn (c.allowIn || kind != .var) (declarators reach kind true)
  if ← atLoopWord then
    if count != 1 then note .severalLoopVariables
    else if hasValue && (c.strict || (← atName? "of")) then note .loopInitializer
    loopSource reach
  else
    expect .semicolon
    loopParts reach
    return false

/-- A loop head that starts with an expression; whether it runs over the items of `of`. -/
def expressionHead (reach : Reach) : Parse Bool := do
  let first ← withIn false (reach .expression)
  if ← atLoopWord then
    match first.form with
    | .array | .object => noteAny first.target
    | _ => unless first.simple do note .targetNotAssignable
    loopSource reach
  else
    expect .semicolon
    loopParts reach
    return false

/-- A loop head, inside its parentheses; whether it runs over the items of `of`. -/
def loopHead (reach : Reach) : Parse Bool := do
  match ← declaration? with
  | some kind =>
    advance
    declaringHead reach kind
  | none =>
    if ← eat .semicolon then
      loopParts reach
      return false
    else expressionHead reach

/-- A loop with a head. -/
def forStatement (reach : Reach) : Parse Unit := do
  advance
  let awaits ← eatToken (.name "await")
  if awaits && !(← context).async then note .awaitOutsideAsync
  expect .openParen
  let overItems ← within (fun c => { c with loopHead := true, awaitHead := awaits })
    (loopHead reach)
  expect .closeParen
  loopBody reach
  if awaits && !overItems then fail .forAwaitWithoutOf

/-- The handler of a guarded block, if there is one. -/
def catchClause (reach : Reach) : Parse Bool := do
  if ← eatToken (.keyword "catch") then
    if ← eat .openParen then
      let _ ← reach (.pattern false)
      expect .closeParen
    reach .block
    return true
  return false

/-- The closing part of a guarded block, if there is one. -/
def finallyClause (reach : Reach) : Parse Bool := do
  if ← eatToken (.keyword "finally") then
    reach .block
    return true
  return false

/-- A guarded block with its handler, its closing part or both. -/
def tryStatement (reach : Reach) : Parse Unit := do
  advance
  reach .block
  let caught ← catchClause reach
  let closed ← finallyClause reach
  unless caught || closed do note .semicolonExpected

/-- A handler without a guarded block, which is noted and skipped. -/
def strayHandler (reach : Reach) : Parse Unit := do
  note .semicolonExpected
  recover (do let _ ← catchClause reach) fun _ => pure ()
  recover (do let _ ← finallyClause reach) fun _ => pure ()

/-- The statements of a case. -/
def caseBody (reach : Reach) : Parse Unit := do
  iterate (← bound) (fun _ => do
    match ← token with
    | .keyword "case" | .keyword "default" | .punct .closeBrace => return .inr ()
    | _ =>
      reach (.statement true)
      return .inl ()) ()

/-- A choice among cases. -/
def switchStatement (reach : Reach) : Parse Unit := do
  advance
  parenthesised reach
  expect .openBrace
  within (fun c => { c with canBreak := true }) do
    iterate (← bound) (fun hasDefault => do
      match ← token with
      | .keyword "case" =>
        advance
        let _ ← withIn true (reach .expression)
        expect .colon
        caseBody reach
        return .inl hasDefault
      | .keyword "default" =>
        advance
        if hasDefault then fail .repeatedDefault
        expect .colon
        caseBody reach
        return .inl true
      | _ => return .inr ()) false
  expect .closeBrace

/-- A statement whose names are looked up in an object. -/
def withStatement (reach : Reach) : Parse Unit := do
  noteStrict .strictWith
  advance
  parenthesised reach
  reach (.statement false)

/-- A block, at its brace. -/
def block (reach : Reach) : Parse Unit := do
  expect .openBrace
  statementsToBrace reach
  closeBlock

/-! ## All statements -/

/-- The statement that starts with a reserved word. -/
def wordStatement (reach : Reach) (declarations : Bool) (word : String) : Parse Unit := do
  match word with
  | "break" => breakStatement
  | "continue" => continueStatement
  | "debugger" =>
    advance
    expectStatementEnd
  | "do" => doStatement reach
  | "for" => forStatement reach
  | "function" =>
    unless declarations do note .declarationNotAllowed
    advance
    functionFromKeyword reach false true
  | "class" =>
    unless declarations do note .declarationNotAllowed
    advance
    classFromKeyword reach true
  | "if" => ifStatement reach
  | "return" => returnStatement reach
  | "switch" => switchStatement reach
  | "throw" => throwStatement reach
  | "try" => tryStatement reach
  | "with" => withStatement reach
  | "while" => whileStatement reach
  | "var" =>
    advance
    declarationRest reach .var
  | "const" =>
    if declarations then
      advance
      declarationRest reach .const
    else expressionStatement reach
  | "catch" | "finally" => strayHandler reach
  | "import" | "export" => importStatement reach
  | _ => expressionStatement reach

/-- A statement or, with `declarations`, a declaration. -/
def statement (reach : Reach) (declarations : Bool) : Parse Unit := do
  match ← token with
  | .keyword word => wordStatement reach declarations word
  | .punct .openBrace => reach .block
  | .punct .semicolon => advance
  | .name "let" =>
    if declarations && followsLet (← peek).token then
      advance
      declarationRest reach .letting
    else expressionStatement reach
  | .name "async" =>
    let next ← peek
    if next.token == .keyword "function" && !next.line then
      advance
      advance
      functionFromKeyword reach true true
    else expressionStatement reach
  | _ => expressionStatement reach

end Stencil.Ecma
