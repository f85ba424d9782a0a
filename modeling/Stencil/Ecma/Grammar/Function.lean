import Stencil.Ecma.Grammar.Pattern

/-!
# Functions and classes
-/

namespace Stencil.Ecma

/-! ## Functions -/

/-- What is known of the parameters of a function. -/
structure Parameters where
  count : Nat := 0
  /-- Each of them is a single name. -/
  simple : Bool := true
  /-- One of them takes all remaining arguments. -/
  restSeen : Bool := false
  /-- The first one takes all arguments. -/
  restFirst : Bool := false

/-- The formal parameters up to the closing parenthesis. -/
def formalParameters (reach : Reach) : Parse Parameters := do
  iterate (← bound) (fun ps => do
    if (← at? .closeParen) || (← token) == .endOfInput then return .inr ps
    if ps.restSeen then note .restNotLast
    let isRest ← eat .ellipsis
    let single ←
      if isRest then do
        let _ ← reach (.pattern false)
        if ← eat .assign then
          let _ ← reach .assignment
          note .restWithDefault
        pure false
      else bindingElement reach
    unless ← at? .closeParen do
      expect .comma
      if isRest && (← at? .closeParen) then note .commaAfterRest
    return .inl {
      count := ps.count + 1
      simple := ps.simple && single
      restSeen := ps.restSeen || isRest
      restFirst := ps.restFirst || (isRest && ps.count == 0) }) ({} : Parameters)

/-- Statements up to a closing brace. -/
def statementsToBrace (reach : Reach) : Parse Unit := do
  iterate (← bound) (fun _ => do
    if (← at? .closeBrace) || (← token) == .endOfInput then return .inr ()
    reach (.statement true)
    return .inl ()) ()

/-- The brace that closes a block.  It may be missing at the end of the script, which is noted. -/
def closeBlock : Parse Unit := do
  if (← token) == .endOfInput then
    note (.expected Punct.closeBrace.text Token.endOfInput.display)
  else expect .closeBrace

/-- The text of the directive that makes code strict. -/
def strictDirective : List Char := "use strict".toList

/-- Whether the directive that makes code strict stands here, behind other strings perhaps.  The
first argument bounds the number of strings. -/
def strictAhead : Nat → Lexeme → Bool
  | 0, _ => false
  | n + 1, lexeme =>
    match lexeme.token with
    | .string raw =>
      if raw = strictDirective then true
      else
        let next := Lexeme.next lexeme.rest
        if next.token = .punct .semicolon then strictAhead n (Lexeme.next next.rest)
        else strictAhead n next
    | _ => false

/-- The body of a function in braces.  Its first string can make it strict if it has `directives`,
and must not if the parameters are not simple. -/
def functionBody (reach : Reach) (change : Context → Context) (simple directives : Bool) :
    Parse Unit :=
  apart <| within (fun c => change { c with
      inFunction := true, inParameters := false, inStatic := false, canBreak := false,
      canContinue := false, allowIn := true, loopHead := false }) do
    expect .openBrace
    let first := (← get).lexeme
    let strict := directives && first.token == .string strictDirective
    within (fun c => { c with strict := c.strict || strict }) (statementsToBrace reach)
    closeBlock
    if !simple && strictAhead (first.start.length) first then note .strictParameters

/-- The parameters and the body of a function that is no arrow function.  A semicolon between them
is skipped. -/
def functionTail (reach : Reach) (form : FunctionForm) : Parse Unit := do
  let change (c : Context) : Context := { c with
    async := form.async, generator := form.generator, newTarget := true,
    superMember := form.method, inField := false, inStatic := false }
  let ps ← apart <| within (fun c => change { c with
      inParameters := true, inFunction := false, allowIn := true }) do
    expect .openParen
    let ps ← formalParameters reach
    match form.accessor with
    | some 0 => if ps.count != 0 then note .getterParameters
    | some _ =>
      if ps.count != 1 then note .setterParameters
      if ps.restFirst then note .restInSetter
    | none => pure ()
    expect .closeParen
    return ps
  let _ ← eat .semicolon
  functionBody reach change ps.simple true

/-- A function from behind its keyword; in a declaration the name has to be there. -/
def functionFromKeyword (reach : Reach) (async declaration : Bool) : Parse Unit := do
  let generator ← eat .star
  if declaration then
    within (fun c => { c with inField := false }) (bindingName false)
  else
    within (fun c => { c with async, generator, inField := false }) do
      match ← token with
      | .name text => unless isReservedHere (← context) text do bindingName false
      | _ => pure ()
  reach (.function { async, generator })

/-- The body of an arrow function, from behind the arrow. -/
def arrowBody (reach : Reach) (async simple : Bool) : Parse Shape := do
  let change (c : Context) : Context := { c with async, generator := false }
  if ← at? .openBrace then
    functionBody reach change simple false
  else
    let _ ← apart <| within
      (fun c => change { c with
        inFunction := true, inParameters := false, canBreak := false, canContinue := false })
      (reach .assignment)
  return Shape.plain .arrow

/-! ## Classes -/

/-- Whether a field can end here, or its value follows.  With `asi` a new line ends it too. -/
def atFieldRest (asi : Bool) : Parse Bool := do
  match ← token with
  | .punct .assign | .punct .closeBrace | .punct .semicolon => return true
  | .endOfInput => return asi
  | _ => if asi then lineBefore else return false

/-- The private name behind a hash, which stands right before it. -/
def privateName : Parse String := do
  let behind := (← get).lexeme.rest
  advance
  if (← get).lexeme.start.length != behind.length then fail .spaceAfterHash
  anyWord

/-- The key of a member. -/
def memberKey (reach : Reach) : Parse Key := do
  match ← token with
  | .punct .hash =>
    if (← privateName) == "constructor" then note .privateConstructor
    return .other
  | .string raw =>
    advance
    return if raw = "constructor".toList then .name "constructor" else .other
  | _ => propertyKey reach

/-- Whether a member with a key is the constructor. -/
def Key.isConstructor (key : Key) (isStatic : Bool) : Bool :=
  match key with
  | .name text => text == "constructor" && !isStatic
  | .other => false

/-- A method, from its parameters on. -/
def method (reach : Reach) (form : FunctionForm) : Parse Unit :=
  reach (.function { form with method := true })

/-- A field whose key has been read. -/
def fieldRest (reach : Reach) (isConstructor : Bool) : Parse Unit := do
  if isConstructor then fail .fieldNamedConstructor
  within (fun c => { c with
      allowIn := true, inField := true, superMember := true, newTarget := true }) do
    if ← eat .assign then
      let _ ← reach .assignment
    unless ← eatStatementEnd do note .semicolonExpected

/-- A block that runs with the class. -/
def staticBlock (reach : Reach) : Parse Unit :=
  within (fun c => { c with
    inField := true, inStatic := true, superMember := true, newTarget := true }) (reach .block)

/-- A member whose key is a word that can also stand before a key. -/
def markedMember (reach : Reach) (text : String) (isStatic : Bool) : Parse Unit := do
  let line ← lineBefore
  if text == "async" && !line then
    let generator ← eat .star
    let key ← memberKey reach
    if key.isConstructor isStatic then fail .asyncConstructor
    method reach { async := true, generator }
  else if text == "get" || text == "set" then
    let key ← memberKey reach
    if key.isConstructor isStatic then note .accessorConstructor
    method reach { accessor := some (if text == "get" then 0 else 1) }
  else
    fail (.unexpected (← token).display "* for generator, private key, identifier or async")

/-- A member from its key on; whether it is the constructor. -/
def memberFromKey (reach : Reach) (isStatic : Bool) : Parse Bool := do
  if ← eat .star then
    let key ← memberKey reach
    if key.isConstructor isStatic then note .generatorConstructor
    method reach { generator := true }
    return false
  let key ← memberKey reach
  let isConstructor := key.isConstructor isStatic
  if ← at? .openParen then
    method reach {}
    return isConstructor
  let nextLineGenerator := (← lineBefore) && (← at? .star)
  let text := match key with
    | .name text => text
    | .other => ""
  let accessor := (text == "get" || text == "set") && !(← atFieldRest false) && !nextLineGenerator
  if !accessor && (← atFieldRest true) then fieldRest reach isConstructor
  else markedMember reach text isStatic
  return false

/-- One member of a class; whether it is the constructor. -/
def classMember (reach : Reach) : Parse Bool := do
  if ← eatToken (.name "static") then
    if ← at? .openParen then
      method reach {}
      return false
    if ← at? .openBrace then
      staticBlock reach
      return false
    if ← atFieldRest false then
      fieldRest reach false
      return false
    memberFromKey reach true
  else memberFromKey reach false

/-- A class from behind its name: what it extends and its members.  All of it is strict. -/
def classTail (reach : Reach) : Parse Unit :=
  within (fun c => { c with strict := true }) do
    if ← eatToken (.keyword "extends") then
      let _ ← reach .leftHand
    expect .openBrace
    within (fun c => { c with superMember := true }) do
      iterate (← bound) (fun hasConstructor => do
        if (← at? .closeBrace) || (← token) == .endOfInput then return .inr ()
        if ← eat .semicolon then return .inl hasConstructor
        let isConstructor ← classMember reach
        if isConstructor && hasConstructor then note .repeatedConstructor
        return .inl (hasConstructor || isConstructor)) false
    closeBlock

/-- A class from behind its keyword; in a declaration the name has to be there. -/
def classFromKeyword (reach : Reach) (declaration : Bool) : Parse Unit := do
  within (fun c => { c with strict := true }) do
    if declaration then bindingName true
    else
      match ← token with
      | .name text => unless isReservedHere (← context) text do bindingName true
      | _ => pure ()
  reach .classTail

end Stencil.Ecma
