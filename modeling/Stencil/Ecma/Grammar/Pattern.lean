import Stencil.Ecma.Parse

/-!
# Names, keys and binding patterns
-/

namespace Stencil.Ecma

/-! ## Names -/

/-- Names that strict code reserves. -/
def strictWords : List String :=
  ["implements", "interface", "let", "package", "private", "protected", "public", "static",
   "yield"]

/-- Whether a name has a meaning of its own where it stands, even in code that is not strict. -/
def isPauseWord (c : Context) (text : String) : Bool :=
  (text == "await" && (c.async || c.inStatic)) || (text == "yield" && c.generator)

/-- Whether a word cannot be a variable where it stands. -/
def isReservedHere (c : Context) (text : String) : Bool :=
  reservedWords.contains text || isPauseWord c text || (c.strict && strictWords.contains text)

/-- Notes what is wrong with a name that is used as a variable. -/
def checkName (text : String) : Parse Unit := do
  if strictWords.contains text then noteStrict (.strictName text)
  if text == "arguments" && (← context).inField then note .argumentsInField

/-- Takes a name that is declared here; with `lexical`, one that is not `let`. -/
def bindingName (lexical : Bool) : Parse Unit := do
  match ← token with
  | .name text =>
    if lexical && text == "let" then
      fail (.unexpected text "let is reserved in const, let, class declaration")
    checkName text
    advance
    if isPauseWord (← context) text then note .nameExpected
    if text == "eval" || text == "arguments" then noteStrict .strictBinding
  | _ => fail .nameExpected

/-! ## Keys -/

/-- The key of a property. -/
inductive Key where
  | name (text : String)
  | other

/-- Reads the key of a property. -/
def propertyKey (reach : Reach) : Parse Key := do
  match ← token with
  | .name text | .keyword text =>
    advance
    return .name text
  | .string _ | .number | .bigint =>
    advance
    return .other
  | .punct .openBracket =>
    advance
    let _ ← withIn true (reach .assignment)
    expect .closeBracket
    return .other
  | t =>
    fail (.unexpected t.display
      "identifier, string literal, numeric literal or [ for the computed key")

/-! ## Binding patterns -/

/-- A pattern that may have a default value; whether it is a single name without one. -/
def bindingElement (reach : Reach) : Parse Bool := do
  let pattern ← reach (.pattern false)
  if ← eat .assign then
    let _ ← withIn true (reach .assignment)
    return false
  return pattern == .name

/-- The elements of an array pattern, from behind its bracket. -/
def arrayPattern (reach : Reach) : Parse Unit := do
  iterate (← bound) (fun restSeen => do
    if (← at? .closeBracket) || (← token) == .endOfInput then return .inr ()
    if ← eat .comma then return .inl restSeen
    if restSeen then note .restNotLast
    let isRest ← eat .ellipsis
    if isRest then
      let _ ← reach (.pattern false)
    else
      let _ ← bindingElement reach
    unless ← at? .closeBracket do
      expect .comma
      if isRest && (← at? .closeBracket) then note .commaAfterRest
    return .inl (restSeen || isRest)) false
  expect .closeBracket

/-- One property of an object pattern. -/
def patternProperty (reach : Reach) : Parse Unit := do
  let key ← propertyKey reach
  if ← eat .colon then
    let _ ← bindingElement reach
  else
    match key with
    | .other => fail (.unexpected (← token).display "an identifier")
    | .name text =>
      if ← eat .assign then
        let _ ← withIn true (reach .assignment)
      else if isReservedHere (← context) text then note .reservedShorthand

/-- The properties of an object pattern, from behind its brace. -/
def objectPattern (reach : Reach) : Parse Unit := do
  iterate (← bound) (fun restSeen => do
    if ← eat .closeBrace then return .inr ()
    if restSeen then note .restNotLast
    let isRest ← eat .ellipsis
    if isRest then
      if (← reach (.pattern false)) != .name then fail .restWithoutName
    else
      patternProperty reach
    unless ← at? .closeBrace do
      expect .comma
      if isRest && (← at? .closeBrace) then note .commaAfterRest
    return .inl (restSeen || isRest)) false

/-- A binding pattern. -/
def bindingPattern (reach : Reach) (lexical : Bool) : Parse Pattern := do
  match ← token with
  | .name _ | .keyword _ =>
    bindingName lexical
    return .name
  | .punct .openBracket =>
    advance
    arrayPattern reach
    return .compound
  | .punct .openBrace =>
    advance
    objectPattern reach
    return .compound
  | t => fail (.unexpected t.display "yield, an identifier, [ or \x7b")

end Stencil.Ecma
