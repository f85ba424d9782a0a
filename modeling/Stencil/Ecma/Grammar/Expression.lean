import Stencil.Ecma.Grammar.Function

/-!
# Expressions

The productions follow the grammar from the loosest to the tightest: a sequence, an assignment, a
conditional, binary operators, unary operators, calls and members, and primary expressions.

Arrow functions and assignment patterns start like ordinary expressions, so they are read as such
and then checked: a `Shape` knows why its expression could not be a pattern.
-/

namespace Stencil.Ecma

open Text

/-! ## Literals -/

/-- The first character that stands twice in a text. -/
def repeated? : List Char → Option Char
  | [] => none
  | c :: cs => if cs.contains c then some c else repeated? cs

/-- The flags of regular expressions. -/
def regexFlags : List Char := ['d', 'g', 'i', 'm', 's', 'u', 'v', 'y']

/-- The flags behind the body of a regular expression, which form a name, and what follows. -/
def regexFlagsAt (cs : List Char) : Except Fault (List Char × List Char) :=
  if cs.head?.any isIdentifierStart then
    (nameText cs.length [] false cs).map fun (reversed, _, rest) => (reversed.reverse, rest)
  else return ([], cs)

/-- A regular expression, at its opening slash. -/
def regexLiteral : Parse Shape := do
  match regexEnd? false ((← get).lexeme.start.drop 1) with
  | none => halt .unterminatedRegex
  | some behind =>
    match regexFlagsAt behind with
    | .error fault => halt fault
    | .ok (flags, rest) =>
      advanceTo rest
      if flags.any fun c => !regexFlags.contains c then note .unknownFlags
      if let some c := repeated? (flags.filter regexFlags.contains) then note (.repeatedFlag c)
      return Shape.plain .literal

/-- The escapes of a template have to be escapes, except behind a tag. -/
def checkEscapes (tagged : Bool) (fault : Option Fault) : Parse Unit := do
  if let some fault := fault then
    unless tagged do throw fault

/-- The substitutions of a template, from the expression of the first one on. -/
def substitutions (reach : Reach) (tagged : Bool) : Parse Unit := do
  iterate (← bound) (fun _ => do
    let _ ← withIn true (reach .expression)
    unless ← at? .closeBrace do
      fail (.expected Punct.closeBrace.text (← token).display)
    let text := (← get).lexeme.rest
    match templatePart (text.length + 1) none text with
    | none =>
      advanceTo []
      throw .unterminatedTemplate
    | some part =>
      checkEscapes tagged part.fault
      advanceTo part.rest
      return if part.complete then .inr () else .inl ()) ()

/-- A template, at its first part. -/
def templateLiteral (reach : Reach) (tagged complete : Bool) (fault : Option Fault) :
    Parse Unit := do
  checkEscapes tagged fault
  advance
  unless complete do substitutions reach tagged

/-! ## Arrays and objects -/

/-- An item of a list of expressions. -/
structure Item where
  spread : Bool
  value : Shape

/-- An expression or a spread one. -/
def spreadItem (reach : Reach) : Parse Item := do
  let spread ← eat .ellipsis
  return ⟨spread, ← withIn true (reach .assignment)⟩

/-- Why a list of items, where `none` is a hole, is no pattern; `check` judges a single item. -/
def listFault (check : Shape → Option Fault) (trailing : Bool) :
    List (Option Item) → Option Fault
  | [] => none
  | [some ⟨true, value⟩] =>
    if trailing then some .commaAfterRest
    else match value.form with
      | .assignment _ => some .restWithDefault
      | _ => check value
  | none :: items => listFault check trailing items
  | some ⟨true, _⟩ :: _ => some .restNotLast
  | some ⟨false, value⟩ :: items => (check value).or (listFault check trailing items)

/-- An array, at its bracket. -/
def arrayLiteral (reach : Reach) : Parse Shape := do
  advance
  let (items, trailing) ← iterate (← bound) (fun (items, trailing) => do
    if (← at? .closeBracket) || (← token) == .endOfInput then return .inr (items, trailing)
    if ← eat .comma then return .inl (none :: items, false)
    let item ← spreadItem reach
    let mut trailing := false
    unless ← at? .closeBracket do
      expect .comma
      trailing ← at? .closeBracket
    return .inl (some item :: items, trailing)) (([] : List (Option Item)), false)
  expect .closeBracket
  let items := items.reverse
  return {
    form := .array
    target := listFault Shape.elementTarget trailing items
    binding := listFault Shape.binding trailing items }

/-- What a property says about the object it belongs to. -/
structure PropertyShape where
  target : Option Fault := none
  binding : Option Fault := none
  /-- It is a shorthand with a default. -/
  loose : Bool := false
  spread : Bool := false

/-- A property that no pattern can have. -/
def PropertyShape.method : PropertyShape :=
  { target := some .notAPattern, binding := some .notAPattern }

/-- A shorthand property, from behind its name. -/
def shorthandProperty (reach : Reach) (text : String) : Parse PropertyShape := do
  let c ← context
  if isReservedHere c text then note .reservedShorthand
  let binding :=
    if c.strict && (text == "eval" || text == "arguments") then some .strictBinding else none
  if ← eat .assign then
    let _ ← withIn true (reach .assignment)
    return { binding, loose := true }
  return { binding }

/-- A property whose key is a name, from behind the name. -/
def namedProperty (reach : Reach) (text : String) : Parse PropertyShape := do
  match ← token with
  | .punct .assign | .punct .comma | .punct .closeBrace => shorthandProperty reach text
  | _ =>
    if text == "get" || text == "set" then
      let _ ← propertyKey reach
      method reach { accessor := some (if text == "get" then 0 else 1) }
      return .method
    else if text == "async" then
      let generator ← eat .star
      let _ ← propertyKey reach
      method reach { async := true, generator }
      return .method
    else
      fail (.unexpected (← token).display "... , *,  (, [, :, , ?, = or an identifier")

/-- A spread property.  In a pattern it takes what the others leave. -/
def spreadProperty (reach : Reach) : Parse PropertyShape := do
  let value ← withIn true (reach .assignment)
  let target := match value.form with
    | .array | .object => some .restTarget
    | .assignment _ => some .restWithDefault
    | _ => value.elementTarget
  let binding := match value.form with
    | .name _ => value.binding
    | _ => some .restWithoutName
  return { target, binding, spread := true }

/-- One property of an object. -/
def objectProperty (reach : Reach) : Parse PropertyShape := do
  if ← eat .ellipsis then return ← spreadProperty reach
  if ← eat .star then
    let _ ← propertyKey reach
    method reach { generator := true }
    return .method
  let key ← propertyKey reach
  if ← eat .colon then
    let value ← withIn true (reach .assignment)
    return { target := value.elementTarget, binding := value.binding }
  if ← at? .openParen then
    method reach {}
    return .method
  match key with
  | .name text => namedProperty reach text
  | .other => fail (.unexpected (← token).display "identifier")

/-- Why a list of properties is no pattern. -/
def propertiesFault (check : PropertyShape → Option Fault) (trailing : Bool) :
    List PropertyShape → Option Fault
  | [] => none
  | [p] => if p.spread && trailing then some .commaAfterRest else check p
  | p :: ps =>
    if p.spread then some .restNotLast else (check p).or (propertiesFault check trailing ps)

/-- An object, at its brace. -/
def objectLiteral (reach : Reach) : Parse Shape := do
  advance
  let (properties, trailing) ← iterate (← bound) (fun (properties, trailing) => do
    if ← eat .closeBrace then return .inr (properties, trailing)
    let property ← objectProperty reach
    let mut trailing := false
    unless ← at? .closeBrace do
      expect .comma
      trailing ← at? .closeBrace
    return .inl (property :: properties, trailing)) (([] : List PropertyShape), false)
  let properties := properties.reverse
  return {
    form := .object
    target := propertiesFault PropertyShape.target trailing properties
    binding := propertiesFault PropertyShape.binding trailing properties
    loose := properties.any (·.loose) }

/-! ## Parentheses and arrow functions -/

/-- Whether an item is a single name, as a simple parameter is. -/
def Item.isName (item : Item) : Bool :=
  match item.spread, item.value.form with
  | false, .name _ => true
  | _, _ => false

/-- Notes why items cannot be the parameters of an arrow function. -/
def checkParameters (items : List Item) (trailing : Bool) : Parse Unit :=
  noteAny (listFault Shape.binding trailing (items.map some))

/-- Takes an arrow behind an item.  It makes an arrow function of the items so far when the first
one is a name; the items are kept in reverse. -/
def lateArrow (reach : Reach) (items : List Item) : Parse (List Item) := do
  if ← eat .arrow then
    match items.getLast? with
    | some ⟨_, { form := .name _, .. }⟩ =>
      checkParameters items.reverse false
      let arrow ← arrowBody reach false (items.all Item.isName)
      return ⟨false, arrow⟩ :: items
    | _ => return items
  else return items

/-- The items between parentheses, and whether a comma ends them. -/
def parenItems (reach : Reach) : Parse (List Item × Bool) := do
  expect .openParen
  let (items, trailing) ← iterate (← bound) (fun (items, trailing) => do
    if (← at? .closeParen) || (← token) == .endOfInput then return .inr (items, trailing)
    let item ← spreadItem reach
    let items ← lateArrow reach (item :: items)
    let mut trailing := false
    unless ← at? .closeParen do
      expect .comma
      trailing ← at? .closeParen
    return .inl (items, trailing)) (([] : List Item), false)
  expect .closeParen
  return (items.reverse, trailing)

/-- An arrow function whose parameters have been read as items, at its arrow; `start` is the first
token of the items. -/
def arrowFromItems (reach : Reach) (canBeArrow async : Bool) (start : Nat) (items : List Item)
    (trailing : Bool) : Parse Shape := do
  if ← lineBefore then fail .lineBreakBeforeArrow
  unless canBeArrow do fail .arrowNotAllowed
  advance
  checkParameters items trailing
  if let some (position, fault) := (← get).pause then
    if start ≤ position then note fault
  arrowBody reach async (items.all Item.isName)

/-- A parenthesised expression or the head of an arrow function, with its body.  Behind `async` the
parentheses can also hold the arguments of a call. -/
def parenOrArrow (reach : Reach) (canBeArrow async : Bool) : Parse Shape := do
  let start := (← get).taken
  let (items, trailing) ← within (fun c => { c with async := c.async || async }) (parenItems reach)
  if ← at? .arrow then return ← arrowFromItems reach canBeArrow async start items trailing
  for item in items do
    if item.value.loose then note .shorthandDefault
  if trailing then note .trailingComma
  if async then return Shape.plain .call
  match items with
  | [] => fail .emptyParentheses
  | [⟨false, value⟩] => return { form := .paren, simple := value.simple }
  | _ =>
    if items.any (·.spread) then fail .spreadInParentheses
    return Shape.plain .paren

/-- The shape of a variable. -/
def variableShape (c : Context) (text : String) : Shape :=
  let barred := c.strict && (text == "eval" || text == "arguments")
  { form := .name text
    simple := !barred
    target := none
    binding := if barred then some .strictBinding else none }

/-- A variable, or an arrow function with a single bare parameter, from the name on. -/
def variableOrArrow (reach : Reach) (text : String) (canBeArrow : Bool) : Parse Shape := do
  let c ← context
  if text != "let" && isReservedHere c text then fail .expressionExpected
  checkName text
  advance
  if canBeArrow && !(← lineBefore) then
    if text == "async" then
      if let .name parameter := ← token then
        if (← peek).token == .punct .arrow && !isReservedHere c parameter then
          bindingName false
          advance
          return ← arrowBody reach true true
        if c.loopHead && parameter == "of" && !c.awaitHead then note .asyncLoopVariable
    if ← eat .arrow then
      if text == "eval" || text == "arguments" then noteStrict .strictBinding
      return ← arrowBody reach false true
  return variableShape c text

/-- An expression that starts with a name. -/
def nameExpression (reach : Reach) (text : String) : Parse Shape := do
  let s ← get
  let canBeArrow := s.arrowStart == some s.taken
  let next ← peek
  if text == "async" && !next.line then
    if next.token == .keyword "function" then
      advance
      advance
      functionFromKeyword reach true false
      return Shape.plain .other
    if canBeArrow && next.token == .punct .openParen then
      advance
      return ← parenOrArrow reach canBeArrow true
  variableOrArrow reach text canBeArrow

/-! ## Primary expressions, members and calls -/

/-- The arguments of a call, in their parentheses; an import has no comma behind them. -/
def arguments (reach : Reach) (isImport : Bool) : Parse Unit := do
  expect .openParen
  iterate (← bound) (fun isFirst => do
    if (← at? .closeParen) || (← token) == .endOfInput then return .inr ()
    unless isFirst do
      expect .comma
      if ← at? .closeParen then
        if isImport then fail .commaInImport
        return .inr ()
    let _ ← spreadItem reach
    return .inl false) true
  expect .closeParen

/-- An expression without operators, calls and members. -/
def primary (reach : Reach) : Parse Shape := do
  match ← token with
  | .keyword "this" =>
    advance
    return Shape.plain .other
  | .keyword "null" | .keyword "true" | .keyword "false" | .string _ | .number | .bigint =>
    advance
    return Shape.plain .literal
  | .keyword "function" =>
    advance
    functionFromKeyword reach false false
    return Shape.plain .other
  | .keyword "class" =>
    advance
    classFromKeyword reach false
    return Shape.plain .other
  | .punct .openBracket => arrayLiteral reach
  | .punct .openBrace => objectLiteral reach
  | .punct .openParen =>
    let s ← get
    parenOrArrow reach (s.arrowStart == some s.taken) false
  | .punct .slash | .punct .slashAssign => regexLiteral
  | .template complete fault =>
    templateLiteral reach false complete fault
    return Shape.plain .other
  | .name text => nameExpression reach text
  | .punct .hash =>
    advance
    let _ ← anyWord
    return { form := .privateName, simple := true }
  | _ => fail .expressionExpected

/-- The name of a member, behind its dot. -/
def memberName : Parse Unit := do
  if ← at? .hash then
    let _ ← privateName
  else
    let _ ← anyWord

/-- A variable-like access, unless an optional link leads to it. -/
def accessShape (base : Shape) : Shape :=
  if base.form == .chain then base else { form := .member, simple := true }

/-- An index in brackets. -/
def index (reach : Reach) : Parse Unit := do
  expect .openBracket
  let _ ← withIn true (reach .expression)
  expect .closeBracket

/-- What is behind the question mark of an optional link: a dot and a member, an index or
arguments. -/
def optionalLink (reach : Reach) : Parse Shape := do
  advance
  match ← token with
  | .punct .openBracket => index reach
  | .punct .openParen => arguments reach false
  | _ => memberName
  return Shape.plain .chain

/-- Members, indices, tags and, with `calls`, arguments behind an expression. -/
def subscripts (reach : Reach) (calls : Bool) (base : Shape) : Parse Shape := do
  iterate (← bound) (fun base => do
    match ← token with
    | .punct .dot =>
      advance
      memberName
      return .inl (accessShape base)
    | .punct .question =>
      if (← peek).token == .punct .dot then
        advance
        return .inl (← optionalLink reach)
      else return .inr base
    | .punct .openBracket =>
      index reach
      return .inl (accessShape base)
    | .template complete fault =>
      templateLiteral reach true complete fault
      if base.form == .chain then note .templateAfterChain
      return .inl (Shape.plain .other)
    | .punct .openParen =>
      if calls then
        arguments reach false
        return .inl (Shape.plain (if base.form == .chain then .chain else .call))
      else return .inr base
    | _ => return .inr base) base

/-- The parent class and what is asked of it. -/
def superAccess (reach : Reach) (calls : Bool) : Parse Shape := do
  advance
  let c ← context
  match ← token with
  | .punct .dot =>
    advance
    let _ ← anyWord
    unless c.superMember do fail .superNotAllowed
    subscripts reach calls { form := .member, simple := true }
  | .punct .openBracket =>
    index reach
    unless c.superMember do fail .superNotAllowed
    subscripts reach calls { form := .member, simple := true }
  | .punct .openParen =>
    unless calls do fail .superNotAllowed
    arguments reach false
    subscripts reach calls (Shape.plain .call)
  | _ => fail .superNotAllowed

/-- An import at the place of an expression. -/
def importCall (reach : Reach) (calls : Bool) : Parse Shape := do
  advance
  if ← eat .dot then
    let word ← anyWord
    if word == "meta" then
      note .importMetaNotAllowed
      return ← subscripts reach calls (Shape.plain .other)
    unless word == "source" || word == "defer" do
      fail (.unexpected (← token).display "meta")
  unless (← at? .openParen) && calls do fail (.unexpected (← token).display "(")
  arguments reach true
  subscripts reach calls (Shape.plain .call)

/-- A construction, or a primary expression with its members. -/
def memberOrNew (reach : Reach) : Parse Shape := do
  match ← token with
  | .keyword "new" =>
    advance
    if ← eat .dot then
      unless ← atName? "target" do fail (.unexpected (← token).display "target")
      advance
      unless (← context).newTarget do note .newTargetNotAllowed
      subscripts reach false (Shape.plain .other)
    else
      let callee ← reach .member
      if callee.form == .arrow then return callee
      if callee.form == .chain then fail .chainAfterNew
      if ← at? .openParen then
        arguments reach false
        subscripts reach false (Shape.plain .call)
      else
        return Shape.plain .bareNew
  | .keyword "super" => superAccess reach false
  | .keyword "import" => importCall reach false
  | _ =>
    let base ← primary reach
    if base.form == .arrow then return base
    subscripts reach false base

/-- A left-hand side: members, calls and constructions. -/
def leftHandSide (reach : Reach) : Parse Shape := do
  match ← token with
  | .keyword "super" => superAccess reach true
  | .keyword "import" => importCall reach true
  | _ =>
    let base ← reach .member
    match base.form with
    | .arrow | .bareNew => return base
    | _ => subscripts reach true base

/-! ## Operators -/

/-- An update needs a simple target. -/
def checkUpdate (e : Shape) : Parse Unit := do
  unless e.simple do note .targetNotAssignable

/-- A unary operator; what it applies to may be missing, which is noted. -/
def unaryOperand (reach : Reach) (isDelete : Bool) : Parse Shape := do
  advance
  let operand ← recover (reach .unary) fun fault => do
    note fault
    return Shape.plain .missing
  match isDelete, operand.form with
  | true, .name _ => noteStrict .strictDelete
  | _, _ => pure ()
  return Shape.plain .unary

/-- The word `await`.  Outside an asynchronous function it is a name where nothing follows that it
could apply to. -/
def awaitExpression (reach : Reach) : Parse Shape := do
  advance
  if ← at? .star then fail .awaitStar
  let c ← context
  unless c.async do
    if (← at? .closeParen) || (← at? .closeBracket) || (← atStatementEnd) then
      if c.inStatic then note .awaitAsName
      return variableShape c "await"
    if c.inFunction then note .awaitOutsideAsync
  if c.inParameters then note .awaitInParameters
  markPause .awaitInParameters
  let _ ← reach .unary
  return Shape.plain .awaiting

/-- An expression without binary operators. -/
def unaryExpression (reach : Reach) : Parse Shape := do
  match ← token with
  | .punct .plusPlus | .punct .minusMinus =>
    advance
    checkUpdate (← reach .unary)
    return Shape.plain .update
  | .punct .plus | .punct .minus | .punct .tilde | .punct .bang | .keyword "void"
  | .keyword "typeof" => unaryOperand reach false
  | .keyword "delete" => unaryOperand reach true
  | .name "await" => awaitExpression reach
  | _ =>
    let operand ← reach .leftHand
    if operand.form == .arrow || (← lineBefore) then return operand
    if (← at? .plusPlus) || (← at? .minusMinus) then
      checkUpdate operand
      advance
      return Shape.plain .update
    return operand

/-- The binary operator at the current token, and how tightly it binds. -/
def operator? : Parse (Option (Option Punct × Nat)) := do
  match ← token with
  | .punct p => return p.precedence?.map fun precedence => (some p, precedence)
  | .keyword "instanceof" => return some (none, 7)
  | .keyword "in" => return if (← context).allowIn then some (none, 7) else none
  | _ => return none

/-- A logical operator that must not meet the nullish one without parentheses. -/
def isLogical (e : Shape) : Bool :=
  e.form == .binary (some .logicalAnd) || e.form == .binary (some .logicalOr)

/-- Operators behind an operand, as long as they bind more tightly than `least`. -/
def operators (reach : Reach) (left : Shape) (least : Nat) : Parse Shape := do
  iterate (← bound) (fun left => do
    match ← operator? with
    | none => return .inr left
    | some (op, precedence) =>
      if precedence ≤ least then return .inr left
      advance
      if op == some .power && (left.form == .unary || left.form == .awaiting) then
        fail .unaryBase
      let operand ← reach .unary
      let right ← reach
        (.operators operand (if op == some .power then precedence - 1 else precedence))
      if op == some .nullish && (isLogical left || isLogical right) then note .mixedNullish
      let whole := Shape.plain (.binary op)
      if isLogical whole && left.form == .binary (some .nullish) then note .mixedNullish
      return .inl whole) left

/-- Operands and binary operators.  An operand that cannot be read counts as missing when an
operator follows. -/
def binaryExpression (reach : Reach) : Parse Shape := do
  let left ← recover (reach .unary) fun fault => do
    refuseBroken
    if (← operator?).isSome then
      note .expressionExpected
      return Shape.plain .missing
    throw fault
  if left.form == .arrow then return left
  reach (.operators left 0)

/-- A conditional expression. -/
def conditional (reach : Reach) : Parse Shape := do
  let test ← binaryExpression reach
  if test.form == .arrow then return test
  if ← eat .question then
    let _ ← withIn true (reach .assignment)
    expect .colon
    let _ ← reach .assignment
    return Shape.plain .conditional
  return test

/-! ## Assignments -/

/-- What is assigned to has to be a target of the operator's kind. -/
def checkTarget (left : Shape) (plain : Bool) : Parse Unit := do
  match left.form with
  | .array | .object => if plain then noteAny left.target else fail .invalidTarget
  | .name _ | .member | .chain | .paren =>
    unless left.simple do note (if plain then .targetNotAssignable else .notAssignable)
  | .missing => pure ()
  | _ => fail .invalidTarget

/-- Why a target with a default declares no names.  A pattern among the targets does. -/
def defaultBinding (left : Shape) : Option Fault :=
  match left.form with
  | .array | .object => none
  | _ => left.binding

/-- The value that follows a target, if there is one. -/
def assignmentTail (reach : Reach) (left : Shape) : Parse Shape := do
  match ← token with
  | .punct p =>
    if p.isAssignment then
      let plain := p == .assign
      checkTarget left plain
      advance
      let _ ← reach .assignment
      return {
        form := .assignment plain
        binding := if plain then defaultBinding left else some .notAPattern }
    else return left
  | _ => return left

/-- Whether an expression can start at the current token, behind the word `yield`. -/
def startsOperand : Parse Bool := do
  match ← token with
  | .punct p =>
    return [.openParen, .openBracket, .openBrace, .plus, .minus, .bang, .tilde, .plusPlus,
      .minusMinus, .star, .slash, .slashAssign, .less, .hash].contains p
  | .keyword word =>
    return ["function", "class", "this", "null", "true", "false", "new", "super", "import",
      "typeof", "void", "delete"].contains word
  | .endOfInput | .broken _ => return false
  | _ => return true

/-- A pause of a generator. -/
def yieldExpression (reach : Reach) : Parse Shape := do
  markPause .yieldInParameters
  advance
  if (← context).inParameters then throw .yieldInParameters
  if ← atStatementEnd then return Shape.plain .other
  if ← startsOperand then
    let _ ← eat .star
    let _ ← reach .assignment
  return Shape.plain .other

/-- Whether a token can start an arrow function. -/
def startsArrow : Token → Bool
  | .name text => text != "let" && text != "await"
  | .punct .openParen => true
  | _ => false

/-- An expression without commas. -/
def assignment (reach : Reach) : Parse Shape := do
  let t ← token
  if (← context).generator && t == .name "yield" then return ← yieldExpression reach
  refuseBroken
  modify fun s => { s with arrowStart := if startsArrow t then some s.taken else none }
  let left ← conditional reach
  match left.form with
  | .arrow | .conditional | .binary _ | .unary | .update => return left
  | _ => assignmentTail reach left

/-- Expressions divided by commas. -/
def expression (reach : Reach) : Parse Shape := do
  let first ← reach .assignment
  if ← at? .comma then
    iterate (← bound) (fun _ => do
      if ← eat .comma then
        let _ ← reach .assignment
        return .inl ()
      else return .inr ()) ()
    return Shape.plain .sequence
  return first

end Stencil.Ecma
