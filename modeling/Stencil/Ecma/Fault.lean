import Stencil.Text.Printable

/-!
# Faults of script text

Why a script is refused, and the one sentence that says so.
-/

namespace Stencil.Ecma

open Text

/-- A reason to refuse a script. -/
inductive Fault where
  | expressionExpected
  | nameExpected
  /-- A fixed token is missing. -/
  | expected (token got : String)
  /-- An expression statement does not end where it should. -/
  | statementEndExpected
  | semicolonExpected
  /-- A token that fits none of some alternatives. -/
  | unexpected (got alternatives : String)
  | unexpectedCharacter (c : Char)
  | unterminatedString
  | unterminatedTemplate
  | unterminatedRegex
  | unterminatedComment
  /-- An escape without the characters it consists of. -/
  | badEscape (characters : String)
  | openEscape
  | escapeExpected
  | characterInName
  | escapedKeyword (word : String)
  | nameAfterNumber
  | digitExpected (radix : Nat)
  | misplacedSeparator
  | unknownFlags
  | repeatedFlag (flag : Char)
  | invalidTarget
  | targetNotAssignable
  | notAssignable
  | notAPattern
  | commaAfterRest
  | restNotLast
  | restWithoutName
  | restWithDefault
  | restTarget
  | mixedNullish
  | unaryBase
  | emptyParentheses
  | spreadInParentheses
  | trailingComma
  | shorthandDefault
  | reservedShorthand
  | lineBreakBeforeArrow
  | arrowNotAllowed
  | lineBreakAfterThrow
  | declarationNotAllowed
  | importNotAllowed
  | labelledFunction
  | labelledInStrict
  | repeatedLabel (label : String)
  | unknownBreakLabel
  | unknownContinueLabel
  | breakNotAllowed
  | continueNotAllowed
  | returnNotAllowed
  | repeatedDefault
  | patternWithoutValue
  | constWithoutValue
  | loopInitializer
  | severalLoopVariables
  | asyncLoopVariable
  | forAwaitWithoutOf
  | strictName (name : String)
  | strictBinding
  | strictWith
  | strictDelete
  | strictOctal
  | strictDecimal
  | strictParameters
  | awaitStar
  | awaitAsName
  | awaitOutsideAsync
  | awaitInParameters
  | yieldInParameters
  | argumentsInField
  | superNotAllowed
  | newTargetNotAllowed
  | importMetaNotAllowed
  | commaInImport
  | chainAfterNew
  | templateAfterChain
  | spaceAfterHash
  | getterParameters
  | setterParameters
  | restInSetter
  | repeatedConstructor
  | accessorConstructor
  | generatorConstructor
  | asyncConstructor
  | fieldNamedConstructor
  | privateConstructor
  /-- The script is nested more deeply than its length allows; no script is. -/
  | tooDeep
  deriving DecidableEq

/-- The name of the digits of a radix. -/
def digitName : Nat → String
  | 2 => "a binary digit"
  | 8 => "an octal digit"
  | 10 => "a decimal digit"
  | _ => "a hexadecimal digit"

/-- What a fault says to a reader. -/
def Fault.message : Fault → String
  | .expressionExpected => "Expression expected"
  | .nameExpected => "Expected ident"
  | .expected token got => "Expected '" ++ token ++ "', got '" ++ got ++ "'"
  | .statementEndExpected => "Expected ';', '\x7d' or <eof>"
  | .semicolonExpected => "Expected a semicolon"
  | .unexpected got alternatives =>
    "Unexpected token `" ++ got ++ "`. Expected " ++ alternatives
  | .unexpectedCharacter c => "Unexpected character " ++ debugSingle c
  | .unterminatedString => "Unterminated string constant"
  | .unterminatedTemplate => "Unterminated template"
  | .unterminatedRegex => "Unterminated regexp literal"
  | .unterminatedComment => "Unterminated block comment"
  | .badEscape characters => "Bad character escape sequence, expected " ++ characters
  | .openEscape => "Invalid unicode escape"
  | .escapeExpected => "Expected unicode escape"
  | .characterInName => "Invalid character in identifier"
  | .escapedKeyword word => "Unexpected escape sequence in reserved word: " ++ word
  | .nameAfterNumber => "Identifier cannot follow number"
  | .digitExpected radix => "Expected " ++ digitName radix
  | .misplacedSeparator => "A numeric separator is only allowed between two digits"
  | .unknownFlags => "Unknown regular expression flags."
  | .repeatedFlag flag => "Duplicated regular expression flag '" ++ String.ofList [flag] ++ "'."
  | .invalidTarget => "Invalid assignment target"
  | .targetNotAssignable =>
    "The left-hand side of an assignment expression must be a variable or a property access."
  | .notAssignable => "Cannot assign to this"
  | .notAPattern => "Not a pattern"
  | .commaAfterRest => "Trailing comma isn't permitted after a rest element"
  | .restNotLast => "Rest element must be final element"
  | .restWithoutName => "`...` must be followed by an identifier in declaration contexts"
  | .restWithDefault => "A rest parameter cannot have an initializer"
  | .restTarget =>
    "The target of an object rest assignment must be a variable or a property access."
  | .mixedNullish =>
    "Nullish coalescing operator(??) requires parens when mixing with logical operators"
  | .unaryBase => "'**' cannot be applied to unary/await expression."
  | .emptyParentheses => "Parenthesized expression cannot be empty"
  | .spreadInParentheses => "Parenthesized expression cannot contain spread operator"
  | .trailingComma => "Trailing comma is not allowed"
  | .shorthandDefault => "assignment property is invalid syntax"
  | .reservedShorthand => "Cannot use a reserved word as a shorthand property"
  | .lineBreakBeforeArrow => "Unexpected line break between arrow head and arrow"
  | .arrowNotAllowed => "An arrow function is not allowed here"
  | .lineBreakAfterThrow => "LineBreak cannot follow 'throw'"
  | .declarationNotAllowed => "Declaration is not allowed"
  | .importNotAllowed => "'import', and 'export' cannot be used outside of module code"
  | .labelledFunction => "Generator or async function cannot be labelled"
  | .labelledInStrict => "Function cannot be labelled in strict mode"
  | .repeatedLabel label => "Label " ++ label ++ " is already declared"
  | .unknownBreakLabel =>
    "A 'break' statement can only jump to a label of an enclosing statement"
  | .unknownContinueLabel => "Jump target cannot cross function boundary"
  | .breakNotAllowed =>
    "A 'break' statement can only be used within an enclosing iteration or switch statement"
  | .continueNotAllowed =>
    "A 'continue' statement can only target a label of an enclosing iteration statement"
  | .returnNotAllowed => "Return statement is not allowed here"
  | .repeatedDefault => "A switch block cannot have multiple defaults"
  | .patternWithoutValue => "Destructuring bindings require initializers"
  | .constWithoutValue => "'const' declarations must be initialized"
  | .loopInitializer => "Unexpected initializer in for in/of loop"
  | .severalLoopVariables => "Expected one variable binding"
  | .asyncLoopVariable => "The left-hand side of a `for...of` statement may not be `async`"
  | .forAwaitWithoutOf => "for await syntax is valid only for for-of statement"
  | .strictName name => "`" ++ name ++ "` cannot be used as an identifier in strict mode"
  | .strictBinding =>
    "'eval' and 'arguments' cannot be used as a binding identifier in strict mode"
  | .strictWith => "With statement are not allowed in strict mode"
  | .strictDelete => "'delete' cannot be called on an identifier in strict mode"
  | .strictOctal => "Legacy octal escape is not permitted in strict mode"
  | .strictDecimal => "Legacy decimal escape is not permitted in strict mode"
  | .strictParameters =>
    "Illegal 'use strict' directive in function with non-simple parameter list."
  | .awaitStar =>
    "await* has been removed from the async functions proposal. Use Promise.all() instead."
  | .awaitAsName => "`await` cannot be used as an identifier in an async context"
  | .awaitOutsideAsync => "await isn't allowed in non-async function"
  | .awaitInParameters => "`await` expressions cannot be used in a parameter initializer."
  | .yieldInParameters => "'yield' cannot be used as a parameter within generator"
  | .argumentsInField => "'arguments' is only allowed in functions and class methods"
  | .superNotAllowed => "Invalid access to super"
  | .newTargetNotAllowed =>
    "'new.target' is only allowed in the body of a function declaration, function expression, " ++
      "or constructor."
  | .importMetaNotAllowed => "'import.meta' cannot be used outside of module code."
  | .commaInImport => "Trailing comma is disallowed inside import(...) arguments"
  | .chainAfterNew => "Constructor in/after an optional chaining expression is not allowed."
  | .templateAfterChain =>
    "Tagged template expression is not permitted in an optional chain"
  | .spaceAfterHash => "Unexpected space between # and identifier"
  | .getterParameters => "A `get` accessor cannot have parameters"
  | .setterParameters => "A `set` accessor must have exactly one parameter"
  | .restInSetter => "Rest pattern is not allowed in setter"
  | .repeatedConstructor => "A class may only have one constructor"
  | .accessorConstructor => "Class constructor can't be an accessor"
  | .generatorConstructor => "Class constructor can't be a generator"
  | .asyncConstructor => "Class constructor can't be an async function"
  | .fieldNamedConstructor => "Classes may not have a non-static field named 'constructor'"
  | .privateConstructor => "Classes may not have a private field named '#constructor'"
  | .tooDeep => "Nesting is too deep"

end Stencil.Ecma
