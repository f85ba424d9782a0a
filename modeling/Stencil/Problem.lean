import Stencil.Diagnostic

/-!
# Problems of a template
-/

namespace Stencil

/-- What can be wrong with a template. -/
inductive Problem where
  /-- An expression does not compile. -/
  | invalidExpression (message expression raw : String)
  /-- An expression does not compile and holds a reserved word. -/
  | prohibitedKeyword (keyword raw : String)
  /-- An event handler calls a unary operator like a method. -/
  | unaryOperator (call raw : String)
  /-- A name that a loop declares is none. -/
  | invalidIdentifier (role name raw : String)
  /-- A slot scope is no parameter list. -/
  | invalidParameters (message expression raw : String)
  /-- A plain attribute holds an interpolation, which nothing evaluates. -/
  | attributeInterpolation (name value : String)
  /-- A loop header cannot be read. -/
  | invalidLoop (expression : String)
  deriving DecidableEq

namespace Problem

/-- The stable code of a problem. -/
def code : Problem → String
  | invalidExpression .. => "T100"
  | prohibitedKeyword .. => "T101"
  | unaryOperator .. => "T102"
  | invalidIdentifier .. => "T103"
  | invalidParameters .. => "T104"
  | attributeInterpolation .. => "T105"
  | invalidLoop .. => "T106"

/-- What a problem says to a reader. -/
def message : Problem → String
  | invalidExpression message expression raw =>
    "invalid expression: " ++ message ++ " in\n\n    " ++ expression ++
      "\n\n  Raw expression: " ++ raw ++ "\n"
  | prohibitedKeyword keyword raw =>
    "avoid using JavaScript keyword as property name: \"" ++ keyword ++
      "\"\n  Raw expression: " ++ raw
  | unaryOperator call raw =>
    "avoid using JavaScript unary operator as property name: \"" ++ call ++
      "\" in expression " ++ raw
  | invalidIdentifier role name raw =>
    "invalid " ++ role ++ " \"" ++ name ++ "\" in expression: " ++ raw
  | invalidParameters message expression raw =>
    "invalid function parameter expression: " ++ message ++ " in\n\n    " ++ expression ++
      "\n\n  Raw expression: " ++ raw ++ "\n"
  | attributeInterpolation name value =>
    name ++ "=\"" ++ value ++ "\": Interpolation inside attributes has been removed. " ++
      "Use v-bind or the colon shorthand instead. For example, instead of <div " ++ name ++
      "=\"\x7b\x7b val \x7d\x7d\">, use <div :" ++ name ++ "=\"val\">."
  | invalidLoop expression => "Invalid v-for expression: " ++ expression

/-- The diagnostic of a problem at a place. -/
def diagnostic (problem : Problem) (span : Option Span) : Diagnostic :=
  ⟨problem.code, problem.message, span⟩

/-- Reports a problem at a place. -/
def report (problem : Problem) (span : Option Span) : Reported Unit :=
  Reported.report (problem.diagnostic span) false

end Problem

end Stencil
