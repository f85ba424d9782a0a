import Stencil.Ecma.Fault

/-!
# Tokens of script text

Punctuators, reserved words and the other tokens, with the text that each is shown by.
-/

namespace Stencil.Ecma

/-- The punctuators. -/
inductive Punct where
  | openBrace | closeBrace | openParen | closeParen | openBracket | closeBracket
  | dot | ellipsis | semicolon | comma | colon | question | arrow | atSign | hash
  | less | greater | lessEq | greaterEq | eqEq | notEq | eqEqEq | notEqEq
  | plus | minus | star | slash | percent | power | plusPlus | minusMinus
  | shiftLeft | shiftRight | shiftRightZero | bitAnd | bitOr | bitXor | bang | tilde
  | logicalAnd | logicalOr | nullish | assign | plusAssign | minusAssign | starAssign | slashAssign
  | percentAssign | powerAssign | shiftLeftAssign | shiftRightAssign | shiftRightZeroAssign
  | bitAndAssign | bitOrAssign | bitXorAssign | andAssign | orAssign | nullishAssign
  deriving DecidableEq

/-- Every punctuator with its text, a longer text before its own beginnings. -/
def Punct.table : List (String × Punct) :=
  [(">>>=", .shiftRightZeroAssign), ("...", .ellipsis), ("===", .eqEqEq), ("!==", .notEqEq),
   ("**=", .powerAssign), ("<<=", .shiftLeftAssign), (">>=", .shiftRightAssign),
   (">>>", .shiftRightZero), ("&&=", .andAssign), ("||=", .orAssign), ("??=", .nullishAssign),
   ("=>", .arrow), ("==", .eqEq), ("!=", .notEq), ("<=", .lessEq), (">=", .greaterEq),
   ("&&", .logicalAnd), ("||", .logicalOr), ("??", .nullish), ("++", .plusPlus),
   ("--", .minusMinus), ("+=", .plusAssign), ("-=", .minusAssign), ("*=", .starAssign),
   ("/=", .slashAssign), ("%=", .percentAssign), ("**", .power), ("<<", .shiftLeft),
   (">>", .shiftRight), ("&=", .bitAndAssign), ("|=", .bitOrAssign), ("^=", .bitXorAssign),
   ("\x7b", .openBrace), ("\x7d", .closeBrace), ("(", .openParen), (")", .closeParen),
   ("[", .openBracket), ("]", .closeBracket), (".", .dot), (";", .semicolon), (",", .comma),
   (":", .colon), ("?", .question), ("@", .atSign), ("#", .hash), ("<", .less), (">", .greater),
   ("+", .plus), ("-", .minus), ("*", .star), ("/", .slash), ("%", .percent), ("&", .bitAnd),
   ("|", .bitOr), ("^", .bitXor), ("!", .bang), ("~", .tilde), ("=", .assign)]

/-- The text of a punctuator. -/
def Punct.text (p : Punct) : String :=
  match Punct.table.find? (·.2 = p) with
  | some (text, _) => text
  | none => ""

/-- How tightly a binary operator binds; the operators of one number group to the left, except the
power. -/
def Punct.precedence? : Punct → Option Nat
  | .nullish => some 1
  | .logicalOr => some 1
  | .logicalAnd => some 2
  | .bitOr => some 3
  | .bitXor => some 4
  | .bitAnd => some 5
  | .eqEq | .notEq | .eqEqEq | .notEqEq => some 6
  | .less | .greater | .lessEq | .greaterEq => some 7
  | .shiftLeft | .shiftRight | .shiftRightZero => some 8
  | .plus | .minus => some 9
  | .star | .slash | .percent => some 10
  | .power => some 11
  | _ => none

/-- The operators that assign. -/
def Punct.isAssignment : Punct → Bool
  | .assign | .plusAssign | .minusAssign | .starAssign | .slashAssign | .percentAssign
  | .powerAssign | .shiftLeftAssign | .shiftRightAssign | .shiftRightZeroAssign | .bitAndAssign
  | .bitOrAssign | .bitXorAssign | .andAssign | .orAssign | .nullishAssign => true
  | _ => false

/-- The reserved words. -/
def reservedWords : List String :=
  ["break", "case", "catch", "class", "const", "continue", "debugger", "default", "delete", "do",
   "else", "enum", "export", "extends", "false", "finally", "for", "function", "if", "import", "in",
   "instanceof", "new", "null", "return", "super", "switch", "this", "throw", "true", "try",
   "typeof", "var", "void", "while", "with"]

/-- Words that are names, but that a token is still shown by. -/
def shownWords : List String :=
  ["await", "let", "yield", "module", "abstract", "any", "as", "asserts", "assert", "async",
   "bigint", "boolean", "constructor", "declare", "from", "get", "global", "implements",
   "interface", "intrinsic", "is", "keyof", "namespace", "never", "number", "object", "of", "out",
   "override", "package", "private", "protected", "public", "readonly", "require", "set", "static",
   "string", "symbol", "type", "undefined", "unique", "unknown", "using", "accessor", "infer",
   "satisfies", "meta", "target"]

/-- A token of script text. -/
inductive Token where
  | punct (p : Punct)
  | keyword (word : String)
  | name (text : String)
  | number
  | bigint
  /-- A string with the text between its quotes as written. -/
  | string (raw : List Char)
  /-- A template up to its end or to its first substitution, and what is wrong with its escapes. -/
  | template (complete : Bool) (fault : Option Fault)
  | endOfInput
  /-- Text that is no token. -/
  | broken (fault : Fault)
  deriving DecidableEq

/-- What a reserved word is called when another token is expected. -/
def wordDisplay : String → String
  | "typeof" => "typeOf"
  | "instanceof" => "instanceOf"
  | word => word

/-- What a token is called when another one is expected. -/
def Token.display : Token → String
  | .punct p => p.text
  | .keyword word => wordDisplay word
  | .name text => if shownWords.contains text then text else "ident"
  | .number => "numeric literal"
  | .bigint => "bigint literal"
  | .string _ => "string literal"
  | .template true _ => "no substitution template literal"
  | .template false _ => "template head"
  | .endOfInput => "<eof>"
  | .broken _ => "<lexing error>"

end Stencil.Ecma
