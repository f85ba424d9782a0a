import Stencil.Ecma.Identifier
import Stencil.Ecma.Token
import Stencil.Text.Blank

/-!
# Reading tokens

`Lexeme.next` reads one token from the start of a text.  Blanks and comments in front of it are
skipped, and the lexeme remembers whether a line ended there.  A slash is read as a division sign;
`regexEnd?` reads a regular expression when the grammar asks for one.  A template is read up to its
first substitution, and `templatePart` reads on behind each one.
-/

namespace Stencil.Ecma

open Text

/-! ## Blanks and comments -/

/-- The characters that end a line. -/
def isLineEnd (c : Char) : Bool :=
  c == '\n' || c == '\r' || c.toNat == 0x2028 || c.toNat == 0x2029

/-- The blanks that end no line.  The next-line character and the zero width space are among
them. -/
def isSpace (c : Char) : Bool :=
  let n := c.toNat
  n == 0x20 || n == 0x09 || n == 0x0B || n == 0x0C || n == 0x85 || n == 0xA0 || n == 0xFEFF ||
    n == 0x1680 || (0x2000 ≤ n && n ≤ 0x200B) || n == 0x202F || n == 0x205F || n == 0x3000

/-- The text from the end of the line on. -/
def skipLine (cs : List Char) : List Char :=
  cs.dropWhile fun c => !isLineEnd c

/-- The text behind the end of a block comment, and whether a line ends inside it. -/
def skipBlock? : List Char → Option (Bool × List Char)
  | [] => none
  | '*' :: '/' :: rest => some (false, rest)
  | c :: rest => (skipBlock? rest).map fun (line, after) => (line || isLineEnd c, after)

/-- What remains behind blanks and comments. -/
structure Trivia where
  /-- A line ends among them. -/
  line : Bool
  rest : List Char
  /-- A comment among them does not end. -/
  fault : Option Fault := none

/-- Skips blanks and comments.  The first argument bounds the number of items skipped. -/
def skipTrivia : Nat → Bool → List Char → Trivia
  | 0, line, cs => { line, rest := cs }
  | n + 1, line, cs =>
    match cs with
    | '/' :: '/' :: rest => skipTrivia n line (skipLine rest)
    | '/' :: '*' :: rest =>
      match skipBlock? rest with
      | some (inside, after) => skipTrivia n (line || inside) after
      | none => { line, rest := [], fault := some .unterminatedComment }
    | '<' :: '!' :: '-' :: '-' :: rest => skipTrivia n line (skipLine rest)
    | '-' :: '-' :: '>' :: rest =>
      if line then skipTrivia n line (skipLine rest) else { line, rest := cs }
    | c :: rest =>
      if isLineEnd c then skipTrivia n true rest
      else if isSpace c then skipTrivia n line rest
      else { line, rest := cs }
    | [] => { line, rest := cs }

/-! ## What is read as one token -/

/-- A token without its place. -/
structure Reading where
  token : Token
  /-- The text behind the token. -/
  rest : List Char
  /-- A fault found in the token that does not stop the reading. -/
  note : Option Fault := none
  /-- A fault that the token has in strict code. -/
  strictNote : Option Fault := none

/-! ## Numbers -/

/-- The value of a digit, up to `f`. -/
def digitValue? (c : Char) : Option Nat :=
  if '0' ≤ c && c ≤ '9' then some (c.toNat - 0x30)
  else if 'a' ≤ c && c ≤ 'f' then some (c.toNat - 0x61 + 10)
  else if 'A' ≤ c && c ≤ 'F' then some (c.toNat - 0x41 + 10)
  else none

/-- Whether a character is a digit of a radix. -/
def isDigitOf (radix : Nat) (c : Char) : Bool :=
  (digitValue? c).any (· < radix)

/-- What is read as digits. -/
structure Digits where
  count : Nat := 0
  /-- There is a separator among them. -/
  divided : Bool := false
  /-- A separator does not stand between two digits. -/
  misplaced : Bool := false
  rest : List Char := []

/-- The fault of digits whose separators stand wrongly. -/
def Digits.fault? (d : Digits) : Option Fault :=
  if d.misplaced then some .misplacedSeparator else none

/-- Reads digits of a radix and separators.  The last argument but one is the character before. -/
def digitsFrom (radix : Nat) (d : Digits) (before : Option Char) : List Char → Digits
  | [] => d
  | c :: rest =>
    if isDigitOf radix c then
      digitsFrom radix { d with count := d.count + 1, rest } (some c) rest
    else if c = '_' then
      let placed := before.any (isDigitOf radix) && rest.head?.any (isDigitOf radix)
      digitsFrom radix { d with divided := true, misplaced := d.misplaced || !placed, rest }
        (some c) rest
    else d

/-- Reads digits of a radix and separators. -/
def digits (radix : Nat) (cs : List Char) : Digits :=
  digitsFrom radix { rest := cs } none cs

/-- A number must not run into a name. -/
def Reading.closeNumber (t : Reading) : Reading :=
  if t.rest.head?.any isIdentifierStart then { t with token := .broken .nameAfterNumber } else t

/-- The number with a radix mark, whose digits start here. -/
def radixNumber (radix : Nat) (cs : List Char) : Reading :=
  let d := digits radix cs
  if d.count == 0 then { token := .broken (.digitExpected radix), rest := d.rest, note := d.fault? }
  else
    match d.rest with
    | 'n' :: after => Reading.closeNumber { token := .bigint, rest := after, note := d.fault? }
    | _ => Reading.closeNumber { token := .number, rest := d.rest, note := d.fault? }

/-- The exponent of a decimal number, if there is one. -/
def exponentPart (t : Reading) : Reading :=
  let read (cs : List Char) : Reading :=
    let d := digits 10 cs
    let note := t.note.or d.fault?
    if d.count == 0 then { token := .broken (.digitExpected 10), rest := d.rest, note }
    else Reading.closeNumber { t with rest := d.rest, note }
  match t.rest with
  | 'e' :: '+' :: rest | 'e' :: '-' :: rest | 'E' :: '+' :: rest | 'E' :: '-' :: rest => read rest
  | 'e' :: rest | 'E' :: rest => read rest
  | _ => t.closeNumber

/-- The decimal number that starts here, with its fraction and exponent.  A needless zero in front
makes it a legacy number: it has no separators, no big form, and in octal digits neither fraction
nor exponent. -/
def decimalNumber (cs : List Char) : Reading :=
  let d := digits 10 cs
  let zero := cs.head? == some '0'
  let note := if zero && d.divided then some .misplacedSeparator else d.fault?
  let legacy := zero && 1 < d.count
  let octal := legacy && (cs.takeWhile Char.isDigit).all (isDigitOf 8)
  let strictNote :=
    if octal then some .strictOctal else if legacy then some .strictDecimal else none
  let whole : Reading := { token := .number, rest := d.rest, note, strictNote }
  if octal then whole.closeNumber
  else
    match d.rest with
    | 'n' :: after =>
      if legacy then whole.closeNumber
      else Reading.closeNumber { whole with token := .bigint, rest := after }
    | '.' :: after =>
      let fraction := digits 10 after
      exponentPart { whole with rest := fraction.rest, note := note.or fraction.fault? }
    | _ => exponentPart whole

/-- The number that starts here. -/
def number (cs : List Char) : Reading :=
  match cs with
  | '0' :: 'x' :: rest | '0' :: 'X' :: rest => radixNumber 16 rest
  | '0' :: 'o' :: rest | '0' :: 'O' :: rest => radixNumber 8 rest
  | '0' :: 'b' :: rest | '0' :: 'B' :: rest => radixNumber 2 rest
  | _ => decimalNumber cs

/-! ## Escapes -/

/-- The value of hexadecimal digits. -/
def hexValue (cs : List Char) : Nat :=
  cs.foldl (fun n c => n * 16 + (digitValue? c).getD 0) 0

/-- The code point of an escape behind `\u`, and what follows. -/
def codePoint (cs : List Char) : Except Fault (Nat × List Char) :=
  match cs with
  | '{' :: rest =>
    let ds := rest.takeWhile (isDigitOf 16)
    if ds.isEmpty || 0x10FFFF < hexValue ds then throw (.badEscape "1-6 hex characters")
    else
      match rest.drop ds.length with
      | '}' :: after => return (hexValue ds, after)
      | _ => throw .openEscape
  | a :: b :: c :: d :: after =>
    if [a, b, c, d].all (isDigitOf 16) then return (hexValue [a, b, c, d], after)
    else throw (.badEscape "4 hex characters")
  | _ => throw (.badEscape "4 hex characters")

/-- The text behind an escape whose backslash has been read. -/
def skipEscape (cs : List Char) : Except Fault (List Char) :=
  match cs with
  | 'u' :: rest => (codePoint rest).map (·.2)
  | 'x' :: rest =>
    match rest with
    | a :: b :: after =>
      if isDigitOf 16 a && isDigitOf 16 b then return after
      else throw (.badEscape "2 hex characters")
    | _ => throw (.badEscape "2 hex characters")
  | '\r' :: '\n' :: rest => return rest
  | _ :: rest => return rest
  | [] => return []

/-- Whether an escape is an octal number: its digits are octal, and it is more than a zero. -/
def isOctalEscape (cs : List Char) : Bool :=
  match cs with
  | '0' :: rest => rest.head?.any (isDigitOf 8)
  | c :: _ => isDigitOf 8 c
  | [] => false

/-! ## Strings, templates and regular expressions -/

/-- Reads a string from behind its opening quote.  The first argument bounds the number of items;
`raw` holds those read, and `octal` says that an octal escape is among them. -/
def stringFrom (quote : Char) : Nat → List Char → Bool → List Char → Reading
  | 0, _, _, cs => { token := .string [], rest := cs, note := some .unterminatedString }
  | n + 1, raw, octal, cs =>
    match cs with
    | [] => { token := .string [], rest := [], note := some .unterminatedString }
    | '\\' :: rest =>
      match rest with
      | [] => { token := .string [], rest := [], note := some .unterminatedString }
      | e :: _ =>
        match skipEscape rest with
        | .ok after => stringFrom quote n (e :: '\\' :: raw) (octal || isOctalEscape rest) after
        | .error fault => { token := .broken fault, rest }
    | c :: rest =>
      if c = quote then
        { token := .string raw.reverse, rest
          strictNote := if octal then some .strictOctal else none }
      else if c = '\n' || c = '\r' then
        { token := .string [], rest := cs, note := some .unterminatedString }
      else stringFrom quote n (c :: raw) octal rest

/-- A part of a template, up to the closing backquote or to a substitution. -/
structure TemplatePart where
  /-- It ends with the template. -/
  complete : Bool
  /-- What is wrong with its escapes. -/
  fault : Option Fault
  rest : List Char

/-- Reads template characters up to a backquote or a substitution, if there is one.  The first
argument bounds the number of items; `fault` is the first fault of the escapes so far. -/
def templatePart : Nat → Option Fault → List Char → Option TemplatePart
  | 0, _, _ => none
  | n + 1, fault, cs =>
    match cs with
    | [] => none
    | '`' :: rest => some ⟨true, fault, rest⟩
    | '$' :: '{' :: rest => some ⟨false, fault, rest⟩
    | '\\' :: rest =>
      match rest with
      | [] => none
      | _ :: behind =>
        if isOctalEscape rest then templatePart n (fault.or (some .strictOctal)) behind
        else
          match skipEscape rest with
          | .ok after => templatePart n fault after
          | .error cause => templatePart n (fault.or (some cause)) behind
    | _ :: rest => templatePart n fault rest

/-- The text behind the body of a regular expression; `inClass` says that a bracket is open. -/
def regexEnd? (inClass : Bool) : List Char → Option (List Char)
  | [] => none
  | '\\' :: c :: rest => if isLineEnd c then none else regexEnd? inClass rest
  | c :: rest =>
    if isLineEnd c then none
    else if c = '/' && !inClass then some rest
    else if c = '[' then regexEnd? true rest
    else if c = ']' then regexEnd? false rest
    else regexEnd? inClass rest

/-! ## Names -/

/-- Reads the characters of a name: its text in reverse, whether it holds an escape, and what
follows.  The first argument bounds the number of characters. -/
def nameText : Nat → List Char → Bool → List Char →
    Except Fault (List Char × Bool × List Char)
  | 0, text, escaped, cs => .ok (text, escaped, cs)
  | n + 1, text, escaped, cs =>
    match cs with
    | '\\' :: 'u' :: rest =>
      match codePoint rest with
      | .ok (code, after) =>
        let c := Char.ofNat code
        if if text.isEmpty then isIdentifierStart c else isIdentifierPart c then
          nameText n (c :: text) true after
        else .error .characterInName
      | .error fault => .error fault
    | '\\' :: _ => .error .escapeExpected
    | c :: rest =>
      if isIdentifierPart c then nameText n (c :: text) escaped rest else .ok (text, escaped, cs)
    | [] => .ok (text, escaped, cs)

/-- The name that starts here. -/
def nameReading (cs : List Char) : Reading :=
  match nameText cs.length [] false cs with
  | .error fault => { token := .broken fault, rest := cs.drop 1 }
  | .ok (reversed, escaped, rest) =>
    let text := String.ofList reversed.reverse
    if !reservedWords.contains text then { token := .name text, rest }
    else if escaped then { token := .broken (.escapedKeyword text), rest }
    else { token := .keyword text, rest }

/-! ## Tokens -/

/-- A token in its place. -/
structure Lexeme extends Reading where
  /-- A line ends between the token before and this one. -/
  line : Bool
  /-- The text from the token on. -/
  start : List Char

/-- The punctuator the text starts with. -/
def punct? (cs : List Char) : Option (Punct × List Char) :=
  Punct.table.findSome? fun (text, p) => (dropStart? text.toList cs).map fun rest => (p, rest)

/-- The token the text starts with, without looking at blanks. -/
def readToken (cs : List Char) : Reading :=
  match cs with
  | [] => { token := .endOfInput, rest := [] }
  | c :: rest =>
    if c.isDigit || (c == '.' && rest.head?.any Char.isDigit) then number cs
    else if c = '"' || c = '\'' then stringFrom c cs.length [] false rest
    else if c = '`' then
      match templatePart cs.length none rest with
      | some part => { token := .template part.complete part.fault, rest := part.rest }
      | none => { token := .broken .unterminatedTemplate, rest := [] }
    else if isIdentifierStart c || c == '\\' then nameReading cs
    else
      match punct? cs with
      | some (p, after) => { token := .punct p, rest := after }
      | none => { token := .broken (.unexpectedCharacter c), rest }

/-- The first token of a text. -/
def Lexeme.next (cs : List Char) : Lexeme :=
  let trivia := skipTrivia cs.length false cs
  let reading := readToken trivia.rest
  { reading with note := trivia.fault.or reading.note, line := trivia.line, start := trivia.rest }

end Stencil.Ecma
