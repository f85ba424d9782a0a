import Stencil.Double
import Stencil.Json.Basic

/-!
# Reading JSON

`Json.parse?` reads one value with blanks around it.  An escape that names half a character, a
character below U+0020 inside a string, a number that is too large, and anything behind the value
are refused.  `Json.parseRecord?` does the same for a record of which only some fields are known; a
value that belongs to no known field is skipped, and of half characters and large numbers in it
nothing is said.
-/

namespace Stencil.Json

/-- What a value is read for. -/
inductive Purpose where
  /-- Its contents count. -/
  | keep
  /-- Only its end counts. -/
  | skip
  deriving DecidableEq

/-- The blanks of the format. -/
def isSpace (c : Char) : Bool :=
  c == ' ' || c == '\n' || c == '\t' || c == '\r'

/-- The text behind its leading blanks. -/
def skipSpace (text : List Char) : List Char :=
  text.dropWhile isSpace

/-! ## Strings -/

/-- The value of a hexadecimal digit. -/
def hexValue? (c : Char) : Option Nat :=
  if '0' ≤ c && c ≤ '9' then some (c.toNat - 0x30)
  else if 'a' ≤ c && c ≤ 'f' then some (c.toNat - 0x61 + 10)
  else if 'A' ≤ c && c ≤ 'F' then some (c.toNat - 0x41 + 10)
  else none

/-- The number of four hexadecimal digits. -/
def hexUnit? : List Char → Option (Nat × List Char)
  | a :: b :: c :: d :: rest => do
    let a ← hexValue? a
    let b ← hexValue? b
    let c ← hexValue? c
    let d ← hexValue? d
    return (((a * 16 + b) * 16 + c) * 16 + d, rest)
  | _ => none

/-- The character of a numeric escape, from behind its letter.  A character outside the basic plane
is written as a pair of halves, which are not paired where a value is skipped. -/
def numericEscape? (purpose : Purpose) (text : List Char) : Option (Char × List Char) := do
  let (high, rest) ← hexUnit? text
  if purpose = .skip then return (Char.ofNat high, rest)
  else if 0xDC00 ≤ high && high ≤ 0xDFFF then none
  else if 0xD800 ≤ high && high ≤ 0xDBFF then
    match rest with
    | '\\' :: 'u' :: rest =>
      let (low, rest) ← hexUnit? rest
      if 0xDC00 ≤ low && low ≤ 0xDFFF then
        return (Char.ofNat (0x10000 + (high - 0xD800) * 0x400 + (low - 0xDC00)), rest)
      else none
    | _ => none
  else return (Char.ofNat high, rest)

/-- The character of an escape, from behind its backslash. -/
def escape? (purpose : Purpose) : List Char → Option (Char × List Char)
  | '"' :: rest => some ('"', rest)
  | '\\' :: rest => some ('\\', rest)
  | '/' :: rest => some ('/', rest)
  | 'b' :: rest => some ('\x08', rest)
  | 'f' :: rest => some ('\x0c', rest)
  | 'n' :: rest => some ('\n', rest)
  | 'r' :: rest => some ('\r', rest)
  | 't' :: rest => some ('\t', rest)
  | 'u' :: rest => numericEscape? purpose rest
  | _ => none

/-- The rest of a string behind its opening quote, and what follows it.  The first argument bounds
the number of characters. -/
def stringTail? (purpose : Purpose) : Nat → List Char → Option (List Char × List Char)
  | 0, _ => none
  | bound + 1, text =>
    match text with
    | [] => none
    | '"' :: rest => some ([], rest)
    | '\\' :: rest => do
      let (c, rest) ← escape? purpose rest
      let (cs, rest) ← stringTail? purpose bound rest
      return (c :: cs, rest)
    | c :: rest =>
      if c.toNat < 0x20 then none
      else do
        let (cs, rest) ← stringTail? purpose bound rest
        return (c :: cs, rest)

/-! ## Numbers -/

/-- The digits at the start of a text, if there are any, and what follows. -/
def digits? (text : List Char) : Option (List Char × List Char) :=
  match text.span Char.isDigit with
  | ([], _) => none
  | parts => some parts

/-- The fraction of a number, with its point. -/
def fraction? (text : List Char) : Option (List Char × List Char) :=
  match text with
  | '.' :: rest => (digits? rest).map fun (digits, rest) => ('.' :: digits, rest)
  | _ => some ([], text)

/-- The exponent of a number, with its letter. -/
def exponent? (text : List Char) : Option (List Char × List Char) :=
  match text with
  | c :: rest =>
    if c = 'e' || c = 'E' then
      match rest with
      | '+' :: rest => (digits? rest).map fun (digits, rest) => (c :: '+' :: digits, rest)
      | '-' :: rest => (digits? rest).map fun (digits, rest) => (c :: '-' :: digits, rest)
      | _ => (digits? rest).map fun (digits, rest) => (c :: digits, rest)
    else some ([], text)
  | [] => some ([], text)

/-- The number that some digits write. -/
def natOfDigits (digits : List Char) : Nat :=
  digits.foldl (fun n c => n * 10 + (c.toNat - 0x30)) 0

/-- The bound of the digits that a number keeps. -/
def digitBound : Nat := 18446744073709551616

/-- A number continued by digits, as many of them as keep it below the bound, and the digits that
are left. -/
def extend (n : Nat) : List Char → Nat × List Char
  | [] => (n, [])
  | c :: digits =>
    let next := n * 10 + (c.toNat - 0x30)
    if next < digitBound then extend next digits else (n, c :: digits)

/-- The value of an exponent with its letter. -/
def exponentValue (exponent : List Char) : Int :=
  match exponent.drop 1 with
  | '-' :: digits => -(natOfDigits digits : Int)
  | '+' :: digits => natOfDigits digits
  | digits => natOfDigits digits

/-- Whether a number is small enough for double precision.  It is the product of the digits that it
keeps and a power of ten, both rounded. -/
def inRange (digits fraction : List Char) (exponent : Int) : Bool :=
  let (n, dropped) := extend 0 digits
  let (n, unread) := extend n fraction
  let exponent := exponent + dropped.length - (fraction.length - unread.length : Nat)
  if n = 0 || exponent < 0 then true
  else if 308 < exponent then false
  else
    let product := do
      let factor ← Double.ofDecimal? n 0
      let power ← Double.ofDecimal? 1 exponent
      factor.mul? power
    product.isSome

/-- A number without sign; a zero in front of other digits is refused. -/
def unsigned? (purpose : Purpose) (text : List Char) : Option (JsonNumber × List Char) := do
  let (digits, rest) ← digits? text
  if digits.head? = some '0' && digits ≠ ['0'] then none
  else
    let (fraction, rest) ← fraction? rest
    let (exponent, rest) ← exponent? rest
    if purpose = .keep && !inRange digits (fraction.drop 1) (exponentValue exponent) then none
    else if fraction.isEmpty && exponent.isEmpty then return (.natural (natOfDigits digits), rest)
    else return (.decimal (String.ofList (digits ++ fraction ++ exponent)), rest)

/-- A number. -/
def number? (purpose : Purpose) (text : List Char) : Option (JsonNumber × List Char) :=
  match text with
  | '-' :: rest =>
    (unsigned? purpose rest).map fun (n, rest) =>
      (.decimal (String.ofList ('-' :: numberChars n)), rest)
  | _ => unsigned? purpose text

/-! ## Values -/

/-- Items divided by commas up to a closing mark, from behind the first one. -/
def moreItems? {α : Type} (item? : List Char → Option (α × List Char)) (mark : Char) :
    Nat → List Char → Option (List α × List Char)
  | 0, _ => none
  | bound + 1, text =>
    match skipSpace text with
    | ',' :: rest => do
      let (item, rest) ← item? rest
      let (items, rest) ← moreItems? item? mark bound rest
      return (item :: items, rest)
    | c :: rest => if c = mark then some ([], rest) else none
    | [] => none

/-- Items divided by commas up to a closing mark. -/
def items? {α : Type} (item? : List Char → Option (α × List Char)) (mark : Char)
    (text : List Char) : Option (List α × List Char) :=
  match skipSpace text with
  | [] => none
  | c :: rest =>
    if c = mark then some ([], rest)
    else do
      let (item, rest) ← item? (c :: rest)
      let (items, rest) ← moreItems? item? mark (rest.length + 1) rest
      return (item :: items, rest)

/-- A field of an object; its name decides how its value is read. -/
def field? (purpose : Purpose) (value? : String → List Char → Option (Json × List Char))
    (text : List Char) : Option ((String × Json) × List Char) :=
  match skipSpace text with
  | '"' :: rest => do
    let (name, rest) ← stringTail? purpose (rest.length + 1) rest
    match skipSpace rest with
    | ':' :: rest =>
      let (value, rest) ← value? (String.ofList name) rest
      return ((String.ofList name, value), rest)
    | _ => none
  | _ => none

/-- A value, nested at most to a depth, and what follows it. -/
def value? (purpose : Purpose) : Nat → List Char → Option (Json × List Char)
  | 0, _ => none
  | depth + 1, text =>
    match skipSpace text with
    | 'n' :: 'u' :: 'l' :: 'l' :: rest => some (.null, rest)
    | 't' :: 'r' :: 'u' :: 'e' :: rest => some (.bool true, rest)
    | 'f' :: 'a' :: 'l' :: 's' :: 'e' :: rest => some (.bool false, rest)
    | '"' :: rest =>
      (stringTail? purpose (rest.length + 1) rest).map fun (cs, rest) =>
        (.string (String.ofList cs), rest)
    | '[' :: rest =>
      (items? (value? purpose depth) ']' rest).map fun (items, rest) => (.array items, rest)
    | '\x7b' :: rest =>
      (items? (field? purpose fun _ => value? purpose depth) '\x7d' rest).map fun (fields, rest) =>
        (.object fields, rest)
    | text => (number? purpose text).map fun (n, rest) => (.number n, rest)

/-- A value with nothing but blanks behind it. -/
def whole? : Json × List Char → Option Json
  | (value, rest) => if (skipSpace rest).isEmpty then some value else none

/-- Reads a text that holds one value.  No value is nested more deeply than its text is long. -/
def parse? (text : String) : Option Json :=
  (value? .keep (text.toList.length + 1) text.toList).bind whole?

/-- Reads a text that holds a record with some known fields. -/
def parseRecord? (names : List String) (text : String) : Option Json :=
  let bound := text.toList.length + 1
  match skipSpace text.toList with
  | '\x7b' :: rest =>
    let purpose (name : String) : Purpose := if names.contains name then .keep else .skip
    let fields := items? (field? .keep fun name => value? (purpose name) bound) '\x7d' rest
    fields.bind fun (fields, rest) => whole? (.object fields, rest)
  | _ => parse? text

end Stencil.Json
