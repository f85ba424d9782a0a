import Stencil.Json.Reader
import Stencil.Text.Blank
import Stencil.Toml.Basic

/-!
# Reading configuration values

Keys, strings, numbers, dates, arrays and inline tables.  Every reader takes the text from where its
item starts and gives the item and the text behind it.
-/

namespace Stencil.Toml

/-! ## Blanks and comments -/

/-- A blank that ends no line. -/
def isSpace (c : Char) : Bool :=
  c == ' ' || c == '\t'

/-- The text behind its leading blanks. -/
def skipSpace (text : List Char) : List Char :=
  text.dropWhile isSpace

/-- A character that may stand in a comment or a literal string. -/
def isPlainChar (c : Char) : Bool :=
  c == '\t' || (0x20 ≤ c.toNat && c.toNat ≠ 0x7F)

/-- The text behind a comment, if one starts here. -/
def skipComment (text : List Char) : List Char :=
  match text with
  | '#' :: rest => rest.dropWhile isPlainChar
  | _ => text

/-- The text behind a line end. -/
def lineEnd? : List Char → Option (List Char)
  | '\n' :: rest => some rest
  | '\r' :: '\n' :: rest => some rest
  | _ => none

/-- The text behind blanks, comments and line ends. -/
def skipLines : Nat → List Char → List Char
  | 0, text => text
  | bound + 1, text =>
    let text := skipComment (skipSpace text)
    match lineEnd? text with
    | some rest => skipLines bound rest
    | none => text

/-- The text behind a line that has nothing more on it. -/
def finishLine? (text : List Char) : Option (List Char) :=
  match skipComment (skipSpace text) with
  | [] => some []
  | text => lineEnd? text

/-! ## Strings -/

/-- The character of an escape with a number of hexadecimal digits. -/
def numericEscape? (count : Nat) (text : List Char) : Option (Char × List Char) := do
  let digits ← (text.take count).mapM Json.hexValue?
  let n := digits.foldl (fun n d => n * 16 + d) 0
  if digits.length = count && n.isValidChar then return (Char.ofNat n, text.drop count) else none

/-- The character of an escape, from behind its backslash. -/
def escape? : List Char → Option (Char × List Char)
  | 'b' :: rest => some ('\x08', rest)
  | 't' :: rest => some ('\t', rest)
  | 'n' :: rest => some ('\n', rest)
  | 'f' :: rest => some ('\x0c', rest)
  | 'r' :: rest => some ('\r', rest)
  | 'e' :: rest => some ('\x1b', rest)
  | '"' :: rest => some ('"', rest)
  | '\\' :: rest => some ('\\', rest)
  | 'x' :: rest => numericEscape? 2 rest
  | 'u' :: rest => numericEscape? 4 rest
  | 'U' :: rest => numericEscape? 8 rest
  | _ => none

/-- A string on one line, from behind its opening quote. -/
def lineString? (escapes : Bool) (mark : Char) : Nat → List Char → Option (List Char × List Char)
  | 0, _ => none
  | bound + 1, text =>
    match text with
    | [] => none
    | c :: rest =>
      if c = mark then some ([], rest)
      else if escapes && c = '\\' then do
        let (c, rest) ← escape? rest
        let (cs, rest) ← lineString? escapes mark bound rest
        return (c :: cs, rest)
      else if isPlainChar c then do
        let (cs, rest) ← lineString? escapes mark bound rest
        return (c :: cs, rest)
      else none

/-- The text behind a backslash that ends a line and behind the blanks and line ends that follow. -/
def continuation? (text : List Char) : Option (List Char) :=
  match lineEnd? (skipSpace text) with
  | some rest => some (rest.dropWhile fun c => isSpace c || c == '\n' || c == '\r')
  | none => none

/-- The quotes that end a string over several lines; up to two more belong to the string. -/
def closing? (mark : Char) (text : List Char) : Option (List Char × List Char) :=
  let count := min 5 (text.takeWhile (· == mark)).length
  if 3 ≤ count then some (List.replicate (count - 3) mark, text.drop count) else none

/-- A string over several lines, from behind its opening quotes. -/
def blockString? (escapes : Bool) (mark : Char) : Nat → List Char → Option (List Char × List Char)
  | 0, _ => none
  | bound + 1, text =>
    match closing? mark text with
    | some result => some result
    | none =>
      match text with
      | [] => none
      | '\r' :: '\n' :: rest => do
        let (cs, rest) ← blockString? escapes mark bound rest
        return ('\r' :: '\n' :: cs, rest)
      | c :: rest =>
        if escapes && c = '\\' then
          match continuation? rest with
          | some rest => blockString? escapes mark bound rest
          | none => do
            let (c, rest) ← escape? rest
            let (cs, rest) ← blockString? escapes mark bound rest
            return (c :: cs, rest)
        else if isPlainChar c || c = '\n' then do
          let (cs, rest) ← blockString? escapes mark bound rest
          return (c :: cs, rest)
        else none

/-- The text without a line end at its start. -/
def dropLineEnd (text : List Char) : List Char :=
  (lineEnd? text).getD text

/-- A string of any kind. -/
def string? (text : List Char) : Option (String × List Char) :=
  let bound := text.length + 1
  let result :=
    match text with
    | '"' :: '"' :: '"' :: rest => blockString? true '"' bound (dropLineEnd rest)
    | '\'' :: '\'' :: '\'' :: rest => blockString? false '\'' bound (dropLineEnd rest)
    | '"' :: rest => lineString? true '"' bound rest
    | '\'' :: rest => lineString? false '\'' bound rest
    | _ => none
  result.map fun (cs, rest) => (String.ofList cs, rest)

/-! ## Keys -/

/-- A character of a key without quotes. -/
def isKeyChar (c : Char) : Bool :=
  c.isAlphanum || c == '_' || c == '-'

/-- One part of a key. -/
def keyPart? (text : List Char) : Option (String × List Char) :=
  match text with
  | '"' :: rest | '\'' :: rest =>
    let mark := text.headD '"'
    (lineString? (mark == '"') mark (text.length + 1) rest).map fun (cs, rest) =>
      (String.ofList cs, rest)
  | _ =>
    match text.span isKeyChar with
    | ([], _) => none
    | (cs, rest) => some (String.ofList cs, rest)

/-- The parts of a key, divided by dots. -/
def key? : Nat → List Char → Option (List String × List Char)
  | 0, _ => none
  | bound + 1, text => do
    let (part, rest) ← keyPart? (skipSpace text)
    match skipSpace rest with
    | '.' :: rest =>
      let (parts, rest) ← key? bound rest
      return (part :: parts, rest)
    | rest => return ([part], rest)

/-! ## Numbers -/

/-- Digits, with underscores between two of them only. -/
def digits? (isDigit : Char → Bool) (text : List Char) : Option (List Char × List Char) :=
  let (run, rest) := text.span fun c => isDigit c || c == '_'
  let pieces := Text.splitAtChar '_' run
  if run.isEmpty || pieces.any List.isEmpty then none
  else some (pieces.flatten, rest)

/-- The largest whole number. -/
def maxInteger : Nat := 9223372036854775807

/-- A whole number in another base, from behind its mark. -/
def based? (base : Nat) (isDigit : Char → Bool) (text : List Char) : Option (Toml × List Char) := do
  let (digits, rest) ← digits? isDigit text
  let n := digits.foldl (fun n c => n * base + (Json.hexValue? c).getD 0) 0
  if n ≤ maxInteger then return (.integer n, rest) else none

/-- The exponent of a number, if there is one. -/
def exponent? (text : List Char) : Option (Option Int × List Char) :=
  match text with
  | c :: rest =>
    if c = 'e' || c = 'E' then
      let (negative, rest) := match rest with
        | '-' :: rest => (true, rest)
        | '+' :: rest => (false, rest)
        | rest => (false, rest)
      (digits? Char.isDigit rest).map fun (digits, rest) =>
        let n : Int := Json.natOfDigits digits
        (some (if negative then -n else n), rest)
    else some (none, text)
  | [] => some (none, [])

/-- The fraction of a number, if there is one. -/
def fraction? (text : List Char) : Option (Option (List Char) × List Char) :=
  match text with
  | '.' :: rest => (digits? Char.isDigit rest).map fun (digits, rest) => (some digits, rest)
  | _ => some (none, text)

/-- A decimal number without its sign. -/
def decimal? (negative : Bool) (text : List Char) : Option (Toml × List Char) := do
  let (digits, rest) ← digits? Char.isDigit text
  if 1 < digits.length && digits.head? = some '0' then none
  else
    let (fraction, rest) ← fraction? rest
    let (exponent, rest) ← exponent? rest
    if fraction.isNone && exponent.isNone then
      let n := Json.natOfDigits digits
      if negative then if n ≤ maxInteger + 1 then return (.integer (-(n : Int)), rest) else none
      else if n ≤ maxInteger then return (.integer n, rest) else none
    else
      let fraction := fraction.getD []
      let exponent := exponent.getD 0
      let value ← Double.ofDecimal? (Json.natOfDigits (digits ++ fraction))
        (exponent - fraction.length)
      return (.float ((if negative then "-" else "") ++ value.render), rest)

/-- A number of any kind. -/
def number? (text : List Char) : Option (Toml × List Char) :=
  match text with
  | '0' :: 'x' :: rest => based? 16 (fun c => (Json.hexValue? c).isSome) rest
  | '0' :: 'o' :: rest => based? 8 (fun c => '0' ≤ c && c ≤ '7') rest
  | '0' :: 'b' :: rest => based? 2 (fun c => c == '0' || c == '1') rest
  | 'i' :: 'n' :: 'f' :: rest | '+' :: 'i' :: 'n' :: 'f' :: rest => some (.float "inf", rest)
  | '-' :: 'i' :: 'n' :: 'f' :: rest => some (.float "-inf", rest)
  | 'n' :: 'a' :: 'n' :: rest | '+' :: 'n' :: 'a' :: 'n' :: rest
  | '-' :: 'n' :: 'a' :: 'n' :: rest => some (.float "NaN", rest)
  | '+' :: rest => decimal? false rest
  | '-' :: rest => decimal? true rest
  | _ => decimal? false text

/-! ## Dates and times -/

/-- A number of a fixed count of digits within bounds. -/
def fixed? (count low high : Nat) (text : List Char) : Option (List Char) :=
  let digits := text.take count
  let n := Json.natOfDigits digits
  if digits.length = count && digits.all Char.isDigit && low ≤ n && n ≤ high
  then some (text.drop count) else none

/-- The text behind a fixed character. -/
def char? (c : Char) : List Char → Option (List Char)
  | d :: rest => if c = d then some rest else none
  | [] => none

/-- The days of a month. -/
def daysOfMonth (year month : Nat) : Nat :=
  if month = 2 then
    if year % 4 = 0 && (year % 100 ≠ 0 || year % 400 = 0) then 29 else 28
  else if [4, 6, 9, 11].contains month then 30
  else 31

/-- The text behind a date. -/
def date? (text : List Char) : Option (List Char) := do
  let afterYear ← char? '-' (← fixed? 4 0 9999 text)
  let afterMonth ← char? '-' (← fixed? 2 1 12 afterYear)
  let year := Json.natOfDigits (text.take 4)
  let month := Json.natOfDigits (afterYear.take 2)
  fixed? 2 1 (daysOfMonth year month) afterMonth

/-- The text behind the seconds of a time and their fraction. -/
def seconds? (text : List Char) : Option (List Char) := do
  let rest ← fixed? 2 0 60 text
  match rest with
  | '.' :: rest =>
    match rest.span Char.isDigit with
    | ([], _) => none
    | (_, rest) => return rest
  | rest => return rest

/-- The text behind a time of the day; its seconds may be missing. -/
def time? (text : List Char) : Option (List Char) := do
  let rest ← fixed? 2 0 23 text
  let rest ← fixed? 2 0 59 (← char? ':' rest)
  match rest with
  | ':' :: rest => seconds? rest
  | rest => return rest

/-- The text behind an offset from universal time, if there is one. -/
def offset? (text : List Char) : Option (List Char) :=
  match text with
  | 'Z' :: rest | 'z' :: rest => some rest
  | '+' :: rest | '-' :: rest => do
    let rest ← fixed? 2 0 23 rest
    fixed? 2 0 59 (← char? ':' rest)
  | _ => some text

/-- The text behind a date, a time or both. -/
def datetimeEnd? (text : List Char) : Option (List Char) :=
  match date? text with
  | some rest =>
    match rest with
    | c :: after =>
      if c = 'T' || c = 't' then (time? after).bind offset?
      else if c = ' ' then
        match time? after with
        | some rest => offset? rest
        | none => some rest
      else some rest
    | [] => some []
  | none => time? text

/-- A date, a time or both. -/
def datetime? (text : List Char) : Option (Toml × List Char) :=
  (datetimeEnd? text).map fun rest =>
    (.datetime (String.ofList (text.take (text.length - rest.length))), rest)

/-! ## Arrays and inline tables -/

/-- The items of an array, from behind its bracket.  Lines may end between them. -/
def items? (value? : List Char → Option (Toml × List Char)) :
    Nat → List Char → Option (List Toml × List Char)
  | 0, _ => none
  | bound + 1, text =>
    match skipLines (text.length + 1) text with
    | ']' :: rest => some ([], rest)
    | text => do
      let (item, rest) ← value? text
      match skipLines (rest.length + 1) rest with
      | ',' :: rest =>
        let (items, rest) ← items? value? bound rest
        return (item :: items, rest)
      | ']' :: rest => return ([item], rest)
      | _ => none

/-- Puts a value under a key into the entries of an inline table; no part may be given twice. -/
def insertInline? (value : Toml) :
    List String → List (String × Toml) → Option (List (String × Toml))
  | [], _ => none
  | [name], entries =>
    if (entries.lookup name).isSome then none else some (entries ++ [(name, value)])
  | name :: path, entries =>
    match entries.lookup name with
    | none => (insertInline? value path []).map fun inner => entries ++ [(name, .table inner)]
    | some (.table inner) =>
      (insertInline? value path inner).map fun inner =>
        Dict.insertEntry name (.table inner) entries
    | some _ => none

/-- The pairs of an inline table, from behind its brace.  Lines may end between them. -/
def pairs? (value? : List Char → Option (Toml × List Char)) :
    Nat → List Char → Option (List (List String × Toml) × List Char)
  | 0, _ => none
  | bound + 1, text =>
    match skipLines (text.length + 1) text with
    | '\x7d' :: rest => some ([], rest)
    | text => do
      let (key, rest) ← key? (text.length + 1) text
      let (value, rest) ← value? (skipSpace (← char? '=' (skipSpace rest)))
      match skipLines (rest.length + 1) rest with
      | ',' :: rest =>
        let (pairs, rest) ← pairs? value? bound rest
        return ((key, value) :: pairs, rest)
      | '\x7d' :: rest => return ([(key, value)], rest)
      | _ => none

/-- Whether a value is an inline table whose entries must stay as they are. -/
def inlineTable? (pairs : List (List String × Toml)) : Option Toml :=
  (pairs.foldlM (fun entries (key, value) => insertInline? value key entries) []).map .table

/-- A value, nested at most to a depth. -/
def value? : Nat → List Char → Option (Toml × List Char)
  | 0, _ => none
  | depth + 1, text =>
    match text with
    | '"' :: _ | '\'' :: _ => (string? text).map fun (s, rest) => (.string s, rest)
    | 't' :: 'r' :: 'u' :: 'e' :: rest => some (.boolean true, rest)
    | 'f' :: 'a' :: 'l' :: 's' :: 'e' :: rest => some (.boolean false, rest)
    | '[' :: rest =>
      (items? (value? depth) (rest.length + 1) rest).map fun (items, rest) => (.array items, rest)
    | '\x7b' :: rest => do
      let (pairs, rest) ← pairs? (value? depth) (rest.length + 1) rest
      return (← inlineTable? pairs, rest)
    | _ => (datetime? text).or (number? text)

end Stencil.Toml
