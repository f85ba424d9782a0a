import Stencil.Text.Blank

/-!
# Filter pipelines

An expression such as `message | capitalize | truncate(10)` names a base expression and the filters
applied to it from left to right.  It compiles into nested look-ups of the filters,
`_f("truncate")(_f("capitalize")(message),10)`.

* `Scan` is the lexical state of a left-to-right pass: the literal the pass is inside of and how
  deeply it is nested in each kind of bracket.  Pipes never change it.
* `splitPipes` cuts the text at its separating pipes: those at top level with no pipe beside them.
* `Pipeline.parse` reads the segments, `Pipeline.source` writes the nested calls.
-/

namespace Stencil.Filter

open Text

/-! ## The lexical state of a pass over an expression -/

/-- A literal whose text is opaque to the pass. -/
inductive Literal where
  | singleQuoted
  | doubleQuoted
  | template
  | regex
  deriving DecidableEq

/-- The character that closes a literal. -/
def Literal.delimiter : Literal → Char
  | .singleQuoted => '\''
  | .doubleQuoted => '"'
  | .template => '`'
  | .regex => '/'

/-- What a pass knows about the text it has read.  The counts of brackets have no bounds: texts with
so many brackets that a count of 32 bits overflows are left out. -/
structure Scan where
  /-- The literal the pass is inside of. -/
  literal : Option Literal := none
  /-- Open parentheses less closing ones. -/
  paren : Int := 0
  /-- Open square brackets less closing ones. -/
  square : Int := 0
  /-- Open braces less closing ones. -/
  curly : Int := 0
  /-- The character read last. -/
  previous : Option Char := none
  /-- The character read last among those that are no space. -/
  solid : Option Char := none
  deriving DecidableEq

/-- The state before anything is read. -/
def Scan.start : Scan := {}

/-- No literal is open and the brackets are balanced. -/
def Scan.atTopLevel (s : Scan) : Bool :=
  s.literal.isNone && s.paren == 0 && s.square == 0 && s.curly == 0

/-- A slash divides when it follows one of these characters, which can end an operand. -/
def endsOperand (c : Char) : Bool :=
  c.isAlphanum || ['_', ')', '.', '+', '-', '$', ']'].contains c

/-- Whether a slash read now opens a regular expression. -/
def Scan.opensRegex (s : Scan) : Bool :=
  match s.solid with
  | none => true
  | some c => !endsOperand c

/-- The literal and the bracket counts after reading a character outside every literal. -/
def Scan.enter (s : Scan) (c : Char) : Scan :=
  match c with
  | '"' => { s with literal := some .doubleQuoted }
  | '\'' => { s with literal := some .singleQuoted }
  | '`' => { s with literal := some .template }
  | '(' => { s with paren := s.paren + 1 }
  | ')' => { s with paren := s.paren - 1 }
  | '[' => { s with square := s.square + 1 }
  | ']' => { s with square := s.square - 1 }
  | '{' => { s with curly := s.curly + 1 }
  | '}' => { s with curly := s.curly - 1 }
  | '/' => if s.opensRegex then { s with literal := some .regex } else s
  | _ => s

/-- Reading one character.  Inside a literal only its delimiter counts, and only when no backslash
stands right before it. -/
def Scan.step (s : Scan) (c : Char) : Scan :=
  let read :=
    match s.literal with
    | none => s.enter c
    | some l =>
      if c = l.delimiter ∧ s.previous ≠ some '\\' then { s with literal := none } else s
  { read with previous := some c, solid := if c = ' ' then s.solid else some c }

/-- The state after reading a text. -/
def Scan.run (s : Scan) (cs : List Char) : Scan :=
  cs.foldl Scan.step s

/-! ## Segments between separating pipes -/

/-- Whether `c`, read in state `s` with `rest` behind it, separates two segments. -/
def Scan.cuts (s : Scan) (c : Char) (rest : List Char) : Bool :=
  c == '|' && s.atTopLevel && s.previous != some '|' && rest.head? != some '|'

/-- The text up to the first separating pipe, and the segments behind it. -/
def splitPipes (s : Scan) : List Char → List Char × List (List Char)
  | [] => ([], [])
  | c :: rest =>
    let (segment, segments) := splitPipes (s.step c) rest
    if s.cuts c rest then ([], segment :: segments) else (c :: segment, segments)

/-! ## Pipelines -/

/-- One filter of a pipeline. -/
structure Call where
  name : String
  /-- The text behind the opening parenthesis, with the closing one, if the filter is called. -/
  args : Option String
  deriving DecidableEq

/-- A filter as written between two pipes: its name ends at the first parenthesis. -/
def Call.ofSpec (spec : List Char) : Call :=
  match splitFirst? '(' spec with
  | some (name, args) => ⟨String.ofList name, some (String.ofList args)⟩
  | none => ⟨String.ofList spec, none⟩

/-- The runtime helper that finds a filter by its name. -/
def resolveHelper : String := "_f"

/-- The code that applies a filter to an expression. -/
def Call.wrap (call : Call) (exp : String) : String :=
  let head := resolveHelper ++ "(\"" ++ call.name ++ "\")(" ++ exp
  match call.args with
  | none => head ++ ")"
  | some args => if args = ")" then head ++ ")" else head ++ "," ++ args

/-- A base expression and the filters applied to it, first to last. -/
structure Pipeline where
  base : String
  filters : List Call
  deriving DecidableEq

/-- Reads the pipeline an expression denotes. -/
def Pipeline.parse (exp : String) : Pipeline :=
  let (base, specs) := splitPipes Scan.start exp.toList
  ⟨String.ofList (trimChars base), specs.map fun spec => Call.ofSpec (trimChars spec)⟩

/-- The code of a pipeline: the last filter is the outermost call. -/
def Pipeline.source (p : Pipeline) : String :=
  p.filters.foldl (fun exp call => call.wrap exp) p.base

/-- Compiles an expression with filters into nested filter calls. -/
def compile (exp : String) : String :=
  (Pipeline.parse exp).source

end Stencil.Filter
