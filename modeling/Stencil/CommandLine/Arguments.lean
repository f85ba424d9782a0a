import Stencil.Text.Blank

/-!
# Arguments of the command line

A command line names one command, and has options of that command and options that every command
takes.  `Invocation.parse` reads it.
-/

namespace Stencil.CommandLine

open Text

/-! ## Options -/

/-- How often an option may be given, and whether it has a value. -/
inductive OptionKind where
  /-- Once, without a value. -/
  | flag
  /-- Any number of times, without a value. -/
  | count
  /-- Once, with a value. -/
  | single
  /-- Any number of times, with a value that commas divide. -/
  | list
  deriving DecidableEq

/-- An option. -/
structure OptionSpec where
  long : String
  short : Option Char := none
  kind : OptionKind

/-- Whether an option has a value. -/
def OptionSpec.takesValue (o : OptionSpec) : Bool :=
  o.kind == .single || o.kind == .list

/-- The options that every command takes. -/
def globalOptions : List OptionSpec :=
  [{ long := "quiet", short := some 'q', kind := .flag },
   { long := "verbose", short := some 'v', kind := .count }]

/-- Why the reading of arguments ends early. -/
inductive Stop where
  /-- The arguments make no sense. -/
  | usage
  | version
  | help
  deriving DecidableEq

/-- What has been read so far. -/
structure Matches where
  /-- The options given, the first one first, with their values. -/
  options : List (String × List String) := []
  positional : Option String := none

namespace Matches

/-- Whether an option is given. -/
def has (m : Matches) (long : String) : Bool :=
  m.options.any fun option => option.1 == long

/-- The values of an option. -/
def values (m : Matches) (long : String) : List String :=
  (m.options.filter fun option => option.1 == long).flatMap Prod.snd

/-- Takes in an option; some may be given once only. -/
def add (m : Matches) (o : OptionSpec) (values : List String) : Except Stop Matches :=
  if (o.kind == .flag || o.kind == .single) && m.has o.long then .error .usage
  else .ok { m with options := m.options ++ [(o.long, values)] }

/-- Takes in an argument that is no option; there can be one. -/
def addPositional (m : Matches) (text : String) : Except Stop Matches :=
  if m.positional.isSome then .error .usage else .ok { m with positional := some text }

end Matches

/-- The values that an option with a value stands for. -/
def OptionSpec.split (o : OptionSpec) (value : String) : List String :=
  if o.kind == .list then (splitAtChar ',' value.toList).map String.ofList else [value]

/-! ## Reading -/

/-- An argument, as it looks. -/
inductive Shape where
  /-- Everything behind it is no option. -/
  | escape
  | long (name : String) (value : Option String)
  | shorts (letters : List Char)
  | plain
  deriving DecidableEq

/-- How an argument looks. -/
def shape (argument : String) : Shape :=
  match argument.toList with
  | ['-', '-'] => .escape
  | '-' :: '-' :: name =>
    match splitFirst? '=' name with
    | some (name, value) => .long (String.ofList name) (some (String.ofList value))
    | none => .long (String.ofList name) none
  | ['-'] => .plain
  | '-' :: letters => .shorts letters
  | _ => .plain

/-- The letters of short options, one after another; none has a value. -/
def readShorts (options : List OptionSpec) (version : Bool) (m : Matches) :
    List Char → Except Stop Matches
  | [] => .ok m
  | c :: letters =>
    match options.find? fun o => o.short == some c with
    | some o => do
      let m ← m.add o []
      readShorts options version m letters
    | none =>
      if c = 'h' then .error .help
      else if c = 'V' && version then .error .version
      else .error .usage

/-- A long option, with its value or the arguments behind it; gives the arguments left. -/
def readLong (options : List OptionSpec) (version : Bool) (m : Matches) (name : String)
    (value : Option String) (rest : List String) : Except Stop (Matches × List String) :=
  match options.find? fun o => o.long == name with
  | some o =>
    if o.takesValue then
      match value, rest with
      | some value, _ => (m.add o (o.split value)).map fun m => (m, rest)
      | none, next :: rest =>
        if shape next = .plain then (m.add o (o.split next)).map fun m => (m, rest)
        else .error .usage
      | none, [] => .error .usage
    else if value.isSome then .error .usage
    else (m.add o []).map fun m => (m, rest)
  | none =>
    if value.isSome then .error .usage
    else if name == "help" then .error .help
    else if name == "version" && version then .error .version
    else .error .usage

/-- Reads the options in front of the command: what they are, the command and its arguments. -/
def readGlobal (options : List OptionSpec) : Nat → Matches → List String →
    Except Stop (Matches × String × List String)
  | 0, _, _ => .error .usage
  | _ + 1, _, [] => .error .usage
  | bound + 1, m, argument :: rest =>
    match shape argument with
    | .escape => .error .usage
    | .plain => .ok (m, argument, rest)
    | .shorts letters => do
      let m ← readShorts options true m letters
      readGlobal options bound m rest
    | .long name value => do
      let (m, rest) ← readLong options true m name value rest
      readGlobal options bound m rest

/-- Reads the arguments of a command. -/
def readCommand (options : List OptionSpec) : Nat → Matches → List String → Except Stop Matches
  | 0, _, _ => .error .usage
  | _ + 1, m, [] => .ok m
  | bound + 1, m, argument :: rest =>
    match shape argument with
    | .escape => rest.foldlM Matches.addPositional m
    | .plain => do
      let m ← m.addPositional argument
      readCommand options bound m rest
    | .shorts letters => do
      let m ← readShorts options false m letters
      readCommand options bound m rest
    | .long name value => do
      let (m, rest) ← readLong options false m name value rest
      readCommand options bound m rest

/-! ## Commands -/

/-- What the program can do. -/
inductive Command where
  /-- Compiles an expression with filters, or shows its parts. -/
  | filters (expression : String) (json : Bool)
  /-- Reads a text around its interpolations. -/
  | text (text : String) (delimiters : List String)
  /-- Checks the expressions of a tree in a file. -/
  | check (tree : String) (template : Option String) (select ignore : List String)
  deriving DecidableEq

/-- The options of a command. -/
def commandOptions : String → Option (List OptionSpec)
  | "filters" => some [{ long := "json", kind := .flag }]
  | "text" => some [{ long := "delimiters", kind := .list }]
  | "check" => some [{ long := "template", kind := .single }, { long := "select", kind := .list },
      { long := "ignore", kind := .list }]
  | _ => none

/-- The command that has been read. -/
def commandOf (name : String) (argument : String) (m : Matches) : Command :=
  match name with
  | "filters" => .filters argument (m.has "json")
  | "text" => .text argument (m.values "delimiters")
  | _ => .check argument (m.values "template").head? (m.values "select") (m.values "ignore")

/-- A command to run. -/
structure Invocation where
  quiet : Bool
  command : Command
  deriving DecidableEq

/-- Options that exclude one another. -/
def conflicting (m : Matches) : Bool :=
  m.has "quiet" && m.has "verbose"

/-- Reads the arguments of the program. -/
def Invocation.parse (arguments : List String) : Except Stop Invocation := do
  let bound := arguments.length + 1
  let (outer, name, rest) ← readGlobal globalOptions bound {} arguments
  match commandOptions name with
  | none => throw (if name == "help" then .help else .usage)
  | some options =>
    let inner ← readCommand (options ++ globalOptions) bound {} rest
    match inner.positional with
    | none => throw .usage
    | some argument =>
      if conflicting outer || conflicting inner then throw .usage
      else return ⟨outer.has "quiet" || inner.has "quiet", commandOf name argument inner⟩

end Stencil.CommandLine
