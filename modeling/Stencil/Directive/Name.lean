import Stencil.Text.Blank

/-!
# Names of directives

The name of an attribute decides what its value is.  `AttributeKind.ofName` takes such a name apart:
`:title.prop` binds an attribute, `@click.stop` listens to an event, `v-focus:target.once` is a
directive with an argument, and `title` is a plain attribute.
-/

namespace Stencil

open Text

/-- Whether the value of an attribute is code. -/
def isDirective (name : String) : Bool :=
  ["v-", "@", ":", "#"].any (hasStart name)

/-- Whether an attribute listens to an event. -/
def isEvent (name : String) : Bool :=
  ["@", "v-on:"].any (hasStart name)

namespace DirectiveName

/-- The text up to and with the last closing bracket, and the text behind it. -/
def splitBracket : List Char → List Char × List Char
  | [] => ([], [])
  | c :: cs =>
    match splitBracket cs with
    | ([], tail) => if c = ']' then ([c], tail) else ([], c :: tail)
    | (head, tail) => (c :: head, tail)

/-- Splits the modifiers off a name.  Dots inside a bracketed part divide nothing. -/
def splitModifiers (name : List Char) : List Char × List String :=
  let (head, tail) := splitBracket name
  match splitAtChar '.' tail with
  | [] => (head, [])
  | kept :: modifiers =>
    (head ++ kept, (modifiers.filter fun m => !m.isEmpty).map String.ofList)

/-- What stands between brackets around the whole name. -/
def unbracket? (name : List Char) : Option (List Char) :=
  match name with
  | '[' :: inner =>
    match inner.getLast? with
    | some ']' => some inner.dropLast
    | _ => none
  | _ => none

/-- A name that is known from the source, or code in brackets that gives it when it runs. -/
def dynamicName (name : List Char) : String × Bool :=
  match unbracket? name with
  | some inner => (String.ofList inner, true)
  | none => (String.ofList name, false)

/-- The name behind the first of some beginnings that it has. -/
def dropFirst? (starts : List String) (name : List Char) : Option (List Char) :=
  starts.findSome? fun start => dropStart? start.toList name

/-- The beginnings of a bound attribute. -/
def bindStarts : List String := [":", "v-bind:"]

/-- The beginnings of an event. -/
def eventStarts : List String := ["@", "v-on:"]

/-- The beginnings of any directive. -/
def directiveStarts : List String := ["v-", "@", ":", "#"]

end DirectiveName

open DirectiveName

/-- What the name of an attribute says. -/
inductive AttributeKind where
  /-- A plain attribute. -/
  | plain
  /-- A bound attribute. -/
  | bound (name : String) (dynamic : Bool) (modifiers : List String)
  | event (name : String) (dynamic : Bool) (modifiers : List String)
  | directive (name : String) (argument : Option String) (dynamic : Bool) (modifiers : List String)
  deriving DecidableEq

/-- The kind of a directive whose modifiers are split off. -/
def AttributeKind.ofDirective (name : List Char) (modifiers : List String) : AttributeKind :=
  match dropFirst? bindStarts name with
  | some rest =>
    let (target, dynamic) := dynamicName rest
    .bound target dynamic modifiers
  | none =>
    match dropFirst? eventStarts name with
    | some rest =>
      let (target, dynamic) := dynamicName rest
      .event target dynamic modifiers
    | none =>
      let name := (dropFirst? directiveStarts name).getD name
      match splitFirst? ':' name with
      | some (name, argument) =>
        let (argument, dynamic) := dynamicName argument
        .directive (String.ofList name) (some argument) dynamic modifiers
      | none => .directive (String.ofList name) none false modifiers

/-- The kind of the attribute with a name. -/
def AttributeKind.ofName (name : String) : AttributeKind :=
  if isDirective name then
    let (name, modifiers) := splitModifiers name.toList
    .ofDirective name modifiers
  else .plain

end Stencil
