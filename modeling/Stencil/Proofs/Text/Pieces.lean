/-!
# Texts made of code and string literals

The passes over an expression agree on what a string literal is: it stands
between two equal quotes, and a backslash escapes the character behind it.  They
differ in which characters can be escaped and in what they take for code, so
that both are parameters here.
-/

namespace Stencil.Text

/-- The marks around a string literal. -/
inductive Quote where
  | single
  | double
  deriving DecidableEq

/-- The character of a quote. -/
def Quote.mark : Quote → Char
  | single => '\''
  | double => '"'

/-- What stands between two quotes: characters other than the quote and the
backslash, and pairs of a backslash and a character that can be escaped. -/
inductive Contents (Escapable : Char → Prop) (q : Quote) : List Char → Prop
  | nil : Contents Escapable q []
  | char {c : Char} {cs : List Char} (hquote : c ≠ q.mark) (hescape : c ≠ '\\')
      (hrest : Contents Escapable q cs) : Contents Escapable q (c :: cs)
  | escape {c : Char} {cs : List Char} (hescapable : Escapable c)
      (hrest : Contents Escapable q cs) : Contents Escapable q ('\\' :: c :: cs)

/-- A string literal. -/
def quoted (q : Quote) (cs : List Char) : List Char :=
  q.mark :: (cs ++ [q.mark])

/-- A piece of an expression, with what code and literals may hold. -/
inductive Piece (Code : List Char → Prop) (Literal : Quote → List Char → Prop) where
  | code (text : List Char) (htext : Code text)
  | literal (q : Quote) (contents : List Char) (hcontents : Literal q contents)

namespace Piece

variable {Code : List Char → Prop} {Literal : Quote → List Char → Prop}

/-- The text of a piece. -/
def chars : Piece Code Literal → List Char
  | code text _ => text
  | literal q contents _ => quoted q contents

/-- The expression that some pieces make up. -/
def expression (ps : List (Piece Code Literal)) : String :=
  String.ofList (ps.flatMap chars)

end Piece

end Stencil.Text
