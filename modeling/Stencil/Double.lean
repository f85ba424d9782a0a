/-!
# Numbers of double precision

A finite number of double precision is a significand below `2 ^ 53` times a power of two.
`Double.ofRatio?` rounds a ratio to the nearest such number, a half to the even neighbour.
`Double.shortest` goes back: among the decimals that round to a number it takes one with the fewest
digits, and the nearest of those.  All of it is exact arithmetic on natural numbers.
-/

namespace Stencil

/-- A finite number of double precision without its sign. -/
structure Double where
  significand : Nat
  /-- The power of two that the significand is multiplied by. -/
  exponent : Int
  deriving DecidableEq

namespace Double

/-- The power of two of the finest numbers. -/
def minExponent : Int := -1074

/-- The power of two of the largest numbers. -/
def maxExponent : Int := 971

/-- The bound of the significands. -/
def bound : Nat := 9007199254740992

/-- The number zero. -/
def zero : Double := ⟨0, minExponent⟩

/-- The ratio of `n` times a power of a base, as a numerator and a denominator. -/
def ratio (n base : Nat) (exponent : Int) : Nat × Nat :=
  (n * Nat.pow base exponent.toNat, Nat.pow base (-exponent).toNat)

/-! ## Rounding -/

/-- The quotient rounded to the nearest number, a half to the even neighbour. -/
def roundedQuotient (num den : Nat) : Nat :=
  let floor := num / den
  let twice := 2 * (num % den)
  if twice < den || (twice = den && floor % 2 = 0) then floor else floor + 1

/-- The power of two at which the quotient fills a significand, or the least one. -/
def scaleOf (num den : Nat) : Int :=
  let guess := max minExponent ((num.log2 : Int) - den.log2 - 53)
  let (up, down) := ratio 1 2 guess
  if num * down / (den * up) < bound then guess else guess + 1

/-- The number nearest to a ratio; there is none for a ratio that is too large. -/
def ofRatio? (num den : Nat) : Option Double :=
  if num = 0 then some zero
  else
    let scale := scaleOf num den
    let (up, down) := ratio 1 2 scale
    let significand := roundedQuotient (num * down) (den * up)
    let rounded : Double :=
      if significand < bound then ⟨significand, scale⟩ else ⟨bound / 2, scale + 1⟩
    if rounded.exponent ≤ maxExponent then some rounded else none

/-- The number nearest to `digits` times a power of ten.  Far outside the range the magnitude alone
decides. -/
def ofDecimal? (digits : Nat) (exponent : Int) : Option Double :=
  let magnitude := (Nat.toDigits 10 digits).length + exponent
  if digits = 0 || magnitude < -330 then some zero
  else if 310 < magnitude then none
  else
    let (num, den) := ratio digits 10 exponent
    ofRatio? num den

/-- The number nearest to a product. -/
def mul? (x y : Double) : Option Double :=
  let (num, den) := ratio (x.significand * y.significand) 2 (x.exponent + y.exponent)
  ofRatio? num den

/-! ## Shortest decimals -/

/-- The neighbour of a number among the multiples of a power of ten that rounds to the number.  Of
two such neighbours it is the nearer one, and of two equally near ones the greater. -/
def neighbour? (x : Double) (exponent : Int) : Option Nat :=
  let (num, den) := ratio x.significand 2 x.exponent
  let (up, down) := ratio 1 10 exponent
  let num := num * down
  let den := den * up
  let floor := num / den
  let below := ofDecimal? floor exponent = some x
  let above := ofDecimal? (floor + 1) exponent = some x
  if above && (!below || den ≤ 2 * (num % den)) then some (floor + 1)
  else if below then some floor
  else none

/-- The digits and the power of ten of the shortest decimal that rounds to a number.  The search
goes from a power of ten above the number to finer ones; seventeen digits are always enough, and the
exact decimal stands behind them. -/
def shortest (x : Double) : Nat × Int :=
  let start := (x.exponent + x.significand.log2 + 1) * 30103 / 100000 + 2
  let found := (List.range 22).findSome? fun (i : Nat) =>
    (x.neighbour? (start - i)).map fun digits => (digits, start - (i : Int))
  found.getD (x.significand * Nat.pow 2 x.exponent.toNat * Nat.pow 5 (-x.exponent).toNat,
    min x.exponent 0)

/-- The digits of a decimal around its point, without an exponent. -/
def positional (digits : Nat) (exponent : Int) : String :=
  let cs := Nat.toDigits 10 digits
  if 0 ≤ exponent then String.ofList (cs ++ List.replicate exponent.toNat '0')
  else
    let places := exponent.natAbs
    let padded := List.replicate (places + 1 - cs.length) '0' ++ cs
    String.ofList (padded.take (padded.length - places)) ++ "." ++
      String.ofList (padded.drop (padded.length - places))

/-- The text of a number. -/
def render (x : Double) : String :=
  if x.significand = 0 then "0"
  else
    let (digits, exponent) := x.shortest
    positional digits exponent

end Double

end Stencil
