/-!
# Shortest decimals

The decimal text of a finite double: the fewest digits that read back as the same
double, the nearest such decimal, written without an exponent and always with a point.
-/

set_option autoImplicit false

namespace TtyFrame.Decimal

/-- A positive binary fraction `numerator / denominator` with the interval of reals
that round to it. Lower and upper end stand over the same denominator. -/
structure Rounding where
  numerator : Nat
  lower : Nat
  upper : Nat
  denominator : Nat
  /-- The ends themselves round to the value. -/
  closed : Bool

/-- The rounding interval of `mantissa * 2 ^ exponent`. `narrow` marks the least
mantissa of its binade, whose lower neighbour is only half a step away. -/
def Rounding.ofBinary (mantissa : Nat) (exponent : Int) (narrow : Bool) : Rounding :=
  let scale := Nat.pow 2 exponent.toNat
  { numerator := 4 * mantissa * scale
    lower := (4 * mantissa - if narrow then 1 else 2) * scale
    upper := (4 * mantissa + 2) * scale
    denominator := 4 * Nat.pow 2 (-exponent).toNat
    closed := mantissa % 2 = 0 }

def Rounding.holds (r : Rounding) (digits : Nat) (place : Int) : Bool :=
  let value := digits * Nat.pow 10 place.toNat * r.denominator
  let scale := Nat.pow 10 (-place).toNat
  if r.closed then r.lower * scale ≤ value && value ≤ r.upper * scale
  else r.lower * scale < value && value < r.upper * scale

def Rounding.floorAt (r : Rounding) (place : Int) : Nat :=
  r.numerator * Nat.pow 10 (-place).toNat / (r.denominator * Nat.pow 10 place.toNat)

def Rounding.lowerNearer (r : Rounding) (below : Nat) (place : Int) : Bool :=
  2 * r.numerator * Nat.pow 10 (-place).toNat ≤
    (2 * below + 1) * Nat.pow 10 place.toNat * r.denominator

/-- The decimal of the grid that reads back as the value, if there is one. -/
def Rounding.on? (r : Rounding) (place : Int) : Option Nat :=
  let below := r.floorAt place
  match r.holds below place, r.holds (below + 1) place with
  | true, true => some (if r.lowerNearer below place then below else below + 1)
  | true, false => some below
  | false, true => some (below + 1)
  | false, false => none

/-- The first of the finer and finer grids that has a decimal for the value. -/
def Rounding.search (r : Rounding) : Nat → Int → Nat × Int
  | 0, place => (r.floorAt place, place)
  | steps + 1, place =>
    match r.on? place with
    | some digits => (digits, place)
    | none => r.search steps (place - 1)

def coarsestPlace : Int := 309

/-- Steps from the coarsest grid to one that holds every double. -/
def gridSteps : Nat := 309 + 1075

/-- The shortest decimal `digits * 10 ^ place` of a positive binary fraction. -/
def Rounding.shortest (r : Rounding) : Nat × Int :=
  r.search gridSteps coarsestPlace

/-- A decimal written without an exponent, always with a point. -/
def positional (digits : Nat) (place : Int) : List Char :=
  let text := Nat.toDigits 10 digits
  if 0 ≤ place then text ++ List.replicate place.toNat '0' ++ ['.', '0']
  else
    let places := (-place).toNat
    let padded := List.replicate (places + 1 - text.length) '0' ++ text
    padded.take (padded.length - places) ++ '.' :: padded.drop (padded.length - places)

/-- The text of a double given by its bits; what is not finite has a name. -/
def textOfBits (bits : UInt64) : String :=
  let mantissa := bits.toNat % Nat.pow 2 52
  let exponent : Nat := bits.toNat / Nat.pow 2 52 % Nat.pow 2 11
  let negative := bits.toNat / Nat.pow 2 63 = 1
  let magnitude :=
    if exponent = 2047 then if mantissa = 0 then "inf".toList else "NaN".toList
    else if mantissa = 0 ∧ exponent = 0 then ['0', '.', '0']
    else
      let r :=
        if exponent = 0 then Rounding.ofBinary mantissa (-1074) false
        else Rounding.ofBinary (Nat.pow 2 52 + mantissa) ((exponent : Int) - 1075)
          (mantissa = 0 && exponent ≠ 1)
      let shortest := r.shortest
      positional shortest.1 shortest.2
  String.ofList (if negative then '-' :: magnitude else magnitude)

end TtyFrame.Decimal
