/-
Module: RouteScribe.Decimal.Shortest
Layer: Decimal
Purpose: The fewest decimal digits that read back as a given floating-point number. The decimals that read
  back as a number form an interval around it. For one digit, two digits, and so on, the two
  neighbours of the number on the decimal grid are tried; the first grid with a neighbour inside the
  interval gives the digits, and of two such neighbours the nearer one is taken. Who asks for the digits
  says what happens at a tie.
Imports: RouteScribe.Decimal.Binary64
Trusted boundary: human-reviewed spec
Main exports: Decimal, Decimal.Tie, Decimal.shortest
Open obligations: none
-/
import RouteScribe.Decimal.Binary64

namespace RouteScribe

/-- A decimal in scientific form: the digits, the first one before the point, times `10 ^ exponent`. -/
structure Decimal where
  digits : List Char
  exponent : Int
deriving DecidableEq, Repr

namespace Decimal

/-- Which of two neighbours is taken that are equally near. -/
inductive Tie where
  | toEven
  | awayFromZero
deriving DecidableEq, Repr

/-- Whether the lower one of two equally near neighbours is taken, `count` being the lower one. -/
def Tie.takesLower (tie : Tie) (count : Nat) : Bool :=
  match tie with
  | .toEven => count % 2 == 0
  | .awayFromZero => false

/-- The position of the leading decimal digit of `significand * 2 ^ exponent`, the significand not zero:
    the greatest `e` with `10 ^ e` at most that number. A negative power of two is a negative power of
    ten times a positive power of five. -/
def leadingPosition (significand : Nat) (exponent : Int) : Int :=
  if 0 ≤ exponent then
    (Binary64.decimalLength (significand * Nat.pow 2 exponent.toNat) : Int) - 1
  else
    (Binary64.decimalLength (significand * Nat.pow 5 (-exponent).toNat) : Int) - 1 + exponent

/-- The interval of the decimals that read back as `significand * 2 ^ exponent`, in quarters of
    `2 ^ exponent`: half a step to each side, but a quarter of a step downwards at a power of two, where
    the steps below are half as long. -/
def readBackInterval (significand : Nat) (exponent : Int) : Nat × Nat :=
  let below := if significand = Nat.pow 2 52 ∧ Binary64.leastExponent < exponent then 1 else 2
  (4 * significand - below, 4 * significand + 2)

/-- The lengths of one decimal unit `10 ^ position` and of a quarter of `2 ^ exponent`, as multiples of
    one common length. -/
def commonUnits (position exponent : Int) : Nat × Nat :=
  let (ten, tenth) := if 0 ≤ position then (Nat.pow 10 position.toNat, 1)
    else (1, Nat.pow 10 (-position).toNat)
  let quarter := exponent - 2
  let (two, half) := if 0 ≤ quarter then (Nat.pow 2 quarter.toNat, 1)
    else (1, Nat.pow 2 (-quarter).toNat)
  (ten * half, two * tenth)

/-- The multiple of `10 ^ position` that reads back as the number and is nearest to it, if one does. -/
def gridPoint? (tie : Tie) (significand : Nat) (exponent position : Int) : Option Nat :=
  let m := significand
  let (unit, quarter) := commonUnits position exponent
  let value := 4 * m * quarter
  let (low, high) := readBackInterval m exponent
  let inside (c : Nat) : Bool :=
    if m % 2 = 0 then low * quarter ≤ c * unit && c * unit ≤ high * quarter
    else low * quarter < c * unit && c * unit < high * quarter
  let c := value / unit
  let below := value - c * unit
  let above := (c + 1) * unit - value
  match inside c, inside (c + 1) with
  | true, true =>
    if below < above || (below == above && tie.takesLower c) then some c else some (c + 1)
  | true, false => some c
  | false, true => some (c + 1)
  | false, false => none

/-- Digits without the zeros at their end; at least one digit is kept. -/
def withoutTrailingZeros (digits : List Char) : List Char :=
  match (digits.reverse.dropWhile (· == '0')).reverse with
  | [] => ['0']
  | kept => kept

/-- The decimal `count * 10 ^ position`. -/
def ofGrid (count : Nat) (position : Int) : Decimal :=
  let digits := Nat.toDigits 10 count
  ⟨withoutTrailingZeros digits, position + digits.length - 1⟩

/-- The shortest decimal that reads back as `significand * 2 ^ exponent`. Seventeen digits always
    suffice. -/
def shortest (tie : Tie) (significand : Nat) (exponent : Int) : Decimal :=
  if significand = 0 then ⟨['0'], 0⟩
  else
    let lead := leadingPosition significand exponent
    let attempt (n : Nat) : Option Decimal :=
      let position := lead - n
      (gridPoint? tie significand exponent position).map (ofGrid · position)
    ((List.range 17).findSome? attempt).getD ⟨['0'], 0⟩

end Decimal

end RouteScribe
