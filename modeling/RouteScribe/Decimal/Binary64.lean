/-
Module: RouteScribe.Decimal.Binary64
Layer: Decimal
Purpose: Floating-point numbers of 64 bits, held as the numbers they are: a significand of at most 53 bits
  times a power of two. Every operation is the exact one followed by one rounding to the nearest
  number, a tie going to the even significand.
Imports: none
Trusted boundary: human-reviewed spec
Main exports: Binary64, Binary64.nearest, Binary64.ofNat, Binary64.ofDecimal, Binary64.mul, Binary64.div
Open obligations: none
-/

namespace RouteScribe

/-- A floating-point number of 64 bits. A finite one is `significand * 2 ^ exponent`, with the
    significand below `2 ^ 53` and the exponent at least -1074. It is kept in its canonical form: the
    exponent is as small as these bounds allow. -/
inductive Binary64 where
  | finite (negative : Bool) (significand : Nat) (exponent : Int)
  | infinite (negative : Bool)
  | nan
deriving DecidableEq, Repr, Inhabited

namespace Binary64

/-- The least exponent of a finite number. -/
def leastExponent : Int := -1074

/-- The greatest exponent of a finite number. -/
def greatestExponent : Int := 971

/-- Zero of either sign. -/
def zero (negative : Bool) : Binary64 := .finite negative 0 leastExponent

/-- The natural number nearest to `num / den`, a tie going to the even one. -/
def roundHalfEven (num den : Nat) : Nat :=
  let q := num / den
  let r := num % den
  if 2 * r < den then q
  else if den < 2 * r then q + 1
  else if q % 2 = 0 then q else q + 1

/-- The fraction `num / den` divided by `2 ^ e`, as a fraction. -/
def scaleDown (num den : Nat) (e : Int) : Nat × Nat :=
  if 0 ≤ e then (num, den * Nat.pow 2 e.toNat) else (num * Nat.pow 2 (-e).toNat, den)

/-- The exponent at which the integral part of the fraction `num / den`, neither part zero, has 53
    binary digits. -/
def leadingExponent (num den : Nat) : Int :=
  let guess : Int := (num.log2 : Int) - (den.log2 : Int) - 52
  let (n, d) := scaleDown num den guess
  if n / d < Nat.pow 2 52 then guess - 1 else guess

/-- The number nearest to `num / den`, the denominator not zero. A fraction beyond the greatest finite
    number by half a step or more is infinite. -/
def nearest (negative : Bool) (num den : Nat) : Binary64 :=
  if num = 0 then zero negative
  else
    let e := max (leadingExponent num den) leastExponent
    let (n, d) := scaleDown num den e
    let q := roundHalfEven n d
    if q = 0 then zero negative
    else
      let (significand, exponent) := if q = Nat.pow 2 53 then (Nat.pow 2 52, e + 1) else (q, e)
      if greatestExponent < exponent then .infinite negative
      else .finite negative significand exponent

/-- The number nearest to a natural number. -/
def ofNat (n : Nat) : Binary64 := nearest false n 1

/-- The number nearest to an integer. -/
def ofInt (i : Int) : Binary64 := nearest (i < 0) i.natAbs 1

/-- The count of decimal digits of a natural number. -/
def decimalLength (n : Nat) : Nat := (Nat.toDigits 10 n).length

/-- The number nearest to `digits * 10 ^ exponent`. A value far outside the range of the finite numbers
    is decided by its count of digits alone. -/
def ofDecimal (negative : Bool) (digits : Nat) (exponent : Int) : Binary64 :=
  let magnitude : Int := decimalLength digits + exponent
  if digits = 0 then zero negative
  else if magnitude < -400 then zero negative
  else if 400 < magnitude then .infinite negative
  else if 0 ≤ exponent then nearest negative (digits * Nat.pow 10 exponent.toNat) 1
  else nearest negative digits (Nat.pow 10 (-exponent).toNat)

/-- The fraction that a significand and an exponent stand for. -/
def fraction (significand : Nat) (exponent : Int) : Nat × Nat :=
  if 0 ≤ exponent then (significand * Nat.pow 2 exponent.toNat, 1)
  else (significand, Nat.pow 2 (-exponent).toNat)

/-- The product of two finite numbers, rounded once. -/
def mul : Binary64 → Binary64 → Binary64
  | .finite s m e, .finite s' m' e' =>
    let (n, d) := fraction m e
    let (n', d') := fraction m' e'
    nearest (s != s') (n * n') (d * d')
  | _, _ => .nan

/-- The quotient of two finite numbers, the second one not zero, rounded once. -/
def div : Binary64 → Binary64 → Binary64
  | .finite s m e, .finite s' m' e' =>
    let (n, d) := fraction m e
    let (n', d') := fraction m' e'
    nearest (s != s') (n * d') (d * n')
  | _, _ => .nan

/-- The number with the other sign. -/
def neg : Binary64 → Binary64
  | .finite s m e => .finite (!s) m e
  | .infinite s => .infinite (!s)
  | .nan => .nan

/-- Whether the number is zero. -/
def isZero : Binary64 → Bool
  | .finite _ m _ => m == 0
  | _ => false

/-- Whether the number is infinite. -/
def isInfinite : Binary64 → Bool
  | .infinite _ => true
  | _ => false

end Binary64

end RouteScribe
