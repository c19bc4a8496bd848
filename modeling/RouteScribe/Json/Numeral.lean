/-
Module: RouteScribe.Json.Numeral
Layer: Json
Purpose: Numbers in a JSON text. A numeral without fraction and exponent that fits 64 bits is an integer. Any
  other one is a floating-point number: the digits are gathered into a significand of 64 bits, digits
  beyond it only count as places, and the significand is multiplied with or divided by a power of ten,
  each step being rounded. A number beyond the greatest finite one is refused.
Imports: RouteScribe.Decimal.Binary64
Trusted boundary: human-reviewed spec
Main exports: Break, Number, Numeral, Numeral.scan, Numeral.width, Numeral.value
Open obligations: none
-/
import RouteScribe.Decimal.Binary64

namespace RouteScribe.Json

/-- Why a text is no JSON: it ends too early, or something stands where it must not. -/
inductive Break where
  | unfinished
  | malformed
deriving DecidableEq, Repr

/-- A number. -/
inductive Number where
  | int (value : Int)
  | float (value : Binary64)
deriving DecidableEq, Repr

/-- The power of ten of a numeral. -/
structure Exponent where
  sign : Option Char
  digits : List Char
deriving DecidableEq, Repr

/-- A number as it is written. -/
structure Numeral where
  negative : Bool
  whole : List Char
  /-- The digits behind the point; there is no point when there are none. -/
  fraction : List Char
  exponent : Option Exponent
deriving DecidableEq, Repr

/-- What is wrong where a digit is missing. -/
def digitMissing : List Char → Break
  | [] => .unfinished
  | _ :: _ => .malformed

/-- The digits behind a point, if the text goes on with one. -/
def scanFraction : List Char → Except Break (List Char)
  | '.' :: cs =>
    match cs.takeWhile Char.isDigit with
    | [] => .error (digitMissing cs)
    | digits => .ok digits
  | _ => .ok []

/-- The sign at the start of an exponent. -/
def scanSign : List Char → Option Char
  | '+' :: _ => some '+'
  | '-' :: _ => some '-'
  | _ => none

/-- The exponent, if the text goes on with one. -/
def scanExponent : List Char → Except Break (Option Exponent)
  | c :: cs =>
    if c = 'e' ∨ c = 'E' then
      let sign := scanSign cs
      let cs := cs.drop sign.toList.length
      match cs.takeWhile Char.isDigit with
      | [] => .error (digitMissing cs)
      | digits => .ok (some ⟨sign, digits⟩)
    else .ok none
  | [] => .ok none

/-- The number of characters of a fraction with its point. -/
def fractionWidth (digits : List Char) : Nat :=
  if digits.isEmpty then 0 else digits.length + 1

namespace Exponent

/-- The number of characters of an exponent with its letter. -/
def width (e : Exponent) : Nat := e.sign.toList.length + e.digits.length + 1

end Exponent

namespace Numeral

/-- The number of characters of a numeral, without its sign. -/
def width (n : Numeral) : Nat :=
  n.whole.length + fractionWidth n.fraction + (n.exponent.map Exponent.width).getD 0

/-- The digits of the whole part: a zero stands alone. -/
def scanWhole (cs : List Char) : Except Break (List Char) :=
  match cs with
  | '0' :: c :: _ => if c.isDigit then .error .malformed else .ok ['0']
  | _ =>
    match cs.takeWhile Char.isDigit with
    | [] => .error (digitMissing cs)
    | digits => .ok digits

/-- The numeral at the start of a text that stands behind its sign. -/
def scan (negative : Bool) (cs : List Char) : Except Break Numeral := do
  let whole ← scanWhole cs
  let cs := cs.drop whole.length
  let fraction ← scanFraction cs
  let cs := cs.drop (fractionWidth fraction)
  let exponent ← scanExponent cs
  pure { negative, whole, fraction, exponent }

/-- The value of a decimal digit. -/
def digitValue (c : Char) : Nat := c.toNat - '0'.toNat

/-- The value of a row of decimal digits. -/
def digitsValue (digits : List Char) : Nat := digits.foldl (fun n c => n * 10 + digitValue c) 0

/-- Append digits to a significand as long as it stays below `2 ^ 64`, and the number of digits that are
    left over from the first one that would carry it beyond. -/
def gather (significand : Nat) : List Char → Nat × Nat
  | [] => (significand, 0)
  | c :: cs =>
    let next := significand * 10 + digitValue c
    if next < Nat.pow 2 64 then gather next cs else (significand, cs.length + 1)

/-- The greatest power of ten that is taken in one step. -/
def greatestPower : Nat := 308

/-- A power of ten, rounded. -/
def powerOfTen (n : Nat) : Binary64 := .ofNat (Nat.pow 10 n)

/-- A number divided by a power of ten, in steps of at most the greatest power. Zero stays as it is. -/
def divideByPower (f : Binary64) (n : Nat) : Binary64 :=
  if n ≤ greatestPower then f.div (powerOfTen n)
  else if f.isZero then f
  else divideByPower (f.div (powerOfTen greatestPower)) (n - greatestPower)
termination_by n
decreasing_by
  have : greatestPower = 308 := rfl
  omega

/-- The value of a significand times a power of ten. -/
def scaled (significand : Nat) (exponent : Int) : Except Break Binary64 :=
  let f := Binary64.ofNat significand
  if exponent < 0 then .ok (divideByPower f (-exponent).toNat)
  else if exponent.toNat ≤ greatestPower then
    let product := f.mul (powerOfTen exponent.toNat)
    if product.isInfinite then .error .malformed else .ok product
  else if f.isZero then .ok f
  else .error .malformed

/-- The power of ten that an exponent stands for. -/
def exponentValue : Option Exponent → Int
  | none => 0
  | some e =>
    let n : Int := digitsValue e.digits
    if e.sign = some '-' then -n else n

/-- The integer of a significand with a sign. Zero with a sign, and an integer below the least one of 64
    bits, are floating-point numbers. -/
def integer (negative : Bool) (significand : Nat) : Number :=
  if !negative then .int significand
  else if significand = 0 ∨ Nat.pow 2 63 < significand then .float (Binary64.ofNat significand).neg
  else .int (-(significand : Int))

/-- The number that a numeral stands for. -/
def value (n : Numeral) : Except Break Number :=
  let (significand, extra) := gather 0 n.whole
  if extra = 0 ∧ n.fraction = [] ∧ n.exponent = none then .ok (integer n.negative significand)
  else
    let (significand, unread) := gather significand n.fraction
    let places : Int := extra - (n.fraction.length - unread)
    match scaled significand (places + exponentValue n.exponent) with
    | .error fault => .error fault
    | .ok f => .ok (.float (if n.negative then f.neg else f))

end Numeral

end RouteScribe.Json
