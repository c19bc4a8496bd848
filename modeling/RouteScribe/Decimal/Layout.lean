/-
Module: RouteScribe.Decimal.Layout
Layer: Decimal
Purpose: How a floating-point number is written out with its shortest digits: which of two equally near ones are
  taken, which magnitudes are written positionally, whether an integral value keeps a zero behind the point,
  how an exponent is written, and the words for infinite numbers and for the value that is no number.
Imports: RouteScribe.Decimal.Shortest
Trusted boundary: human-reviewed spec
Main exports: Layout, Layout.write
Open obligations: none
-/
import RouteScribe.Decimal.Shortest

namespace RouteScribe

/-- The decisions of one written form of floating-point numbers. -/
structure Layout where
  /-- Which of two equally near shortest decimals is written. -/
  tie : Decimal.Tie
  /-- The least and the greatest decimal exponent that are written positionally; all when absent. -/
  positional : Option (Int × Int)
  /-- Whether a positional integral value ends in `.0`. -/
  pointZero : Bool
  /-- Whether a positive exponent carries a plus sign. -/
  plusSign : Bool
  infinite : String
  negativeInfinite : String
  notANumber : String

namespace Layout

/-- Whether a decimal exponent is written positionally. -/
def isPositional (l : Layout) (exponent : Int) : Bool :=
  match l.positional with
  | none => true
  | some (least, greatest) => least ≤ exponent && exponent ≤ greatest

/-- Digits with the decimal point in its place. -/
def writePositional (l : Layout) (d : Decimal) : List Char :=
  if d.exponent < 0 then
    '0' :: '.' :: (List.replicate (-d.exponent - 1).toNat '0' ++ d.digits)
  else
    let whole := d.exponent.toNat + 1
    if d.digits.length ≤ whole then
      d.digits ++ List.replicate (whole - d.digits.length) '0' ++
        (if l.pointZero then ['.', '0'] else [])
    else d.digits.take whole ++ '.' :: d.digits.drop whole

/-- Digits with one digit before the point and a power of ten behind them. -/
def writeExponential (l : Layout) (d : Decimal) : List Char :=
  let significand := match d.digits with
    | first :: second :: rest => first :: '.' :: second :: rest
    | digits => digits
  let sign := if d.exponent < 0 then ['-'] else if l.plusSign then ['+'] else []
  significand ++ 'e' :: sign ++ Nat.toDigits 10 d.exponent.natAbs

/-- The written form of a number. -/
def write (l : Layout) : Binary64 → String
  | .nan => l.notANumber
  | .infinite false => l.infinite
  | .infinite true => l.negativeInfinite
  | .finite negative significand exponent =>
    let d := Decimal.shortest l.tie significand exponent
    let body := if l.isPositional d.exponent then l.writePositional d else l.writeExponential d
    String.ofList (if negative then '-' :: body else body)

end Layout

end RouteScribe
