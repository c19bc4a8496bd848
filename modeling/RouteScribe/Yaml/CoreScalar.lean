/-
Module: RouteScribe.Yaml.CoreScalar
Layer: Yaml
Purpose: What scalars stand for. A plain scalar is the null value, a truth value, an integer or a floating-point
  number if it is written like one, and a text otherwise. A number of several digits the first of which is
  zero is a text. Some tags demand one of these values; a scalar that is not plain is a text.
Imports: RouteScribe.Decimal.Binary64, RouteScribe.Decimal.Word, RouteScribe.Yaml.Node
Trusted boundary: human-reviewed spec
Main exports: Core, isNullWord, boolOfWord?, Core.ofPlain, Core.ofScalar
Open obligations: none
-/
import RouteScribe.Decimal.Binary64
import RouteScribe.Decimal.Word
import RouteScribe.Yaml.Node

namespace RouteScribe.Yaml

/-- What a scalar stands for. -/
inductive Core where
  | null
  | bool (value : Bool)
  | int (value : Int)
  | float (value : Binary64)
  | text (value : String)
deriving DecidableEq, Repr

/-- Whether a word is written like the null value. -/
def isNullWord (s : String) : Bool := ["null", "Null", "NULL", "~"].contains s

/-- The truth value that is written like a word. -/
def boolOfWord? (s : String) : Option Bool :=
  if ["true", "True", "TRUE"].contains s then some true
  else if ["false", "False", "FALSE"].contains s then some false
  else none

/-!
### Numbers
-/

/-- The value of a letter or digit in a system whose digits are the first `base` of them. -/
def digitOf? (base : Nat) (c : Char) : Option Nat := (hexValue? c).filter (· < base)

/-- The number of a row of digits, at least one of them. -/
def natOfDigits? (base : Nat) (cs : List Char) : Option Nat :=
  if cs.isEmpty then none
  else cs.foldl (fun n c => do pure ((← n) * base + (← digitOf? base c))) (some 0)

/-- A text without the sign at its start. -/
def withoutSign : List Char → List Char
  | '+' :: cs => cs
  | '-' :: cs => cs
  | cs => cs

/-- Whether several digits, the first of which is zero, are all there is but a sign. -/
def isPadded (cs : List Char) : Bool :=
  match withoutSign cs with
  | '0' :: d :: rest => (d :: rest).all Char.isDigit
  | _ => false

/-- The natural number that is written with a letter for its system, or with decimal digits. -/
def magnitude? : List Char → Option Nat
  | '0' :: 'x' :: digits => natOfDigits? 16 digits
  | '0' :: 'o' :: digits => natOfDigits? 8 digits
  | '0' :: 'b' :: digits => natOfDigits? 2 digits
  | digits => natOfDigits? 10 digits

/-- The integer that is written. -/
def integer? (cs : List Char) : Option Int :=
  if isPadded cs then none
  else
    match cs with
    | '-' :: digits => (magnitude? digits).map fun n => -(n : Int)
    | '+' :: digits => (magnitude? digits).map Int.ofNat
    | digits => (magnitude? digits).map Int.ofNat

/-- The power of ten that is written with or without a sign. -/
def power? : List Char → Option Int
  | '-' :: digits => (natOfDigits? 10 digits).map fun n => -(n : Int)
  | '+' :: digits => (natOfDigits? 10 digits).map Int.ofNat
  | digits => (natOfDigits? 10 digits).map Int.ofNat

/-- The power of ten behind the digits of a number. -/
def exponentOf? : List Char → Option Int
  | [] => some 0
  | 'e' :: cs => power? cs
  | 'E' :: cs => power? cs
  | _ => none

/-- The floating-point number that is written with decimal digits, a point and a power of ten. -/
def decimal? (negative : Bool) (cs : List Char) : Option Binary64 :=
  let whole := cs.takeWhile Char.isDigit
  let rest := cs.drop whole.length
  let fraction := match rest with
    | '.' :: rest => rest.takeWhile Char.isDigit
    | _ => []
  let rest := match rest with
    | '.' :: rest => rest.drop fraction.length
    | rest => rest
  do
    let exponent ← exponentOf? rest
    let digits ← natOfDigits? 10 (whole ++ fraction)
    let value := Binary64.ofDecimal negative digits (exponent - fraction.length)
    if value.isInfinite then none else some value

/-- The floating-point number that is written. -/
def float? (s : String) : Option Binary64 :=
  if [".inf", ".Inf", ".INF", "+.inf", "+.Inf", "+.INF"].contains s then some (.infinite false)
  else if ["-.inf", "-.Inf", "-.INF"].contains s then some (.infinite true)
  else if [".nan", ".NaN", ".NAN"].contains s then some .nan
  else
    match s.toList with
    | '-' :: cs => decimal? true cs
    | '+' :: cs => decimal? false cs
    | cs => decimal? false cs

/-- The number that is an integer if it fits a word. An integer that fits only two words is refused, and a
    greater one is a floating-point number, if it is written like one. -/
def integerOrNone (s : String) : Except Fault (Option Core) :=
  match integer? s.toList with
  | none => .ok none
  | some i =>
    if Word.isWord i then .ok (some (.int i))
    else if Word.isDoubleWord i then .error .wrongShape
    else .ok none

/-!
### Scalars
-/

/-- What a plain scalar stands for. -/
def Core.ofPlain (s : String) : Except Fault Core :=
  if s.isEmpty || isNullWord s then .ok .null
  else
    match boolOfWord? s with
    | some b => .ok (.bool b)
    | none =>
      match integerOrNone s with
      | .error why => .error why
      | .ok (some value) => .ok value
      | .ok none =>
        if isPadded s.toList then .ok (.text s) else .ok ((float? s).elim (.text s) Core.float)

/-- The value that a tag demands, or a refusal. -/
def demand (value : Option Core) : Except Fault Core :=
  match value with
  | some value => .ok value
  | none => .error .wrongShape

/-- What a scalar stands for. A tag of the document's own demands nothing; with any other tag that is not
    a standard one, and without being plain, it is a text. -/
def Core.ofScalar (tag : Option Tag) (style : Style) (s : String) : Except Fault Core :=
  match tag with
  | none => if style = .plain then Core.ofPlain s else .ok (.text s)
  | some tag =>
    if tag = Tag.standard "bool" then demand ((boolOfWord? s).map Core.bool)
    else if tag = Tag.standard "int" then (integerOrNone s).bind demand
    else if tag = Tag.standard "float" then demand ((float? s).map Core.float)
    else if tag = Tag.standard "null" then demand (if isNullWord s then some .null else none)
    else if tag.isOwn ∧ style = .plain then Core.ofPlain s
    else .ok (.text s)

end RouteScribe.Yaml
