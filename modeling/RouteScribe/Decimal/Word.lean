/-
Module: RouteScribe.Decimal.Word
Layer: Decimal
Purpose: Which integers fit a word of 64 bits, or two of them.
Imports: none
Trusted boundary: human-reviewed spec
Main exports: Word.isSigned, Word.isWord, Word.isDoubleWord
Open obligations: none
-/

namespace RouteScribe.Word

/-- Whether an integer fits a word with a sign. -/
def isSigned (i : Int) : Bool := -9223372036854775808 ≤ i && i ≤ 9223372036854775807

/-- Whether an integer fits a word with or without a sign. -/
def isWord (i : Int) : Bool := -9223372036854775808 ≤ i && i ≤ 18446744073709551615

/-- Whether an integer fits two words with or without a sign. -/
def isDoubleWord (i : Int) : Bool :=
  -170141183460469231731687303715884105728 ≤ i && i ≤ 340282366920938463463374607431768211455

end RouteScribe.Word
