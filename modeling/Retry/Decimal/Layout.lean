import Retry.Binary64.Arithmetic
import Retry.Decimal.Shortest

/-!
# How a number is written

The digits of a number are those of its shortest decimal. A layout says what surrounds them:
where positional notation is used, how an exponent is marked, what is written for a number that
is not finite.
-/

namespace Retry

namespace Decimal

structure Layout where
  /-- Whether a leading digit of the given decimal exponent is written positionally. -/
  positional : Int → Bool
  /-- Whether a whole number is written with a fraction digit, as in `12.0`. -/
  wholeFraction : Bool
  /-- What stands before an exponent that is not negative. -/
  exponentSign : String
  /-- Which of two equally near shortest decimals is taken. -/
  tie : Tie
  undefined : String
  infinite : String

/-- Numbers inside sentences are written positionally, a whole number without a fraction. -/
def Layout.plain : Layout where
  positional _ := true
  wholeFraction := false
  exponentSign := ""
  tie := .up
  undefined := "NaN"
  infinite := "inf"

def digits (n : Nat) : List Char := Nat.toDigits 10 n

/-- A text of `count` zeros. -/
def zeros (count : Nat) : List Char := List.replicate count '0'

/-- Positional notation of digits whose first one has the decimal exponent `leading`. -/
def positionalText (layout : Layout) (digits : List Char) (leading : Int) : List Char :=
  let fraction := if layout.wholeFraction then ['.', '0'] else []
  if leading < 0 then '0' :: '.' :: zeros (-leading - 1).toNat ++ digits
  else
    let whole := leading.toNat + 1
    if digits.length ≤ whole then digits ++ zeros (whole - digits.length) ++ fraction
    else digits.take whole ++ '.' :: digits.drop whole

/-- Scientific notation of digits whose first one has the decimal exponent `leading`. -/
def scientificText (layout : Layout) (digits : List Char) (leading : Int) : List Char :=
  let fraction := if digits.length ≤ 1 then [] else '.' :: digits.drop 1
  let sign := if leading < 0 then ['-'] else layout.exponentSign.toList
  digits.take 1 ++ fraction ++ 'e' :: sign ++ Decimal.digits leading.natAbs

def magnitudeText (layout : Layout) (units : Nat) : List Char :=
  if units = 0 then positionalText layout ['0'] 0
  else
    let decimal := shortest layout.tie units
    let text := digits decimal.coefficient
    let leading := decimal.exponent + (text.length - 1)
    if layout.positional leading then positionalText layout text leading
    else scientificText layout text leading

end Decimal

open Decimal in
/-- The text of a number in a layout. A zero keeps its sign. -/
def Binary64.text (layout : Decimal.Layout) : Binary64 → String
  | .nan => layout.undefined
  | .infinity negative => (if negative then "-" else "") ++ layout.infinite
  | .finite negative units _ =>
    (if negative then "-" else "") ++ String.ofList (magnitudeText layout units)

end Retry
