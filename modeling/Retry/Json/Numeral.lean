import Retry.Json.Reader

/-!
# Numbers of JSON texts

The digits of a number build a significand of at most 64 bits. Integer digits that do not fit count
in the exponent, fraction digits that do not fit are left out. Unless the number is an integer of
64 bits, its value is the significand times or by a power of ten, both in double precision, so it
is rounded more than once.
-/

namespace Retry.Json

def digitValue (c : Char) : Nat := c.toNat - '0'.toNat

/-- Appends digits to a number as long as the result is below `bound`; the digits that are left
over come with it. -/
def absorb (bound : Nat) (number : Nat) : List Char → Nat × List Char
  | [] => (number, [])
  | digit :: rest =>
    let next := number * 10 + digitValue digit
    if next < bound then absorb bound next rest else (number, digit :: rest)

open scoped NatPower

def powerOfTen (exponent : Nat) : Binary64 := Binary64.ofNat (10 ^ exponent)

/-- Multiplies a number by `10 ^ exponent`. Division goes in steps of at most `10^308`, at most
`steps` of them. No value means that the product is too large. -/
def scaled : Nat → Binary64 → Int → Option Binary64
  | 0, number, _ => some number
  | steps + 1, number, exponent =>
    if exponent.natAbs ≤ 308 then
      if 0 ≤ exponent then
        let product := number * powerOfTen exponent.natAbs
        if product.isFinite then some product else none
      else some (number / powerOfTen exponent.natAbs)
    else if number.equals 0 then some number
    else if 0 ≤ exponent then none
    else scaled steps (number / powerOfTen 308) (exponent + 308)

def floatOf (negative : Bool) (significand : Nat) (exponent : Int) : Option Binary64 :=
  let magnitude := scaled (exponent.natAbs / 308 + 1) (Binary64.ofNat significand) exponent
  magnitude.map fun number => if negative then -number else number

/-- The value of an integer. A negative zero and integers below `-2^63` are of double precision. -/
def integerOf (negative : Bool) (significand : Nat) : Number :=
  if !negative then .integer significand
  else if significand = 0 ∨ UInt64.size / 2 < significand then .float (-Binary64.ofNat significand)
  else .integer (-significand)

namespace Reader

def digits : Reader (List Char) := fun rest =>
  .ok (rest.takeWhile Char.isDigit, rest.dropWhile Char.isDigit)

/-- The number of double precision with the given parts. -/
def float (negative : Bool) (significand : Nat) (exponent : Int) : Reader Number :=
  match floatOf negative significand exponent with
  | some number => pure (.float number)
  | none => fail .numberOutOfRange

/-- The exponent bound of 32 bits. -/
def exponentBound : Nat := 2_147_483_648

/-- The largest and the least exponent, between which sums stop. -/
def clampExponent (exponent : Int) : Int :=
  max (-exponentBound) (min (exponentBound - 1) exponent)

/-- Reads an exponent from its mark on, and ends the number. An exponent beyond 32 bits makes a
number too large or zero. -/
def exponentPart (negative : Bool) (significand : Nat) (exponent : Int) : Reader Number := do
  skip
  let sign ← peek
  if sign = some '+' ∨ sign = some '-' then skip
  let down := sign = some '-'
  match ← peek with
  | none => fail .endOfValue
  | some c =>
    if !c.isDigit then failAhead .invalidNumber
    else
      let written ← digits
      let (value, left) := absorb exponentBound 0 written
      match left with
      | [] =>
        let total := if down then exponent - value else exponent + value
        float negative significand (clampExponent total)
      | _ :: unread =>
        if significand ≠ 0 ∧ !down then
          fun rest =>
            .error
              { cause := .numberOutOfRange, rest := unread ++ rest, ahead := 0, placed := true }
        else float negative 0 0

/-- Reads a fraction from its point on, and ends the number. -/
def fractionPart (negative : Bool) (significand : Nat) (exponent : Int) : Reader Number := do
  skip
  let written ← digits
  if written.isEmpty then
    match ← peek with
    | none => failAhead .endOfValue
    | some _ => failAhead .invalidNumber
  else
    let (significand, left) := absorb UInt64.size significand written
    let exponent := exponent - (written.length - left.length)
    match ← peek with
    | some 'e' => exponentPart negative significand exponent
    | some 'E' => exponentPart negative significand exponent
    | _ => float negative significand exponent

def unsigned (negative : Bool) : Reader Number := do
  match ← peek with
  | none => fail .endOfValue
  | some c =>
    if !c.isDigit then failAhead .invalidNumber
    else
      let written ← digits
      if c = '0' ∧ 1 < written.length then
        fun rest =>
          .error
            { cause := .invalidNumber, rest := written.drop 1 ++ rest, ahead := 1,
              placed := true }
      else
        let (significand, left) := absorb UInt64.size 0 written
        match ← peek with
        | some '.' => fractionPart negative significand left.length
        | some 'e' => exponentPart negative significand left.length
        | some 'E' => exponentPart negative significand left.length
        | _ =>
          if left.isEmpty then return integerOf negative significand
          else float negative significand left.length

/-- Reads a number that begins with a digit or a minus sign. -/
def number : Reader Number := do
  if (← peek) = some '-' then
    skip
    unsigned true
  else unsigned false

end Reader

end Retry.Json
