import Retry.Binary64.Basic

/-!
# Arithmetic of double precision numbers

Sums, products and quotients of counts of units are exact; one rounding follows. Powers are taken
by repeated squaring from the lowest bit of the exponent, so their rounding errors are those of
the products on that way.
-/

namespace Retry.Binary64

open scoped NatPower

/-- The sum. Opposite infinities have no sum; an exact zero is negative only if both numbers are. -/
def add : Binary64 → Binary64 → Binary64
  | .nan, _ => .nan
  | _, .nan => .nan
  | .infinity s, .infinity t => if s = t then .infinity s else .nan
  | .infinity s, .finite .. => .infinity s
  | .finite .., .infinity t => .infinity t
  | .finite s a _, .finite t b _ =>
    if s = t then ofQuotient s (a + b) 1
    else if a < b then ofQuotient t (b - a) 1
    else ofQuotient (s && a != b) (a - b) 1

/-- The product. Zero times an infinite number is undefined. -/
def mul : Binary64 → Binary64 → Binary64
  | .nan, _ => .nan
  | _, .nan => .nan
  | .infinity s, .infinity t => .infinity (s != t)
  | .infinity s, .finite t b _ => if b = 0 then .nan else .infinity (s != t)
  | .finite s a _, .infinity t => if a = 0 then .nan else .infinity (s != t)
  | .finite s a _, .finite t b _ => ofQuotient (s != t) (a * b) unitsPerOne

/-- The quotient. Zero by zero and infinite by infinite are undefined. -/
def div : Binary64 → Binary64 → Binary64
  | .nan, _ => .nan
  | _, .nan => .nan
  | .infinity _, .infinity _ => .nan
  | .infinity s, .finite t _ _ => .infinity (s != t)
  | .finite s _ _, .infinity t => ofQuotient (s != t) 0 1
  | .finite s a _, .finite t b _ =>
    if b = 0 then (if a = 0 then .nan else .infinity (s != t))
    else ofQuotient (s != t) (a * unitsPerOne) b

/-- The number of the same magnitude and the other sign. -/
def neg : Binary64 → Binary64
  | .nan => .nan
  | .infinity s => .infinity (!s)
  | .finite s units representable => .finite (!s) units representable

instance : Add Binary64 := ⟨add⟩

instance : Mul Binary64 := ⟨mul⟩

instance : Div Binary64 := ⟨div⟩

instance : Neg Binary64 := ⟨neg⟩

/-- Multiplies `product` by the powers of `base` that the bits of `exponent` select, lowest bit
first, for at most `bits` bits. -/
def powBits : Nat → Binary64 → Binary64 → Nat → Binary64
  | 0, product, _, _ => product
  | bits + 1, product, base, exponent =>
    let product := if exponent % 2 = 1 then product * base else product
    if exponent / 2 = 0 then product
    else powBits bits product (base * base) (exponent / 2)

/-- The power by repeated squaring. Any number to the power zero is one. -/
def pow (base : Binary64) (exponent : Nat) : Binary64 :=
  powBits (exponent.log2 + 1) 1 base exponent

instance : HPow Binary64 Nat Binary64 := ⟨pow⟩

/-- How many exponents the interchange format can write. The last one marks the numbers that are
not finite. -/
def exponentCount : Nat := 2048

/-- How many significands the interchange format can write. The leading bit is not written. -/
def significandCount : Nat := 2 ^ (precision - 1)

/-- The number with the given interchange format: from the highest bit on a sign, an exponent and
a significand. -/
def ofBits (bits : UInt64) : Binary64 :=
  let negative := bits.toNat / (exponentCount * significandCount) = 1
  let exponent := bits.toNat / significandCount % exponentCount
  let significand := bits.toNat % significandCount
  if exponent = exponentCount - 1 then
    if significand = 0 then .infinity negative else .nan
  else if exponent = 0 then ofQuotient negative significand 1
  else ofQuotient negative ((significandCount + significand) * 2 ^ (exponent - 1)) 1

end Retry.Binary64
