/-!
# Binary floating point numbers

The numbers of the 64-bit binary format, held exactly: a finite one is `± significand * 2 ^
exponent` with the significand below `2 ^ 53` and the exponent between -1074 and 971, and as small
as it can be.

`Binary64.ofDecimal` reads a decimal as the nearest such number, with ties to the even significand.
-/

namespace SentenceGen

/-- A number of the 64-bit binary format. -/
inductive Binary64 where
  | finite (negative : Bool) (significand : Nat) (exponent : Int)
  | infinite (negative : Bool)
  | nan
  deriving DecidableEq, Repr

namespace Binary64

/-- The integer nearest to a quotient, the even one of two. -/
def roundDiv (num den : Nat) : Nat :=
  let q := num / den
  let twice := 2 * (num % den)
  if den < twice || (twice == den && q % 2 == 1) then q + 1 else q

/-- The quotient scaled by a power of two, as numerator and denominator. -/
def scale (num den : Nat) (power : Int) : Nat × Nat :=
  if 0 ≤ power then (num <<< power.toNat, den) else (num, den <<< (-power).toNat)

/-- The greatest power of two that is not above a positive quotient, as its exponent. -/
def floorLog2 (num den : Nat) : Int :=
  let e : Int := (num.log2 : Int) - den.log2
  let (n, d) := scale num den (-e)
  if d ≤ n then e else e - 1

/-- The number nearest to a positive quotient. -/
def ofQuotient (negative : Bool) (num den : Nat) : Binary64 :=
  let exponent := max (floorLog2 num den - 52) (-1074)
  let (n, d) := scale num den (-exponent)
  let significand := roundDiv n d
  let (significand, exponent) :=
    if significand = 1 <<< 53 then (1 <<< 52, exponent + 1) else (significand, exponent)
  if 971 < exponent then infinite negative else finite negative significand exponent

/-- Zero, with its sign. -/
def zero (negative : Bool) : Binary64 :=
  finite negative 0 (-1074)

/-- The number of decimal digits of a natural number. -/
def decimalSize (n : Nat) : Nat :=
  (Nat.toDigits 10 n).length

/-- The number nearest to `± digits * 10 ^ power`. Powers out of reach are not computed. -/
def ofDecimal (negative : Bool) (digits : Nat) (power : Int) : Binary64 :=
  if digits = 0 then zero negative
  else
    let size : Int := decimalSize digits + power
    if 310 < size then infinite negative
    else if size < -330 then zero negative
    else if 0 ≤ power then ofQuotient negative (digits * Nat.pow 10 power.toNat) 1
    else ofQuotient negative digits (Nat.pow 10 (-power).toNat)

/-- The number is below zero. -/
def isNegative : Binary64 → Bool
  | finite negative significand _ => negative && significand != 0
  | infinite negative => negative
  | nan => false

/-- The number is equal to zero. -/
def isZero : Binary64 → Bool
  | finite _ significand _ => significand == 0
  | _ => false

/-- A residue modulo the prime `2 ^ 61 - 1` that stands for the number: powers of two are residues
of powers of two, of which there are 61; the infinities have a residue of their own. What is no
number has none. -/
def residue? : Binary64 → Option Int
  | finite negative significand exponent =>
    let r : Int := (significand <<< (exponent.emod 61).toNat % (1 <<< 61 - 1) : Nat)
    some (if negative then -r else r)
  | infinite negative => some (if negative then -314159 else 314159)
  | nan => none

end Binary64

end SentenceGen
