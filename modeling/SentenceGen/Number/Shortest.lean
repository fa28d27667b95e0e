import SentenceGen.Number.Binary64

/-!
# Shortest decimals

A number is written with the fewest decimal digits that read back to it and, of those, the ones
nearest to it, with ties to the even last digit. The digits are found on the decimal grids of one,
two, … seventeen digits: the first grid on which one of the two neighbours of the number reads back
wins.

The layout is positional when the leading digit stands between the fourth place behind the point and
the sixteenth in front of it, with at least one digit behind the point, and otherwise has a signed
exponent of at least two digits.
-/

namespace SentenceGen

/-- The decimal `digits * 10 ^ power`. -/
structure Decimal where
  digits : Nat
  power : Int
  deriving DecidableEq, Repr

namespace Binary64

/-- A positive number as a quotient. -/
def quotient (significand : Nat) (exponent : Int) : Nat × Nat :=
  scale significand 1 exponent

/-- The neighbours of the quotient `num / den` among the multiples of `10 ^ power`, the nearer one
first, and the even one of two that are equally near. -/
def neighbours (num den : Nat) (power : Int) : List Decimal :=
  let (n, d) :=
    if 0 ≤ power then (num, den * Nat.pow 10 power.toNat)
    else (num * Nat.pow 10 (-power).toNat, den)
  let low := n / d
  let twice := 2 * (n % d)
  if twice < d || (twice == d && low % 2 == 0) then [⟨low, power⟩, ⟨low + 1, power⟩]
  else [⟨low + 1, power⟩, ⟨low, power⟩]

/-- The least power of ten above a positive quotient, from an estimate that is at most one too
large. -/
def decimalScale (num den : Nat) : Int :=
  let estimate : Int := (decimalSize num : Int) - decimalSize den + 1
  let below (power : Int) : Bool :=
    if 0 ≤ power then num < den * Nat.pow 10 power.toNat else num * Nat.pow 10 (-power).toNat < den
  if below (estimate - 1) then estimate - 1 else estimate

/-- The shortest decimal of a positive finite number. -/
def shortest (significand : Nat) (exponent : Int) : Decimal :=
  let (num, den) := quotient significand exponent
  let top := decimalScale num den
  let candidates := (List.range 17).flatMap fun size => neighbours num den (top - (size + 1 : Nat))
  (candidates.find? fun d => ofDecimal false d.digits d.power == finite false significand exponent)
    |>.getD ⟨num, 0⟩

/-- The digits of a decimal without the zeros at their end, and the place of the leading digit: 0
for the first in front of the point. -/
def significant (d : Decimal) : List Char × Int :=
  let digits := Nat.toDigits 10 d.digits
  ((digits.reverse.dropWhile (· == '0')).reverse, (digits.length : Int) - 1 + d.power)

/-- Digits whose leading one stands at `place`, without an exponent. -/
def positional (digits : List Char) (place : Int) : List Char :=
  if place < 0 then '0' :: '.' :: (List.replicate (-place - 1).toNat '0' ++ digits)
  else
    let whole := place.toNat + 1
    let fraction := digits.drop whole
    digits.take whole ++ List.replicate (whole - digits.length) '0' ++
      '.' :: (if fraction.isEmpty then ['0'] else fraction)

/-- Digits whose leading one stands in front of the point, with an exponent. -/
def scientific (digits : List Char) (place : Int) : List Char :=
  let fraction := digits.drop 1
  let exponent := Nat.toDigits 10 place.natAbs
  digits.take 1 ++ (if fraction.isEmpty then [] else '.' :: fraction) ++
    'e' :: (if place < 0 then '-' else '+') ::
      (if exponent.length < 2 then ['0'] else []) ++ exponent

/-- The text of a number. -/
def text : Binary64 → String
  | finite negative significand exponent =>
    let sign := if negative then ['-'] else []
    let body :=
      if significand = 0 then ['0', '.', '0']
      else
        let (digits, place) := significant (shortest significand exponent)
        if -4 ≤ place ∧ place < 16 then positional digits place else scientific digits place
    String.ofList (sign ++ body)
  | infinite negative => if negative then "-inf" else "inf"
  | nan => "nan"

end Binary64

end SentenceGen
