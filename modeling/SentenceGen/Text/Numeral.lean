import SentenceGen.Text.Cut
import SentenceGen.Text.Digit

/-!
# Integers as texts

An integer is typed as decimal digits of any script, with an optional sign in front, single low
lines between digits, and padding on both sides. No text of more than `maxDigits` digits is taken
for an integer, and no integer of more digits is written as a text.
-/

namespace SentenceGen.Text

/-- The largest number of digits of an integer that is read or written. -/
def maxDigits : Nat := 4300

/-! ### Reading -/

/-- What may surround an integer: the ASCII blanks, without the information separators, and every
blank beyond ASCII. -/
def isPadding (c : Char) : Bool :=
  isBlank c && !(0x1C ≤ c.toNat && c.toNat ≤ 0x1F)

/-- The digits of a numeral whose groups are separated by single low lines. -/
def numeralDigits? (s : List Char) : Option (List Nat) := do
  let groups ← (cut (· == '_') s).mapM (·.mapM digitValue?)
  if groups.any (·.isEmpty) then none else some groups.flatten

/-- The number that decimal digits write, most significant first. -/
def ofDigits (digits : List Nat) : Nat :=
  digits.foldl (10 * · + ·) 0

/-- A numeral without sign and padding. -/
def natural? (s : List Char) : Option Nat := do
  let digits ← numeralDigits? s
  if digits.length ≤ maxDigits then some (ofDigits digits) else none

/-- A numeral with an optional sign. -/
def signed? : List Char → Option Int
  | '-' :: s => (natural? s).map fun n => -(n : Int)
  | '+' :: s => (natural? s).map fun n => (n : Int)
  | s => (natural? s).map fun n => (n : Int)

/-- The integer that a text writes, with padding around it. -/
def integer? (s : String) : Option Int :=
  signed? ((s.toList.dropWhile isPadding).reverse.dropWhile isPadding).reverse

/-! ### Writing -/

/-- The integer has few enough digits to be written. -/
def isWritable (n : Int) : Bool :=
  (Nat.toDigits 10 n.natAbs).length ≤ maxDigits

/-- The text that writes an integer, unless it has too many digits. -/
def decimal? (n : Int) : Option String :=
  if isWritable n then some (toString n) else none

/-- What is said where an integer has too many digits to be written. -/
def tooManyDigits : String :=
  s!"Exceeds the limit ({maxDigits} digits) for integer string conversion; " ++
    "use sys.set_int_max_str_digits() to increase the limit"

end SentenceGen.Text
