import SentenceGen.Text.Cut
import SentenceGen.Text.Hex
import SentenceGen.Toml.Value

/-!
# TOML scalars without quotes

Booleans, integers, floats, dates and times, each read from the run of characters that it consists
of. Digits may be grouped by single low lines. A decimal integer has no leading zero, and a date or
time has to exist.
-/

namespace SentenceGen.Toml

/-- A character that a scalar without quotes may hold. -/
def isScalarChar (c : Char) : Bool :=
  c.isAlphanum || c == '+' || c == '-' || c == '_' || c == '.' || c == ':'

/-- The digits of a grouped number in a base up to sixteen. -/
def groupedDigits? (base : Nat) (s : List Char) : Option (List Nat) := do
  let groups ← (Text.cut (· == '_') s).mapM (·.mapM Text.hexValue?)
  let digits := groups.flatten
  if groups.any (·.isEmpty) || digits.any (base ≤ ·) then none else some digits

/-- The number that digits write. -/
def numberOf (base : Nat) (digits : List Nat) : Nat :=
  digits.foldl (base * · + ·) 0

/-- Decimal digits without a leading zero, unless there is one digit only. -/
def plainDigits? (s : List Char) : Option (List Nat) := do
  let digits ← groupedDigits? 10 s
  if digits.length > 1 && digits.head? == some 0 then none else some digits

/-- The sign in front of a number, and whether it is a minus. -/
def cutSign : List Char → Bool × List Char
  | '-' :: s => (true, s)
  | '+' :: s => (false, s)
  | s => (false, s)

/-! ### Numbers -/

def integer? (s : List Char) : Option Int :=
  match s with
  | '0' :: 'x' :: digits => (groupedDigits? 16 digits).map fun d => (numberOf 16 d : Int)
  | '0' :: 'o' :: digits => (groupedDigits? 8 digits).map fun d => (numberOf 8 d : Int)
  | '0' :: 'b' :: digits => (groupedDigits? 2 digits).map fun d => (numberOf 2 d : Int)
  | s =>
    let (negative, digits) := cutSign s
    (plainDigits? digits).map fun d => if negative then -(numberOf 10 d : Int) else numberOf 10 d

/-- The exponent of a float. -/
def exponent? (s : List Char) : Option Int :=
  let (negative, digits) := cutSign s
  (groupedDigits? 10 digits).map fun d => if negative then -(numberOf 10 d : Int) else numberOf 10 d

/-- A float: an integer part, and a fraction or an exponent or both. -/
def float? (s : List Char) : Option Binary64 :=
  let (negative, body) := cutSign s
  if body == ['i', 'n', 'f'] then some (.infinite negative)
  else if body == ['n', 'a', 'n'] then some .nan
  else do
    let (mantissa, power) ← match Text.cut (fun c => c == 'e' || c == 'E') body with
      | [mantissa, power] => (exponent? power).map (mantissa, ·)
      | [mantissa] => if mantissa.contains '.' then some (mantissa, 0) else none
      | _ => none
    let (whole, fraction) ← match Text.cut (· == '.') mantissa with
      | [whole, fraction] => do pure (← plainDigits? whole, ← groupedDigits? 10 fraction)
      | [whole] => (plainDigits? whole).map (·, [])
      | _ => none
    return .ofDecimal negative (numberOf 10 (whole ++ fraction)) (power - fraction.length)

/-! ### Dates and times -/

/-- The number that a fixed count of decimal digits writes. -/
def fixed? (width : Nat) (s : List Char) : Option Nat :=
  if s.length == width && s.all Char.isDigit then
    some (numberOf 10 (s.map fun c => c.toNat - 0x30))
  else none

/-- The number of days of a month. -/
def daysOfMonth (year month : Nat) : Nat :=
  if month == 2 then
    if year % 4 == 0 && (year % 100 != 0 || year % 400 == 0) then 29 else 28
  else if month == 4 || month == 6 || month == 9 || month == 11 then 30
  else 31

/-- A day that exists, as `year-month-day`. -/
def isDate (s : List Char) : Bool :=
  match Text.cut (· == '-') s with
  | [year, month, day] =>
    match fixed? 4 year, fixed? 2 month, fixed? 2 day with
    | some y, some m, some d => 1 ≤ y && 1 ≤ m && m ≤ 12 && 1 ≤ d && d ≤ daysOfMonth y m
    | _, _, _ => false
  | _ => false

/-- Hours and minutes of a day. -/
def isHourMinute (hour minute : List Char) : Bool :=
  match fixed? 2 hour, fixed? 2 minute with
  | some h, some m => h < 24 && m < 60
  | _, _ => false

/-- A time of day with seconds and perhaps a fraction of a second. -/
def isTime (s : List Char) : Bool :=
  match Text.cut (· == ':') s with
  | [hour, minute, seconds] =>
    let whole := seconds.takeWhile (· != '.')
    let fraction := seconds.dropWhile (· != '.')
    isHourMinute hour minute && ((fixed? 2 whole).any (· < 60)) &&
      (fraction.isEmpty || (fraction.length > 1 && (fraction.drop 1).all Char.isDigit))
  | _ => false

/-- A time of day that may have an offset behind it. -/
def isTimeWithOffset (s : List Char) : Bool :=
  let time := s.takeWhile fun c => c != 'Z' && c != 'z' && c != '+' && c != '-'
  let offset := s.drop time.length
  isTime time &&
    match offset with
    | [] => true
    | ['Z'] => true
    | ['z'] => true
    | _ :: rest =>
      match Text.cut (· == ':') rest with
      | [hour, minute] => isHourMinute hour minute
      | _ => false

/-- A date, a time, or a date and a time with one character between them. -/
def isMoment (s : List Char) : Bool :=
  isDate s || isTime s ||
    (isDate (s.take 10) &&
      match s.drop 10 with
      | c :: time => (c == 'T' || c == 't' || c == ' ') && isTimeWithOffset time
      | [] => false)

/-! ### Scalars -/

/-- The value that a run of characters without quotes writes. -/
def scalar? (s : List Char) : Option Value :=
  if s == ['t', 'r', 'u', 'e'] then some (.flag true)
  else if s == ['f', 'a', 'l', 's', 'e'] then some (.flag false)
  else if isMoment s then some (.moment (String.ofList s))
  else match integer? s with
    | some n => some (.whole n)
    | none => (float? s).map .real

/-- Takes the run of characters of a scalar from the front of a text. A space belongs to it between
a date and a time. -/
def cutScalar (s : List Char) : List Char × List Char :=
  let first := s.takeWhile isScalarChar
  let rest := s.drop first.length
  match rest with
  | ' ' :: c :: _ =>
    if isDate first && c.isDigit then
      let second := (rest.drop 1).takeWhile isScalarChar
      (first ++ ' ' :: second, rest.drop (second.length + 1))
    else (first, rest)
  | _ => (first, rest)

end SentenceGen.Toml
