import SentenceGen.Json.Basic

/-!
# Reading JSON texts

`Json.parse?` reads what JSON allows for a value made of nulls, strings and arrays, in any layout:
blanks may stand between the tokens, and a string may hold every escape. Two escapes of UTF-16 units
that form a surrogate pair stand for one character, and half of a pair stands for none.
-/

namespace SentenceGen.Json

/-- A blank between tokens. -/
def isSpace (c : Char) : Bool :=
  c == ' ' || c == '\n' || c == '\r' || c == '\t'

/-- A text from its first character that is no blank. -/
def skipSpaces (s : List Char) : List Char :=
  s.dropWhile isSpace

/-! ### Strings -/

/-- The UTF-16 unit that four hexadecimal digits write, and the rest behind them. -/
def readUnit (s : List Char) : Option (Nat × List Char) :=
  if s.length < 4 then none else (Text.hexNumber? (s.take 4)).map (·, s.drop 4)

/-- The character that one or two escaped units write, of which the first one's digits come next. -/
def readUnits (s : List Char) : Option (Char × List Char) := do
  let (high, s) ← readUnit s
  if high < 0xD800 || 0xE000 ≤ high then return (Char.ofNat high, s)
  else if 0xDC00 ≤ high then none
  else match s with
    | '\x5c' :: 'u' :: s => do
      let (low, s) ← readUnit s
      if low < 0xDC00 || 0xE000 ≤ low then none
      else return (Char.ofNat (0x10000 + (high - 0xD800) * 0x400 + (low - 0xDC00)), s)
    | _ => none

/-- The character that an escape writes, of which the part behind the backslash comes next. -/
def readEscape : List Char → Option (Char × List Char)
  | '\x22' :: s => some ('\x22', s)
  | '\x5c' :: s => some ('\x5c', s)
  | '/' :: s => some ('/', s)
  | 'n' :: s => some ('\n', s)
  | 'r' :: s => some ('\r', s)
  | 't' :: s => some ('\t', s)
  | 'f' :: s => some ('\x0c', s)
  | 'b' :: s => some ('\x08', s)
  | 'u' :: s => readUnits s
  | _ => none

/-- The characters of a string up to its closing quote, and the rest behind it. -/
def readChars : (fuel : Nat) → List Char → Option (List Char × List Char)
  | 0, _ => none
  | _, [] => none
  | fuel + 1, c :: s =>
    if c == '\x22' then some ([], s)
    else if c == '\x5c' then do
      let (c, s) ← readEscape s
      let (cs, s) ← readChars fuel s
      return (c :: cs, s)
    else if c.toNat < 0x20 then none
    else do
      let (cs, s) ← readChars fuel s
      return (c :: cs, s)

/-! ### Values -/

mutual
/-- A value, and the rest behind it. -/
def readValue : (fuel : Nat) → List Char → Option (Json × List Char)
  | 0, _ => none
  | fuel + 1, s =>
    match skipSpaces s with
    | 'n' :: 'u' :: 'l' :: 'l' :: s => some (null, s)
    | '\x22' :: s => (readChars (s.length + 1) s).map fun (cs, s) => (text cs, s)
    | '[' :: s =>
      match skipSpaces s with
      | ']' :: s => some (list [], s)
      | _ => do
        let (item, s) ← readValue fuel s
        let (items, s) ← readItems fuel s
        return (list (item :: items), s)
    | _ => none

/-- The elements of an array behind its first one, up to the closing bracket, and the rest
behind it. -/
def readItems : (fuel : Nat) → List Char → Option (List Json × List Char)
  | 0, _ => none
  | fuel + 1, s =>
    match skipSpaces s with
    | ']' :: s => some ([], s)
    | ',' :: s => do
      let (item, s) ← readValue fuel s
      let (items, s) ← readItems fuel s
      return (item :: items, s)
    | _ => none
end

/-- The value that a text writes, with nothing but blanks around it. -/
def parse? (s : String) : Option Json :=
  match readValue (s.length + 1) s.toList with
  | some (v, rest) => if (skipSpaces rest).isEmpty then some v else none
  | none => none

end SentenceGen.Json
