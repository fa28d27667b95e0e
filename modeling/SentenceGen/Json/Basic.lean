import SentenceGen.Text.Hex

/-!
# JSON texts

The part of JSON that trees need: `null`, strings and arrays. A text is written in one of two
layouts, on a single line or with every element of an array on a line of its own, indented by four
spaces a level; an empty array is `[]` in both.

Strings are written in printable ASCII. The two characters with a meaning inside of a string and the
five controls that have a letter are escaped by a backslash, all others outside of U+0020 to U+007E
by the hexadecimal digits of their UTF-16 units.
-/

namespace SentenceGen

/-- A JSON value made of nulls, strings and arrays. -/
inductive Json where
  | null
  | text (s : List Char)
  | list (items : List Json)
  deriving Repr, Inhabited

namespace Json

mutual
/-- How many arrays are nested inside one another. -/
def nesting : Json → Nat
  | null => 0
  | text _ => 0
  | list items => nestingOfAll items + 1

/-- How many arrays are nested inside one another in several values. -/
def nestingOfAll : List Json → Nat
  | [] => 0
  | item :: items => max item.nesting (nestingOfAll items)
end

/-- One UTF-16 unit as an escape. -/
def escapeUnit (n : Nat) : List Char :=
  '\x5c' :: 'u' :: Text.hex 4 n

/-- A character as it stands in a string. -/
def escape (c : Char) : List Char :=
  if c == '\x22' || c == '\x5c' then ['\x5c', c]
  else if c == '\n' then ['\x5c', 'n']
  else if c == '\r' then ['\x5c', 'r']
  else if c == '\t' then ['\x5c', 't']
  else if c.toNat == 0x0C then ['\x5c', 'f']
  else if c.toNat == 0x08 then ['\x5c', 'b']
  else if 0x20 ≤ c.toNat && c.toNat ≤ 0x7E then [c]
  else if c.toNat < 0x10000 then escapeUnit c.toNat
  else
    let n := c.toNat - 0x10000
    escapeUnit (0xD800 + n / 0x400) ++ escapeUnit (0xDC00 + n % 0x400)

/-- A string between its quotes, in front of `rest`. -/
def writeString (s rest : List Char) : List Char :=
  '\x22' :: (s.flatMap escape ++ '\x22' :: rest)

/-- How the elements of an array are set. -/
inductive Layout where
  | compact
  | indented
  deriving DecidableEq, Repr

/-- The end of a line and the indentation of the next one. -/
def lineBreak (level : Nat) (rest : List Char) : List Char :=
  '\n' :: (List.replicate (4 * level) ' ' ++ rest)

/-- What stands between an opening bracket and the first element, one level further in. -/
def Layout.opening : Layout → (level : Nat) → List Char → List Char
  | .compact, _, rest => rest
  | .indented, level, rest => lineBreak (level + 1) rest

/-- What stands between two elements. -/
def Layout.between : Layout → (level : Nat) → List Char → List Char
  | .compact, _, rest => ',' :: ' ' :: rest
  | .indented, level, rest => ',' :: lineBreak (level + 1) rest

/-- What stands between the last element and the closing bracket. -/
def Layout.closing : Layout → (level : Nat) → List Char → List Char
  | .compact, _, rest => rest
  | .indented, level, rest => lineBreak level rest

mutual
/-- A value in front of `rest`, as it stands `level` arrays deep. -/
def writeBefore (layout : Layout) : (level : Nat) → Json → List Char → List Char
  | _, null, rest => 'n' :: 'u' :: 'l' :: 'l' :: rest
  | _, text s, rest => writeString s rest
  | _, list [], rest => '[' :: ']' :: rest
  | level, list (item :: items), rest =>
    '[' :: layout.opening level
      (writeBefore layout (level + 1) item (writeRest layout level items rest))

/-- The elements of an array after the first, and its closing bracket, in front of `rest`. -/
def writeRest (layout : Layout) : (level : Nat) → List Json → List Char → List Char
  | level, [], rest => layout.closing level (']' :: rest)
  | level, item :: items, rest =>
    layout.between level (writeBefore layout (level + 1) item (writeRest layout level items rest))
end

/-- The text of a value. -/
def write (layout : Layout) (v : Json) : String :=
  String.ofList (writeBefore layout 0 v [])

end Json

end SentenceGen
