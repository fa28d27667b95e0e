import SentenceGen.Text.Hex
import SentenceGen.Text.Printable

/-!
# Quoted texts

A text is quoted so that it can be told apart in a message. The quotation mark is the apostrophe,
unless the text holds an apostrophe and no double quote. The mark in use and the backslash are
written after a backslash, line feed, carriage return and tab by their letter, and every other
unprintable character by its code point in two, four or eight hexadecimal digits.

A list of texts is quoted in brackets, with a comma and a space between the texts.
-/

namespace SentenceGen.Text

/-- The mark around a quoted text: an apostrophe, or a double quote when the text holds an
apostrophe and no double quote. -/
def quotationMark (s : List Char) : Char :=
  if s.contains '\x27' && !s.contains '\x22' then '\x22' else '\x27'

/-- A character as it stands between the quotation marks `mark`. -/
def quoteChar (mark c : Char) : List Char :=
  if c == mark || c == '\x5c' then ['\x5c', c]
  else if c == '\n' then ['\x5c', 'n']
  else if c == '\r' then ['\x5c', 'r']
  else if c == '\t' then ['\x5c', 't']
  else if isPrintable c then [c]
  else if c.toNat < 0x100 then '\x5c' :: 'x' :: hex 2 c.toNat
  else if c.toNat < 0x10000 then '\x5c' :: 'u' :: hex 4 c.toNat
  else '\x5c' :: 'U' :: hex 8 c.toNat

/-- A text between quotation marks. -/
def quoted (s : List Char) : List Char :=
  let mark := quotationMark s
  mark :: (s.flatMap (quoteChar mark) ++ [mark])

/-- A string between quotation marks. -/
def quote (s : String) : String :=
  String.ofList (quoted s.toList)

/-- A list of strings, each between quotation marks. -/
def quoteList (items : List String) : String :=
  "[" ++ ", ".intercalate (items.map quote) ++ "]"

end SentenceGen.Text
