import SentenceGen.Text.Quoted

/-!
# Reading quoted texts

`readQuoted` reads a text between apostrophes or double quotes, with the escapes that a quoted text
may hold, and `unquoteList?` a list of such texts in brackets. Both are strict: they know the
escapes and the layout of a list that quoting uses, and refuse all others.
-/

namespace SentenceGen.Text

/-- The character whose code point `width` hexadecimal digits write, and the rest behind them. -/
def readCodePoint (width : Nat) (s : List Char) : Option (Char × List Char) :=
  if s.length < width then none
  else (hexNumber? (s.take width)).bind fun n =>
    if n.isValidChar then some (Char.ofNat n, s.drop width) else none

/-- The character that an escape writes, of which the part behind the backslash comes next. -/
def readEscape : List Char → Option (Char × List Char)
  | '\x5c' :: s => some ('\x5c', s)
  | '\x27' :: s => some ('\x27', s)
  | '\x22' :: s => some ('\x22', s)
  | 'n' :: s => some ('\n', s)
  | 'r' :: s => some ('\r', s)
  | 't' :: s => some ('\t', s)
  | 'x' :: s => readCodePoint 2 s
  | 'u' :: s => readCodePoint 4 s
  | 'U' :: s => readCodePoint 8 s
  | _ => none

/-- A character that does not stand for itself between quotation marks: it ends the line, or all of
the text. -/
def endsQuoted (c : Char) : Bool :=
  c == '\n' || c == '\r' || c == '\x00'

/-- The characters of a text up to its closing quotation mark, and the rest behind it. -/
def readUntil (mark : Char) : (fuel : Nat) → List Char → Option (List Char × List Char)
  | 0, _ => none
  | _, [] => none
  | fuel + 1, c :: s =>
    if c == mark then some ([], s)
    else if c == '\x5c' then do
      let (c, s) ← readEscape s
      let (cs, s) ← readUntil mark fuel s
      return (c :: cs, s)
    else if endsQuoted c then none
    else do
      let (cs, s) ← readUntil mark fuel s
      return (c :: cs, s)

/-- A text between quotation marks, and the rest behind it. -/
def readQuoted : List Char → Option (List Char × List Char)
  | [] => none
  | mark :: s => if mark == '\x27' || mark == '\x22' then readUntil mark (s.length + 1) s else none

/-- The texts of a list behind its first one, up to the closing bracket at the end. -/
def readListRest : (fuel : Nat) → List Char → Option (List String)
  | 0, _ => none
  | fuel + 1, s =>
    match s with
    | [']'] => some []
    | ',' :: ' ' :: s => do
      let (item, s) ← readQuoted s
      let items ← readListRest fuel s
      return String.ofList item :: items
    | _ => none

/-- The texts that a list of quoted texts holds. -/
def unquoteList? (s : String) : Option (List String) :=
  match s.toList with
  | ['[', ']'] => some []
  | '[' :: s => do
    let (item, s) ← readQuoted s
    let items ← readListRest (s.length + 1) s
    return String.ofList item :: items
  | _ => none

end SentenceGen.Text
