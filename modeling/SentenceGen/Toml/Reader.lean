import SentenceGen.Toml.Scalar

/-!
# Reading TOML

The readers take what they read from the front of a text and answer with it and the rest, or with
nothing where the text is no TOML. Those that may go round more often than the text shows have a
bound for the number of rounds; as every round takes a character, the length of the text is enough.

`Toml.parse?` reads a document, and `Toml.loads` is the loader that the program runs with. What is
said about configurations elsewhere holds for any other loader as well.
-/

namespace SentenceGen.Toml

/-! ### Between values -/

/-- The space and the tab. -/
def isSpace (c : Char) : Bool :=
  c == ' ' || c == '\t'

def skipSpaces (s : List Char) : List Char :=
  s.dropWhile isSpace

/-- A character that may stand in a comment, or for itself in a string: no control but the tab. -/
def isPlain (c : Char) : Bool :=
  c == '\t' || (0x20 ≤ c.toNat && c.toNat != 0x7F)

/-- The rest behind a line end. -/
def lineEnd? : List Char → Option (List Char)
  | '\n' :: s => some s
  | '\r' :: '\n' :: s => some s
  | _ => none

/-- Drops a comment, if there is one. -/
def skipComment : List Char → List Char
  | '#' :: s => s.dropWhile isPlain
  | s => s

/-- Takes spaces, a comment and the end of the line or of the text. -/
def restOfLine? (s : List Char) : Option (List Char) :=
  match skipComment (skipSpaces s) with
  | [] => some []
  | s => lineEnd? s

/-- Drops spaces, comments and line ends, at most `bound` lines of them. -/
def skipLines : (bound : Nat) → List Char → List Char
  | 0, s => s
  | bound + 1, s =>
    let s := skipComment (skipSpaces s)
    match lineEnd? s with
    | some rest => skipLines bound rest
    | none => s

/-! ### Strings -/

/-- Puts a character in front of what was read. -/
def addChar (c : Char) (r : Option (List Char × List Char)) : Option (List Char × List Char) :=
  r.map fun (s, rest) => (c :: s, rest)

/-- The character with a code point in hexadecimal digits. -/
def codePoint? (digits : List Char) : Option Char := do
  let n ← Text.hexNumber? digits
  if n.isValidChar then some (Char.ofNat n) else none

/-- An escape behind its backslash. -/
def escape? : List Char → Option (Char × List Char)
  | 'b' :: s => some ('\x08', s)
  | 't' :: s => some ('\t', s)
  | 'n' :: s => some ('\n', s)
  | 'f' :: s => some ('\x0c', s)
  | 'r' :: s => some ('\r', s)
  | '\x22' :: s => some ('\x22', s)
  | '\x5c' :: s => some ('\x5c', s)
  | 'u' :: a :: b :: c :: d :: s => (codePoint? [a, b, c, d]).map (·, s)
  | 'U' :: a :: b :: c :: d :: e :: f :: g :: h :: s =>
    (codePoint? [a, b, c, d, e, f, g, h]).map (·, s)
  | _ => none

/-- A string in double quotes on one line, behind its opening quote. -/
def basicString : (bound : Nat) → List Char → Option (List Char × List Char)
  | 0, _ => none
  | bound + 1, s =>
    match s with
    | '\x22' :: rest => some ([], rest)
    | '\x5c' :: rest => (escape? rest).bind fun (c, rest) => addChar c (basicString bound rest)
    | c :: rest => if isPlain c then addChar c (basicString bound rest) else none
    | [] => none

/-- A string in apostrophes on one line, behind its opening apostrophe. -/
def literalString : List Char → Option (List Char × List Char)
  | '\x27' :: rest => some ([], rest)
  | c :: rest => if isPlain c then addChar c (literalString rest) else none
  | [] => none

/-- A character of a string on several lines that stands for itself: all plain ones and the line
ends. -/
def multilineChar? : List Char → Option (Char × List Char)
  | '\n' :: s => some ('\n', s)
  | '\r' :: '\n' :: s => some ('\n', s)
  | c :: s => if isPlain c then some (c, s) else none
  | [] => none

/-- The end of a string on several lines: three quotation marks, in front of which there may be one
or two more that belong to the string. -/
def multilineEnd? (mark : Char) : List Char → Option (List Char × List Char)
  | a :: b :: c :: rest =>
    if a == mark && b == mark && c == mark then
      match rest with
      | d :: e :: more =>
        if d == mark && e == mark then some ([mark, mark], more)
        else if d == mark then some ([mark], e :: more)
        else some ([], rest)
      | [d] => if d == mark then some ([mark], []) else some ([], rest)
      | [] => some ([], [])
    else none
  | _ => none

/-- The rest behind a backslash at the end of a line, from the next character that is neither a
space nor a line end. -/
def continuation? (s : List Char) : Option (List Char) :=
  (lineEnd? (skipSpaces s)).map fun rest =>
    rest.dropWhile fun c => isSpace c || c == '\n' || c == '\r'

/-- A string on several lines, behind its opening marks; one in double quotes has escapes. -/
def multilineString (mark : Char) : (bound : Nat) → List Char → Option (List Char × List Char)
  | 0, _ => none
  | bound + 1, s =>
    match multilineEnd? mark s with
    | some r => some r
    | none =>
      if mark == '\x22' && s.head? == some '\x5c' then
        match continuation? (s.drop 1) with
        | some rest => multilineString mark bound rest
        | none =>
          (escape? (s.drop 1)).bind fun (c, rest) => addChar c (multilineString mark bound rest)
      else
        (multilineChar? s).bind fun (c, rest) => addChar c (multilineString mark bound rest)

/-- A line end right behind the opening marks does not belong to the string. -/
def skipFirstLineEnd (s : List Char) : List Char :=
  (lineEnd? s).getD s

/-- A string of any of the four kinds. -/
def string? (bound : Nat) : List Char → Option (String × List Char)
  | '\x22' :: '\x22' :: '\x22' :: s =>
    (multilineString '\x22' bound (skipFirstLineEnd s)).map fun (t, rest) => (.ofList t, rest)
  | '\x22' :: s => (basicString bound s).map fun (t, rest) => (.ofList t, rest)
  | '\x27' :: '\x27' :: '\x27' :: s =>
    (multilineString '\x27' bound (skipFirstLineEnd s)).map fun (t, rest) => (.ofList t, rest)
  | '\x27' :: s => (literalString s).map fun (t, rest) => (.ofList t, rest)
  | _ => none

/-! ### Keys -/

/-- A character of a key without quotes. -/
def isBareKeyChar (c : Char) : Bool :=
  c.isAlphanum || c == '_' || c == '-'

/-- A key, without quotes or as a string on one line. -/
def key? (bound : Nat) : List Char → Option (String × List Char)
  | '\x22' :: s => (basicString bound s).map fun (t, rest) => (.ofList t, rest)
  | '\x27' :: s => (literalString s).map fun (t, rest) => (.ofList t, rest)
  | s =>
    let key := s.takeWhile isBareKeyChar
    if key.isEmpty then none else some (.ofList key, s.drop key.length)

/-- Keys with dots between them, and spaces around each. -/
def path? : (bound : Nat) → List Char → Option (List String × List Char)
  | 0, _ => none
  | bound + 1, s => do
    let (key, rest) ← key? bound (skipSpaces s)
    match skipSpaces rest with
    | '.' :: rest => do
      let (keys, rest) ← path? bound rest
      return (key :: keys, rest)
    | rest => return ([key], rest)

/-! ### Values -/

mutual
/-- A value of any kind. -/
def value? : (bound : Nat) → List Char → Option (Value × List Char)
  | 0, _ => none
  | bound + 1, s =>
    match s with
    | '\x22' :: _ => (string? bound s).map fun (t, rest) => (.text t, rest)
    | '\x27' :: _ => (string? bound s).map fun (t, rest) => (.text t, rest)
    | '[' :: rest => (items? bound rest).map fun (items, rest) => (.array false items, rest)
    | '\x7b' :: rest =>
      match skipSpaces rest with
      | '\x7d' :: rest => some (.table .inline [], rest)
      | rest => (pairs? bound [] rest).map fun (entries, rest) => (.table .inline entries, rest)
    | s =>
      let (lexeme, rest) := cutScalar s
      (scalar? lexeme).map (·, rest)

/-- The elements of an array, behind its opening bracket or a comma. -/
def items? : (bound : Nat) → List Char → Option (List Value × List Char)
  | 0, _ => none
  | bound + 1, s =>
    match skipLines bound s with
    | ']' :: rest => some ([], rest)
    | s => do
      let (item, rest) ← value? bound s
      match skipLines bound rest with
      | ',' :: rest => do
        let (items, rest) ← items? bound rest
        return (item :: items, rest)
      | ']' :: rest => return ([item], rest)
      | _ => none

/-- The pairs of a table in braces, behind its opening brace or a comma, added to those before. -/
def pairs? : (bound : Nat) → Entries → List Char → Option (Entries × List Char)
  | 0, _, _ => none
  | bound + 1, entries, s => do
    let (path, rest) ← path? bound s
    match rest with
    | '=' :: rest => do
      let (value, rest) ← value? bound (skipSpaces rest)
      let entries ← entries.insert value path
      match skipSpaces rest with
      | ',' :: rest => pairs? bound entries rest
      | '\x7d' :: rest => return (entries, rest)
      | _ => none
    | _ => none
end

/-! ### Documents -/

/-- The lines of a document: the entries read so far and the path of the last header. -/
def lines? : (bound : Nat) → Entries → (header : List String) → List Char → Option Entries
  | 0, _, _, _ => none
  | bound + 1, entries, header, s =>
    match skipLines bound s with
    | [] => some entries
    | '[' :: '[' :: rest => do
      match ← path? bound rest with
      | (path, ']' :: ']' :: rest) => do
        lines? bound (← entries.openElement path) path (← restOfLine? rest)
      | _ => none
    | '[' :: rest => do
      match ← path? bound rest with
      | (path, ']' :: rest) => do
        lines? bound (← entries.openTable path) path (← restOfLine? rest)
      | _ => none
    | s => do
      match ← path? bound s with
      | (path, '=' :: rest) => do
        let (value, rest) ← value? bound (skipSpaces rest)
        lines? bound (← entries.insertUnder value path header) header (← restOfLine? rest)
      | _ => none

/-- The entries of the document that a text writes, if it writes one. -/
def parse? (text : String) : Option Entries :=
  let s := text.toList
  lines? (s.length + 1) [] [] s

/-- The reader of this module as a loader. It does not say where a text goes wrong. -/
def loads : Loader := fun text =>
  (parse? text).elim (.error "the text is not a TOML document") .ok

end SentenceGen.Toml
