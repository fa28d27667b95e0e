import SentenceGen.Text.Cut

/-!
# Line ends

Two notions of line end are in use. Reading a file or the input of a session knows three spellings,
`\n`, `\r\n` and `\r`, and `unifyLineEnds` turns each into `\n`. A grammar text is cut at a larger
set, `isLineEnd`, which also holds the vertical tab, the form feed, three of the information
separators and the Unicode line ends; U+001F is blank and ends no line.
-/

namespace SentenceGen.Text

/-- The characters that end a line of a grammar text. -/
def isLineEnd (c : Char) : Bool :=
  let n := c.toNat
  (0x0A ≤ n && n ≤ 0x0D) || (0x1C ≤ n && n ≤ 0x1E) || n == 0x85 || n == 0x2028 || n == 0x2029

/-- A line end is blank. -/
theorem isBlank_of_isLineEnd {c : Char} (h : isLineEnd c = true) : isBlank c = true := by
  simp only [isLineEnd, Bool.or_eq_true, Bool.and_eq_true, decide_eq_true_eq, beq_iff_eq] at h
  simp only [isBlank, Bool.or_eq_true, Bool.and_eq_true, decide_eq_true_eq, beq_iff_eq]
  omega

/-- Writes each of the line ends `\r\n` and `\r` as `\n`. -/
def unifyLineEnds : List Char → List Char
  | [] => []
  | '\r' :: '\n' :: cs => '\n' :: unifyLineEnds cs
  | '\r' :: cs => '\n' :: unifyLineEnds cs
  | c :: cs => c :: unifyLineEnds cs

/-- The lines that are typed at a prompt, without their line ends. -/
def typedLines (input : String) : List String :=
  (cut (· == '\n') (unifyLineEnds input.toList)).map String.ofList

/-- The lines of a text that are not blank, trimmed. A `\r\n` leaves an empty piece between its two
characters, which is dropped with the other blank lines. -/
def trimmedLines (text : List Char) : List (List Char) :=
  ((cut isLineEnd text).map trim).filter (!·.isEmpty)

end SentenceGen.Text
