import SentenceGen.Text.Blank
import SentenceGen.Text.Wordlike

/-!
# Filling lines

A paragraph is cut into **chunks**, between which a line may be broken: runs of spaces, words, and
the two halves of a hyphenated word. `wrap` puts as many chunks on a line as fit, drops the blanks
where it breaks, and breaks a chunk that is longer than a line.
-/

namespace SentenceGen.Text

/-- The ASCII blanks, at which a paragraph may be broken. -/
def isAsciiBlank (c : Char) : Bool :=
  c == ' ' || (0x09 ≤ c.toNat && c.toNat ≤ 0x0D)

/-- Writes each run of ASCII blanks as one space. -/
def squeeze : List Char → List Char
  | [] => []
  | c :: cs =>
    if isAsciiBlank c then
      match squeeze cs with
      | ' ' :: rest => ' ' :: rest
      | rest => ' ' :: rest
    else c :: squeeze cs

/-! ### Chunks -/

/-- A character behind which dashes may end a word. -/
def endsWord (c : Char) : Bool :=
  isWordlike c || c == '!' || c == '\x22' || c == '\x27' || c == '&' || c == '.' || c == ',' ||
    c == '?'

/-- Two or more hyphens between a word and a word character. -/
def isDashAt (behind ahead : List Char) : Bool :=
  let run := ahead.takeWhile (· == '-')
  2 ≤ run.length && behind.head?.any endsWord && (ahead.drop run.length).head?.any isWordlike

/-- A hyphen with letters on both sides, of which one more may be cut off by another hyphen. -/
def isHyphenBetween (behind ahead : List Char) : Bool :=
  (match behind with
    | a :: '-' :: b :: _ => isLetterlike a && isLetterlike b
    | a :: b :: _ => isLetterlike a && isLetterlike b
    | _ => false) &&
  (match ahead with
    | a :: '-' :: b :: _ => isLetterlike a && isLetterlike b
    | a :: b :: _ => isLetterlike a && isLetterlike b
    | _ => false)

/-- What a chunk consists of. -/
inductive ChunkKind where
  | blanks
  | dashes
  | word
  deriving DecidableEq, Repr

/-- The kind of chunk that begins at a place. -/
def chunkKindAt (behind : List Char) (c : Char) (ahead : List Char) : ChunkKind :=
  if isAsciiBlank c then .blanks
  else if isDashAt behind (c :: ahead) then .dashes
  else .word

/-- Cuts into chunks. The open chunk and all that lies behind stand in reverse; there is no open
chunk at the start and behind a hyphen at which a word may be broken. -/
def chunksFrom : (kind : ChunkKind) → (chunk behind : List Char) → List Char → List (List Char)
  | _, [], _, [] => []
  | _, chunk, _, [] => [chunk.reverse]
  | _, [], behind, c :: ahead => chunksFrom (chunkKindAt behind c ahead) [c] (c :: behind) ahead
  | kind, chunk, behind, c :: ahead =>
    if kind = .word ∧ c = '-' ∧ isHyphenBetween behind ahead then
      (c :: chunk).reverse :: chunksFrom .word [] (c :: behind) ahead
    else
      let next := chunkKindAt behind c ahead
      let goesOn := if kind = .dashes then c == '-' else kind == next
      if goesOn then chunksFrom kind (c :: chunk) (c :: behind) ahead
      else chunk.reverse :: chunksFrom next [c] (c :: behind) ahead

/-- The chunks of a paragraph. -/
def chunks (s : List Char) : List (List Char) :=
  chunksFrom .word [] [] s

/-! ### Lines -/

/-- Takes the chunks that fit behind `used` characters. -/
def takeFitting (width : Nat) :
    (used : Nat) → List (List Char) → List (List Char) × List (List Char)
  | _, [] => ([], [])
  | used, chunk :: rest =>
    if used + chunk.length ≤ width then
      let (taken, left) := takeFitting width (used + chunk.length) rest
      (chunk :: taken, left)
    else ([], chunk :: rest)

/-- Where a chunk that is longer than a line is broken when there is `room` left: behind its last
hyphen within the room that has something else in front of it, or where the room ends. -/
def breakPoint (room : Nat) (chunk : List Char) : Nat :=
  let front := chunk.take room
  let upTo := (front.reverse.dropWhile (· != '-')).length
  if upTo > 1 && (front.take (upTo - 1)).any (· != '-') then upTo else room

/-- Drops the last chunk if it is blank. -/
def dropBlankEnd (line : List (List Char)) : List (List Char) :=
  match line.getLast? with
  | some chunk => if chunk.all isBlank then line.dropLast else line
  | none => line

/-- Sets chunks on lines, of which there are at most `bound`. -/
def setLines (width : Nat) : (bound : Nat) → (first : Bool) → List (List Char) → List (List Char)
  | 0, _, _ => []
  | _ + 1, _, [] => []
  | bound + 1, first, chunk :: rest =>
    let start := if !first && chunk.all isBlank then rest else chunk :: rest
    let (taken, left) := takeFitting width 0 start
    let (taken, left) := match left with
      | long :: more =>
        if width < long.length then
          let point := breakPoint (width - taken.flatten.length) long
          (taken ++ [long.take point], long.drop point :: more)
        else (taken, left)
      | [] => (taken, left)
    let line := dropBlankEnd taken
    if line.isEmpty then setLines width bound first left
    else line.flatten :: setLines width bound false left

/-- The lines of a paragraph, each at most `width` characters long. -/
def wrap (width : Nat) (s : List Char) : List (List Char) :=
  setLines width (2 * s.length + 1) true (chunks (trim (squeeze s)))

end SentenceGen.Text
