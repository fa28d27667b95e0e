import SentenceGen.Cli.Options
import SentenceGen.Text.Digit

/-!
# Reading arguments

An argument is an **option** or an **operand**. Options may be shortened as long as they stay
unambiguous, take their argument behind `=` or, when they are one letter long, directly behind the
letter, and letters of options without arguments may be joined. Behind `--` there are only operands.

`classify` tells the arguments apart, all of them before any is acted on, and `scan` turns them into
the findings that are to be acted on in their order. A finding of something wrong is the last one.
-/

namespace SentenceGen.Cli

/-- What an option has for an argument in its own text: nothing, what stands directly behind its
letter, or what stands behind the `=`. -/
inductive Attachment where
  | nothing
  | glued (s : List Char)
  | equals (s : List Char)
  deriving DecidableEq, Repr

/-- What an argument is. -/
inductive Word where
  | operand
  | dashes
  | option (o : OptionSpec) (spelling : String) (attached : Attachment)
  | unknownOption
  deriving DecidableEq, Repr

/-- An argument with what it is. -/
structure Argument where
  text : String
  word : Word
  deriving DecidableEq, Repr

/-! ### Telling arguments apart -/

/-- The option with a spelling. -/
def findOption (options : List OptionSpec) (spelling : String) : Option OptionSpec :=
  options.find? (·.spellings.contains spelling)

/-- All spellings with their options. -/
def spellingsOf (options : List OptionSpec) : List (OptionSpec × String) :=
  options.flatMap fun o => o.spellings.map (o, ·)

/-- What stands in front of the first `=` and, if there is one, what stands behind it. -/
def cutAtEquals (s : List Char) : List Char × Option (List Char) :=
  (s.takeWhile (· != '='), match s.dropWhile (· != '=') with
    | [] => none
    | _ :: rest => some rest)

/-- An attachment behind `=`, if there is one. -/
def attachedTo : Option (List Char) → Attachment
  | none => .nothing
  | some s => .equals s

/-- The spellings that an argument may be short for. With two hyphens in front it is the beginning
of a spelling; with one it is a letter with something behind it. -/
def candidates (options : List OptionSpec) (s : List Char) :
    List (OptionSpec × String × Attachment) :=
  match s with
  | '-' :: '-' :: _ =>
    let (front, value) := cutAtEquals s
    (spellingsOf options).filterMap fun (o, spelling) =>
      if front.isPrefixOf spelling.toList then some (o, spelling, attachedTo value) else none
  | a :: b :: rest =>
    (spellingsOf options).filterMap fun (o, spelling) =>
      if spelling.toList == [a, b] then some (o, spelling, .glued rest) else none
  | _ => []

/-- A negative number, which is an operand where no option looks like one. A line end behind it is
passed over. -/
def isNegativeNumber (s : List Char) : Bool :=
  let s := if s.getLast? == some '\n' then s.dropLast else s
  match s with
  | '-' :: digits =>
    let whole := digits.takeWhile Text.isDigit
    match digits.drop whole.length with
    | [] => !whole.isEmpty
    | '.' :: fraction => !fraction.isEmpty && fraction.all Text.isDigit
    | _ => false
  | _ => false

/-- What an argument in front of `--` is. -/
def classify (options : List OptionSpec) (text : String) : Except UsageError Word :=
  let s := text.toList
  if s.head? != some '-' then .ok .operand
  else match findOption options text with
    | some o => .ok (.option o text .nothing)
    | none =>
      if s.length == 1 then .ok .operand
      else
        let (front, value) := cutAtEquals s
        match value, findOption options (String.ofList front) with
        | some v, some o => .ok (.option o (String.ofList front) (.equals v))
        | _, _ =>
          match candidates options s with
          | [(o, spelling, attached)] => .ok (.option o spelling attached)
          | [] =>
            if isNegativeNumber s || s.contains ' ' then .ok .operand else .ok .unknownOption
          | several => .error (.ambiguousOption text (several.map fun (_, spelling, _) => spelling))

/-- What each of the arguments is. -/
def classifyAll (options : List OptionSpec) : List String → Except UsageError (List Argument)
  | [] => .ok []
  | text :: rest =>
    if text == "--" then .ok (⟨text, .dashes⟩ :: rest.map (⟨·, .operand⟩))
    else do
      let word ← classify options text
      let words ← classifyAll options rest
      return ⟨text, word⟩ :: words

/-! ### Findings -/

/-- What arguments amount to, one after the other. -/
inductive Finding where
  | given (o : OptionSpec) (spelling : String) (value : Option String)
  | operands (texts : List String)
  | extra (text : String)
  | wrong (e : UsageError)
  deriving DecidableEq, Repr

/-- What a text with several options joined in it amounts to, and the option that still waits for
its argument. -/
abbrev Cluster := Except UsageError (List Finding × Option (OptionSpec × String))

/-- Puts a finding in front. -/
def Cluster.cons (f : Finding) : Cluster → Cluster
  | .ok (findings, waiting) => .ok (f :: findings, waiting)
  | .error e => .error e

/-- Reads on behind an option. What stands behind it is its argument, or more letters of options if
it is a letter itself and takes no argument. -/
def cluster (options : List OptionSpec) (o : OptionSpec) (spelling : String) (behindEquals : Bool) :
    List Char → Cluster
  | [] =>
    if o.takesArgument then .ok ([.given o spelling (some "")], none)
    else .error (.argumentIgnored o "")
  | c :: rest =>
    if o.takesArgument then .ok ([.given o spelling (some (String.ofList (c :: rest)))], none)
    else if spelling.startsWith "--" || behindEquals || c == '-' then
      .error (.argumentIgnored o (String.ofList (c :: rest)))
    else
      let letter := String.ofList ['-', c]
      match findOption options letter with
      | none =>
        .ok ([.given o spelling none, .extra (String.ofList ('-' :: c :: rest))], none)
      | some next =>
        Cluster.cons (.given o spelling none) <|
          match rest with
          | [] =>
            if next.takesArgument then .ok ([], some (next, letter))
            else .ok ([.given next letter none], none)
          | '=' :: value => cluster options next letter true value
          | d :: more => cluster options next letter false (d :: more)

/-- What an option with its attachment amounts to. -/
def expandOption (options : List OptionSpec) (o : OptionSpec) (spelling : String) :
    Attachment → Cluster
  | .nothing =>
    if o.takesArgument then .ok ([], some (o, spelling)) else .ok ([.given o spelling none], none)
  | .glued s => cluster options o spelling false s
  | .equals s => cluster options o spelling true s

/-- What arguments amount to where the given operands are expected. A file is one operand, around
which a `--` is passed over; a command takes all that follows with it. -/
def scan (options : List OptionSpec) : Operands → List Argument → List Finding
  | _, [] => []
  | operands, ⟨_, .option o spelling attached⟩ :: rest =>
    match expandOption options o spelling attached with
    | .error e => [.wrong e]
    | .ok (findings, none) => findings ++ scan options operands rest
    | .ok (findings, some (waiting, letter)) =>
      match rest with
      | ⟨value, .operand⟩ :: rest =>
        findings ++ .given waiting letter (some value) :: scan options operands rest
      | _ => [.wrong (.argumentExpected waiting)]
  | operands, ⟨text, .unknownOption⟩ :: rest => .extra text :: scan options operands rest
  | .command, ⟨text, .operand⟩ :: rest => [.operands (text :: rest.map (·.text))]
  | .command, ⟨text, .dashes⟩ :: rest =>
    if rest.isEmpty then [.extra text] else [.operands (text :: rest.map (·.text))]
  | .file, ⟨text, .operand⟩ :: ⟨_, .dashes⟩ :: rest =>
    .operands [text] :: scan options .nothing rest
  | .file, ⟨text, .operand⟩ :: rest => .operands [text] :: scan options .nothing rest
  | .file, ⟨_, .dashes⟩ :: ⟨file, .operand⟩ :: rest =>
    .operands [file] :: scan options .nothing rest
  | operands, ⟨text, _⟩ :: rest => .extra text :: scan options operands rest

/-- What arguments amount to for an interface. -/
def Interface.findings (i : Interface) (args : List String) : List Finding :=
  match classifyAll i.options args with
  | .error e => [.wrong e]
  | .ok arguments => scan i.options i.operands arguments

end SentenceGen.Cli
