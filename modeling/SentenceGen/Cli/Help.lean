import SentenceGen.Cli.Options
import SentenceGen.Text.Wrap

/-!
# Usage and help texts

Texts are set for a line of 78 characters. The usage of an interface stands on one line if it fits,
and otherwise on several, with the operands on lines of their own. In the help, what is said about
an option begins in column 24, on the line of the option if that is short enough. Behind it stands
the default value, where there is one to be told.
-/

namespace SentenceGen.Cli

/-- The number of characters on a line. -/
def lineWidth : Nat := 78

/-- The column in which explanations begin. -/
def helpColumn : Nat := 24

def spaces (n : Nat) : String :=
  String.ofList (List.replicate n ' ')

/-- A paragraph on lines of a given width. -/
def filled (width : Nat) (s : String) : List String :=
  (Text.wrap width s.toList).map String.ofList

/-! ### Usage -/

/-- An option in the usage line. -/
def OptionSpec.usagePart (o : OptionSpec) : String :=
  match o.use with
  | .argument name => "[" ++ o.spellings.headD "" ++ " " ++ name ++ "]"
  | .switch => "[" ++ o.spellings.headD "" ++ "]"
  | .onOff => "[" ++ " | ".intercalate o.spellings ++ "]"

/-- The operands in the usage line. -/
def Operands.usageParts : Operands → List String
  | nothing => []
  | file => [fileOperand]
  | command => [inBraces (Command.all.map Command.name), "..."]

/-- Sets parts on lines, of which the first one is behind `used` characters and all others are
indented by `indent`. -/
def setParts (indent : Nat) : (used : Nat) → (line : List String) → List String → List String
  | _, line, [] => if line.isEmpty then [] else [" ".intercalate line]
  | used, line, part :: parts =>
    if lineWidth < used + 1 + part.length && !line.isEmpty then
      " ".intercalate line :: setParts indent (indent + part.length) [part] parts
    else setParts indent (used + part.length + 1) (line ++ [part]) parts

/-- The usage of an interface. -/
def Interface.usage (i : Interface) : String :=
  let start := "usage: "
  let options := i.options.map OptionSpec.usagePart
  let operands := i.operands.usageParts
  let oneLine := " ".intercalate (i.program :: options ++ operands)
  if start.length + oneLine.length ≤ lineWidth then start ++ oneLine ++ "\n"
  else
    let indent := start.length + i.program.length + 1
    let lines := setParts indent (start.length - 1) [] (i.program :: options) ++
      setParts indent (indent - 1) [] operands
    start ++ ("\n" ++ spaces indent).intercalate lines ++ "\n"

/-! ### Help -/

/-- A list entry in the help. -/
def helpEntry (indent : Nat) (header about : String) : String :=
  let lines := ("\n" ++ spaces helpColumn).intercalate (filled (lineWidth - helpColumn) about)
  if indent + header.length + 2 ≤ helpColumn then
    spaces indent ++ header ++ spaces (helpColumn - indent - header.length) ++ lines ++ "\n"
  else spaces indent ++ header ++ "\n" ++ spaces helpColumn ++ lines ++ "\n"

/-- An option as it heads its entry in the help. -/
def OptionSpec.header (o : OptionSpec) : String :=
  match o.use with
  | .argument name => ", ".intercalate (o.spellings.map fun s => s!"{s} {name}")
  | _ => ", ".intercalate o.spellings

/-- The entry of an option, with its default value if there is one to be told. -/
def OptionSpec.helpEntry (o : OptionSpec) (default : Option String) : String :=
  Cli.helpEntry 2 o.header <| match default with
    | none => o.about
    | some value => s!"{o.about} (default: {value})"

/-- The help of an interface, given the default values of its options. -/
def Interface.help (i : Interface) (default : Role → Option String) : String :=
  let about := "\n".intercalate (filled lineWidth i.about) ++ "\n"
  let options := "options:\n" ++ String.join (i.options.map fun o => o.helpEntry (default o.role))
  i.usage ++ "\n" ++ about ++ "\n" ++
    match i.operands with
    | .nothing => options
    | .file => "positional arguments:\n" ++ helpEntry 2 fileOperand fileAbout ++ "\n" ++ options
    | .command =>
      options ++ "\nCommands:\n" ++ "  " ++ inBraces (Command.all.map Command.name) ++ "\n" ++
        String.join (Command.all.map fun c => helpEntry 4 c.name c.about)

end SentenceGen.Cli
