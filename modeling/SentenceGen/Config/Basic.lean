import SentenceGen.Number.Shortest
import SentenceGen.Files.Path
import SentenceGen.Text.Numeral
import SentenceGen.Text.Utf8
import SentenceGen.Toml.Value

/-!
# Configurations

A configuration maps commands to options and options to default values. It is written as a TOML
document whose table `defaults` holds, for each command, an array with one table of options; the
command `default` stands for all commands. Nothing else in a document matters.

Several documents are merged option by option: the first one that gives an option of a command a
value wins. `Config.ofTexts` reads and merges; it looks at the form of a document only after all of
them were found to be TOML. What is TOML, and what is said about a text that is not, is up to the
loader that it is given.
-/

namespace SentenceGen

/-- The value of an option. -/
inductive OptionValue where
  | text (s : String)
  | whole (n : Int)
  | real (x : Binary64)
  | flag (b : Bool)
  deriving DecidableEq, Repr

namespace OptionValue

/-- The value as a text of its own, unless it is an integer with too many digits. -/
def display? : OptionValue → Option String
  | text s => some s
  | whole n => Text.decimal? n
  | real x => some x.text
  | flag b => some (if b then "True" else "False")

/-- The value as it is quoted in a message. -/
def quoted? : OptionValue → Option String
  | text s => some (Text.quote s)
  | v => v.display?

/-- The empty text, zero and false do not count as yes. -/
def isYes : OptionValue → Bool
  | text s => !s.isEmpty
  | whole n => n != 0
  | real x => !x.isZero
  | flag b => b

end OptionValue

/-- The options of commands, both in the order in which they were first named. -/
abbrev Sections := List (String × List (String × OptionValue))

/-- Why there is no configuration. A text that is no TOML comes with what the loader says. -/
inductive ConfigError where
  | undecodable (fault : Text.Utf8.Fault)
  | unreadable (e : PathError)
  | invalidToml (detail : String)
  | unexpectedFormat
  deriving DecidableEq, Repr

def ConfigError.message : ConfigError → String
  | undecodable fault => fault.message
  | unreadable e => e.message
  | invalidToml detail => "Invalid TOML in .grammargenrc: " ++ detail
  | unexpectedFormat =>
    "Unexpected .grammargenrc format: defaults should be a non-nested array of tables"

/-! ### One document -/

/-- The value of an option that a TOML value stands for. -/
def optionValue? : Toml.Value → Option OptionValue
  | .text s => some (.text s)
  | .whole n => some (.whole n)
  | .real x => some (.real x)
  | .flag b => some (.flag b)
  | _ => none

/-- The options in an array that holds one table, if all their values are scalars. -/
def optionsOf? : Toml.Value → Option (List (String × OptionValue))
  | .array _ [.table _ entries] => entries.mapM fun (key, v) => (optionValue? v).map (key, ·)
  | _ => none

/-- The sections in the table `defaults` of a document; there are none when the table is missing. -/
def sectionsOf? (document : Toml.Entries) : Option Sections :=
  match document.lookup "defaults" with
  | none => some []
  | some (.table _ entries) =>
    entries.mapM fun (command, v) => (optionsOf? v).map (command, ·)
  | some _ => none

/-! ### Merging -/

/-- Adds an option unless it is there. -/
def addOption (option : String) (value : OptionValue) :
    List (String × OptionValue) → List (String × OptionValue)
  | [] => [(option, value)]
  | (o, v) :: options =>
    if o = option then (o, v) :: options else (o, v) :: addOption option value options

/-- Gives an option of a command a value unless it has one. -/
def addDefault (command option : String) (value : OptionValue) : Sections → Sections
  | [] => [(command, [(option, value)])]
  | (c, options) :: sections =>
    if c = command then (c, addOption option value options) :: sections
    else (c, options) :: addDefault command option value sections

/-- Adds what is new in the sections of another document. -/
def mergeSections (merged added : Sections) : Sections :=
  added.foldl
    (fun merged (command, options) =>
      options.foldl (fun merged (option, value) => addDefault command option value merged) merged)
    merged

/-- The merged options of commands. -/
structure Config where
  sections : Sections
  deriving DecidableEq, Repr

namespace Config

/-- The documents that texts write, unless one of them is no TOML. -/
def documentsOf (loads : Toml.Loader) (texts : List String) :
    Except ConfigError (List Toml.Entries) :=
  texts.mapM fun text => (loads text).mapError .invalidToml

/-- The configuration that texts write together, the first one first. -/
def ofTexts (loads : Toml.Loader) (texts : List String) : Except ConfigError Config := do
  let documents ← documentsOf loads texts
  let sections ← (documents.mapM sectionsOf?).elim (.error .unexpectedFormat) .ok
  return ⟨sections.foldl mergeSections []⟩

/-- The value of an option of a command. -/
def get? (config : Config) (command option : String) : Option OptionValue :=
  (config.sections.lookup command).bind (·.lookup option)

/-- The default value of an option for a command: its own, or else the one for all commands. -/
def default? (config : Config) (command option : String) : Option OptionValue :=
  (config.get? command option).or (config.get? "default" option)

/-- The sections in ascending order of commands, with the options in ascending order. -/
def sorted (config : Config) : Sections :=
  (config.sections.map fun (command, options) =>
    (command, options.mergeSort fun a b => decide (a.1 ≤ b.1))).mergeSort
      fun a b => decide (a.1 ≤ b.1)

end Config

end SentenceGen
