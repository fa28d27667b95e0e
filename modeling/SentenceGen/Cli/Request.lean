import SentenceGen.Cli.Arguments
import SentenceGen.Cli.Help
import SentenceGen.Cli.Transcript
import SentenceGen.Json.Basic
import SentenceGen.Text.Numeral

/-!
# Requests

A **request** is what arguments ask for, with the default values of a configuration filled in. A
default value that is a text is read like an argument; of any other kind it is taken as it is, and
no default value is held against the log levels.

`request` answers with a request, or with what is shown instead and the ending.
-/

namespace SentenceGen.Cli

/-- A number that was given as an argument or a default value. -/
inductive Quantity where
  | whole (n : Int)
  | real (x : Binary64)
  deriving DecidableEq, Repr

namespace Quantity

def isNegative : Quantity → Bool
  | whole n => n < 0
  | real x => x.isNegative

/-- The quantity as a text, unless it is an integer with too many digits. -/
def display? : Quantity → Option String
  | whole n => Text.decimal? n
  | real x => some x.text

/-- The seed that a quantity stands for: that of a float is its residue, counted up from zero. What
is no number stands for none. -/
def seed? : Quantity → Option Int
  | whole n => some n
  | real x => x.residue?.map fun residue =>
    let r := if residue = -1 then -2 else residue
    if r < 0 then r + 0x10000000000000000 else r

end Quantity

/-- What the command `generate` is asked for. -/
structure GenerateRequest where
  file : String
  symbol : Option OptionValue
  count : Quantity
  tree : Bool
  layout : Json.Layout
  seed : Option Quantity
  deriving DecidableEq, Repr

/-- What a command is asked for. -/
inductive Request where
  | generate (r : GenerateRequest)
  | symbols (file : String)
  | interactive (file : String) (seed : Option Quantity)
  | config (output : Option String)
  deriving DecidableEq, Repr

/-- A request with the log level, which has yet to be looked at. -/
structure Invocation where
  request : Request
  level : OptionValue
  deriving DecidableEq, Repr

/-- What is shown, and the ending, in the place of doing what was asked for. -/
structure Refusal where
  events : List Event
  ending : Ending
  deriving DecidableEq, Repr

/-! ### Default values -/

/-- The default values of the options of a command. -/
structure Defaults where
  symbol : Option OptionValue
  count : OptionValue
  pretty : OptionValue
  seed : Option OptionValue
  level : OptionValue
  deriving DecidableEq, Repr

/-- The default values that a configuration has for a command. -/
def Defaults.ofConfig (config : Config) (c : Command) : Defaults where
  symbol := config.default? c.name "--symbol"
  count := (config.default? c.name "--num-sentences").getD (.whole 1)
  pretty := (config.default? c.name "--pretty-print").getD (.flag false)
  seed := config.default? c.name "--seed"
  level := (config.default? c.name "--log-level").getD (.text "WARNING")

/-- A value that may be missing, as it is shown, unless it is an integer with too many digits. -/
def displayOptional? (v : Option OptionValue) : Option String :=
  v.elim (some "None") OptionValue.display?

/-- The default value that the help tells for an option, for those that have one. -/
def Defaults.told? (d : Defaults) : Role → Option (Option OptionValue)
  | .symbol => some d.symbol
  | .count => some (some d.count)
  | .tree => some (some (.flag false))
  | .pretty => some (some d.pretty)
  | .seed => some d.seed
  | .logLevel => some (some d.level)
  | .output => some none
  | .help => none
  | .version => none

/-- The help of a command with its default values, if all of them can be written. -/
def Command.help? (c : Command) (d : Defaults) : Option String :=
  let display (role : Role) : Option String := (d.told? role).bind displayOptional?
  if c.interface.options.all fun o => (d.told? o.role).isNone || (display o.role).isSome then
    some (c.interface.help display)
  else none

/-! ### The arguments of a command -/

/-- What the arguments of a command have given so far. -/
structure Given where
  file : Option String
  symbol : Option String
  count : Option Int
  tree : Bool
  pretty : Option Bool
  seed : Option Int
  level : Option String
  output : Option String
  extras : List String
  deriving DecidableEq, Repr

/-- What no arguments give. -/
def Given.empty : Given :=
  ⟨none, none, none, false, none, none, none, none, []⟩

/-- Reads an argument as an integer. -/
def readInteger (o : OptionSpec) (text : String) : Except UsageError Int :=
  (Text.integer? text).elim (.error (.invalidInteger o text)) .ok

/-- Takes an option that was given, other than that for help. -/
def Given.take (g : Given) (o : OptionSpec) (spelling value : String) : Except UsageError Given :=
  match o.role with
  | .symbol => .ok { g with symbol := some value }
  | .count => (readInteger o value).map fun n => { g with count := some n }
  | .tree => .ok { g with tree := true }
  | .pretty => .ok { g with pretty := some (!spelling.startsWith "--no-") }
  | .seed => (readInteger o value).map fun n => { g with seed := some n }
  | .logLevel =>
    if logLevels.contains value then .ok { g with level := some value }
    else .error (.invalidLevel value)
  | .output => .ok { g with output := some value }
  | .help => .ok g
  | .version => .ok g

/-- A usage error, shown below the usage of an interface. -/
def Interface.refuse (i : Interface) (e : UsageError) : Refusal :=
  ⟨[.usage i.usage, .complaint i.program (.usage e)], .exit usageError⟩

/-- What a call for help leads to: the help, if it can be written. -/
def Refusal.ofHelp : (help? : Option String) → Refusal
  | some text => ⟨[.help text], .exit success⟩
  | none => ⟨[], .fault .tooManyDigits⟩

/-- Acts on findings one after the other, up to a call for help or to something wrong. -/
def collect (i : Interface) (help? : Option String) : Given → List Finding → Except Refusal Given
  | g, [] => .ok g
  | g, .given o spelling value :: findings =>
    if o.role = .help then .error (.ofHelp help?)
    else match g.take o spelling (value.getD "") with
      | .ok g => collect i help? g findings
      | .error e => .error (i.refuse e)
  | g, .operands texts :: findings => collect i help? { g with file := texts.head? } findings
  | g, .extra text :: findings => collect i help? { g with extras := g.extras ++ [text] } findings
  | _, .wrong e :: _ => .error (i.refuse e)

/-- A number as it was given, or else the default value, of which a text is read as an integer. -/
def quantityOr (o : OptionSpec) (given : Option Int) (default : OptionValue) :
    Except UsageError Quantity :=
  match given, default with
  | some n, _ => .ok (.whole n)
  | none, .text s => (readInteger o s).map .whole
  | none, .whole n => .ok (.whole n)
  | none, .flag b => .ok (.whole (if b then 1 else 0))
  | none, .real x => .ok (.real x)

/-- A seed as it was given, or else the default value, if there is one. -/
def seedOr (given : Option Int) (default : Option OptionValue) :
    Except UsageError (Option Quantity) :=
  match given, default with
  | none, none => .ok none
  | some n, _ => .ok (some (.whole n))
  | none, some v => (quantityOr seedOption none v).map some

/-- A file as it was given. -/
def requireFile (file : Option String) : Except UsageError String :=
  file.elim (.error .fileRequired) .ok

/-- The request that a command makes of what was given. Default values are read before a missing
file is noticed. -/
def Command.request (c : Command) (d : Defaults) (g : Given) : Except UsageError Request :=
  match c with
  | generate => do
    let count ← quantityOr countOption g.count d.count
    let seed ← seedOr g.seed d.seed
    let file ← requireFile g.file
    let pretty := (g.pretty.map OptionValue.flag).getD d.pretty
    return .generate
      { file, count, seed
        symbol := (g.symbol.map OptionValue.text).or d.symbol
        tree := g.tree
        layout := if pretty.isYes then .indented else .compact }
  | symbols => do return .symbols (← requireFile g.file)
  | interactive => do
    let seed ← seedOr g.seed d.seed
    return .interactive (← requireFile g.file) seed
  | config => .ok (.config g.output)

/-- Reads the arguments of a command. What was left over is for the program to complain about. -/
def Command.read (c : Command) (config : Config) (args : List String) :
    Except Refusal (Invocation × List String) := do
  let d := Defaults.ofConfig config c
  let i := c.interface
  let g ← collect i (c.help? d) .empty (i.findings args)
  let request ← (c.request d g).mapError i.refuse
  return (⟨request, (g.level.map OptionValue.text).getD d.level⟩, g.extras)

/-! ### The arguments of the program -/

/-- What the arguments of the program have given so far. -/
structure MainGiven where
  version : Bool
  invocation : Option Invocation
  extras : List String
  deriving DecidableEq, Repr

/-- Acts on the findings of the program one after the other. -/
def collectMain (config : Config) : MainGiven → List Finding → Except Refusal MainGiven
  | g, [] => .ok g
  | g, .given o _ _ :: findings =>
    if o.role = .help then .error (.ofHelp (some (mainInterface.help fun _ => none)))
    else collectMain config { g with version := true } findings
  | g, .operands texts :: findings =>
    let name := texts.headD ""
    match Command.ofName? name with
    | none => .error (mainInterface.refuse (.invalidCommand name))
    | some c =>
      match c.read config (texts.drop 1) with
      | .error r => .error r
      | .ok (invocation, left) =>
        collectMain config
          { g with invocation := some invocation, extras := g.extras ++ left } findings
  | g, .extra text :: findings =>
    collectMain config { g with extras := g.extras ++ [text] } findings
  | _, .wrong e :: _ => .error (mainInterface.refuse e)

/-- What the arguments of the program ask for. -/
def request (config : Config) (args : List String) : Except Refusal Invocation := do
  let g ← collectMain config ⟨false, none, []⟩ (mainInterface.findings args)
  if !g.extras.isEmpty then throw (mainInterface.refuse (.unrecognized g.extras))
  if g.version then throw ⟨[.version], .exit success⟩
  match g.invocation with
  | some invocation => return invocation
  | none =>
    throw ⟨[.usage mainInterface.usage, .complaint mainInterface.program .noCommand],
      .exit usageError⟩

end SentenceGen.Cli
