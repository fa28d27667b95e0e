import SentenceGen.Cli.Request
import SentenceGen.Cli.Session
import SentenceGen.Derivation.TreeText

/-!
# Runs

A run reads the configuration, then the arguments, then looks at the log level, and only then does
what was asked for. Whatever goes wrong ends it there, so that a bad configuration is noticed
whatever the arguments are. A configured integer with too many digits goes wrong where it is to be
shown, behind what was shown before.

`Environment.run` is a run of the program in a store of files.
-/

namespace SentenceGen.Cli

/-! ### Doing what was asked for -/

/-- The choices that a seed makes; without one they are seeded from `entropy`. -/
def sourceOf (entropy : Nat) (seed : Option Quantity) : Source :=
  .seeded ((seed.bind Quantity.seed?).getD entropy)

/-- Goes on with a grammar, or complains that it cannot be loaded. -/
def withGrammar (c : Command) (file : String) (loaded : Except LoadError Grammar)
    (next : Grammar → List Event × Ending) : List Event × Ending :=
  match loaded with
  | .error .nulInPath => ([], .fault .nulInPath)
  | .error e => ([.complaint c.program (.loading file e)], .exit dataError)
  | .ok g =>
    let (events, ending) := next g
    (.loaded g.symbols :: events, ending)

/-- A complaint below the usage of the command `generate`. One that cannot be written is a fault, of
which the usage has been shown already. -/
def refuseGenerate : (complaint? : Option Complaint) → List Event × Ending
  | some c =>
    ([.usage Command.generate.interface.usage, .complaint Command.generate.program c],
      .exit usageError)
  | none => ([.usage Command.generate.interface.usage], .fault .tooManyDigits)

/-- The symbol of the grammar that was asked for, or the complaint that there is none, if it can be
written. -/
def requestedSymbol (g : Grammar) : Option OptionValue → Except (Option Complaint) String
  | some (.text symbol) =>
    if !symbol.isEmpty && g.defines symbol then .ok symbol
    else .error (some (.unknownSymbol symbol g.listing))
  | other => .error ((displayOptional? other).map (.unknownSymbol · g.listing))

/-- What is told for one of the sentences that were asked for. -/
def GenerateRequest.draw (r : GenerateRequest) (limits : Limits) (g : Grammar) (symbol : String) :
    EStateM (DerivationError SourceError) Source Event :=
  if r.tree then drawDocument g Source.chooser limits r.layout symbol
  else drawSentence g Source.chooser limits.depth symbol

/-- Generates sentences or trees from a grammar. -/
def GenerateRequest.runWith (r : GenerateRequest) (limits : Limits) (entropy : Nat) (g : Grammar) :
    List Event × Ending :=
  match requestedSymbol g r.symbol with
  | .error complaint? => refuseGenerate complaint?
  | .ok symbol =>
    match r.count with
    | .real _ => ([], .fault .fractionalCount)
    | .whole n =>
      match batch (r.draw limits g symbol) n.toNat (sourceOf entropy r.seed) with
      | (events, .ok _) => (events, .exit success)
      | (events, .error e) => (events, .fault (.derivation e))

/-- Generates sentences or trees from the grammar in a file, unless their number is negative. -/
def GenerateRequest.run (r : GenerateRequest) (limits : Limits) (entropy : Nat)
    (loaded : Except LoadError Grammar) : List Event × Ending :=
  if r.count.isNegative then refuseGenerate (r.count.display?.map .negativeCount)
  else withGrammar .generate r.file loaded (r.runWith limits entropy)

/-- Lists the symbols of a grammar. -/
def runSymbols (file : String) (loaded : Except LoadError Grammar) : List Event × Ending :=
  withGrammar .symbols file loaded fun g => ([.listing g.listing], .exit success)

/-- Holds a session over a grammar. -/
def runInteractive (file : String) (seed : Option Quantity) (depth entropy : Nat)
    (lines : List String) (loaded : Except LoadError Grammar) : List Event × Ending :=
  withGrammar .interactive file loaded fun g =>
    let (events, ending) := Session.run g depth (sourceOf entropy seed) lines
    (Session.opening g ++ events, ending)

/-! ### Levels and configurations -/

/-- Whether debug lines are shown at a log level, if it is one. -/
def showsDebug? : OptionValue → Option Bool
  | .text level => if logLevels.contains level then some (level == "DEBUG") else none
  | _ => none

/-- What a run does before it touches a file: the request and whether debug lines are shown, or what
is shown instead and the ending. -/
def prepare (config : Except ConfigError Config) (args : List String) :
    Except (List Event × Ending) (Request × Bool) :=
  match config with
  | .error (.undecodable fault) => .error ([], .fault (.undecodableConfiguration fault))
  | .error (.unreadable e) => .error ([], .fault (.unreadableConfiguration e))
  | .error e =>
    .error ([.complaint Command.generate.program (.configuration e)], .exit configurationError)
  | .ok config =>
    match request config args with
    | .error refusal => .error (refusal.events, refusal.ending)
    | .ok invocation =>
      match showsDebug? invocation.level with
      | none => .error ([], .fault (.unknownLevel invocation.level))
      | some debug => .ok (invocation.request, debug)

/-! ### Runs in a store -/

/-- What a run finds: a reader of TOML texts, the room for what it nests, files, what is typed, and
a seed for runs without one. -/
structure Environment where
  loads : Toml.Loader
  limits : Limits
  store : Store
  input : String
  entropy : Nat

/-- What is left of a run. -/
structure Report where
  events : List Event
  debug : Bool
  ending : Ending
  store : Store

/-- What a run writes to the output. -/
def Report.output (r : Report) : String :=
  outputOf r.events

/-- What a run writes to the error stream. -/
def Report.errors (r : Report) : String :=
  errorsOf r.debug r.events

/-- Shows the bundled configuration or writes it to a file. -/
def writeConfiguration (s : Store) : (output : Option String) → List Event × Ending × Store
  | none => ([.configuration], .exit success, s)
  | some path =>
    if path.isEmpty then ([.configuration], .exit success, s)
    else if Path.hasNul path then ([], .fault .nulInPath, s)
    else match s.write path (Text.Utf8.encode Config.bundledText.toList) with
      | .ok s => ([], .exit success, s)
      | .error e => ([], .fault (.refusedOutput e), s)

/-- Does what was asked for. -/
def Environment.perform (env : Environment) : Request → List Event × Ending × Store
  | .generate r =>
    let (events, ending) := r.run env.limits env.entropy (Grammar.load env.store r.file)
    (events, ending, env.store)
  | .symbols file =>
    let (events, ending) := runSymbols file (Grammar.load env.store file)
    (events, ending, env.store)
  | .interactive file seed =>
    let (events, ending) := runInteractive file seed env.limits.depth env.entropy
      (Text.typedLines env.input) (Grammar.load env.store file)
    (events, ending, env.store)
  | .config output => writeConfiguration env.store output

/-- A run of the program with the given arguments. -/
def Environment.run (env : Environment) (args : List String) : Report :=
  match prepare (Config.read env.loads (.ofStore env.store) none) args with
  | .error (events, ending) => ⟨events, false, ending, env.store⟩
  | .ok (request, debug) =>
    let (events, ending, store) := env.perform request
    ⟨events, debug, ending, store⟩

end SentenceGen.Cli
