import SentenceGen.Cli.Run
import SentenceGen.Config.History

/-!
# Setting up the commands

Before a run reads its arguments it sets up the commands, one after the other, and looks up the
default value of each option that can have one in a configuration (`setupLookups`). Every look-up
reads the configuration through the cache, so that only the first one looks at the files. A look-up
that gets no configuration complains in the name of the command that is being set up, and that is
the end of the run.

`Environment.runBySteps` is a run that goes about it in this way, where `Environment.run` reads the
configuration only once.
-/

namespace SentenceGen.Cli

/-- Where a look-up complains: on the error stream that the run was given, or on that of the
process, which may be another one. -/
inductive ErrorStream where
  | ofRun
  | ofProcess
  deriving DecidableEq, Repr

/-- A default value that is looked up for an option of a command. -/
structure Lookup where
  command : Command
  option : String
  stream : ErrorStream
  deriving DecidableEq, Repr

/-- The look-up for an option of a command, by what the option is for. -/
def Lookup.ofRole? (c : Command) : Role → Option Lookup
  | .symbol => some ⟨c, "--symbol", .ofRun⟩
  | .count => some ⟨c, "--num-sentences", .ofRun⟩
  | .pretty => some ⟨c, "--pretty-print", .ofRun⟩
  | .seed => some ⟨c, "--seed", .ofProcess⟩
  | .logLevel => some ⟨c, "--log-level", .ofProcess⟩
  | .help | .version | .tree | .output => none

/-- All look-ups, command by command and option by option. -/
def setupLookups : List Lookup :=
  Command.all.flatMap fun c => c.interface.options.filterMap fun o => Lookup.ofRole? c o.role

/-- A look-up for which there is no configuration, and why. -/
structure LookupError where
  lookup : Lookup
  reason : ConfigError
  deriving DecidableEq, Repr

namespace LookupError

/-- What is shown for it, and the ending. -/
def shown (e : LookupError) : List Event × Ending :=
  match e.reason with
  | .undecodable fault => ([], .fault (.undecodableConfiguration fault))
  | .unreadable e => ([], .fault (.unreadableConfiguration e))
  | reason =>
    ([.complaint e.lookup.command.program (.configuration reason)], .exit configurationError)

end LookupError

/-- Looks up a default value. -/
def Lookup.run (loads : Toml.Loader) (l : Lookup) :
    EStateM LookupError Config.State (Option OptionValue) := fun s =>
  match s.cache.read loads s.files none with
  | (.ok config, cache) => .ok (config.default? l.command.name l.option) { s with cache }
  | (.error e, cache) => .error ⟨l, e⟩ { s with cache }

/-- Looks up the default values of all commands. -/
def setUp (loads : Toml.Loader) : EStateM LookupError Config.State (List (Option OptionValue)) :=
  setupLookups.mapM (Lookup.run loads)

/-- A run that sets up the commands first, and then goes on with what the cache knows. -/
def Environment.runBySteps (env : Environment) (args : List String) : Report :=
  match setUp env.loads ⟨.ofStore env.store, .empty⟩ with
  | .error e _ => ⟨e.shown.1, false, e.shown.2, env.store⟩
  | .ok _ s =>
    match prepare (s.cache.read env.loads s.files none).1 args with
    | .error (events, ending) => ⟨events, false, ending, env.store⟩
    | .ok (request, debug) =>
      let (events, ending, store) := env.perform request
      ⟨events, debug, ending, store⟩

end SentenceGen.Cli
