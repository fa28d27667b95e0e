import SentenceGen.Config.Basic
import SentenceGen.Files.Store

/-!
# Where configurations come from

There are four sources, the first one first: a text that is given, the file `.grammargenrc` in the
working directory, the file of that name in the home directory, and the bundled text. Whatever is
there under this name is read, before any text is looked at; a directory is there, and refused.

A `ConfigCache` keeps what was read: for each given text, and for none, the configuration of the
first time that there was one. It has room for `ConfigCache.capacity` of them, and forgets the one
that was not used for the longest time.
-/

namespace SentenceGen.Config

/-- The name of configuration files. -/
def fileName : String := ".grammargenrc"

/-- The text of the bundled configuration, which lists the options that have a default. -/
def bundledText : String :=
"# Default configuration for the grammargen command line interface.
#
# Place a modified copy of this file as `.grammargenrc` in the current working
# directory or your home directory. Each table maps a command (\"default\" is the
# fallback for all commands) to default values for its options.

[[defaults.default]]
\"--log-level\" = \"WARNING\"

[[defaults.generate]]
\"--symbol\" = \"<s>\"
\"--num-sentences\" = 1

[[defaults.interactive]]
\"--log-level\" = \"ERROR\"
"

/-- What is found of the configuration files in the working directory and in the home directory. -/
structure Files where
  work : Option Found
  home : Option Found
  deriving DecidableEq, Repr

/-- The configuration files of a store. -/
def Files.ofStore (s : Store) : Files :=
  ⟨s.inWorkDir? fileName, s.inHomeDir? fileName⟩

/-- The text of a configuration file. -/
def textOf : Found → Except ConfigError String
  | .bytes content => (textOfBytes content).mapError .undecodable
  | .refused e => .error (.unreadable e)

/-- The texts of all sources, the first one first. -/
def sourceTexts (files : Files) (given : Option String) : Except ConfigError (List String) := do
  let texts ← ([files.work, files.home].filterMap id).mapM textOf
  return given.toList ++ texts ++ [bundledText]

/-- The configuration that the sources write together. -/
def read (loads : Toml.Loader) (files : Files) (given : Option String) :
    Except ConfigError Config := do
  ofTexts loads (← sourceTexts files given)

end SentenceGen.Config

namespace SentenceGen

/-- The configurations that were read, by the text that was given, the one used last first. -/
structure ConfigCache where
  known : List (Option String × Config)
  deriving DecidableEq, Repr

namespace ConfigCache

/-- How many configurations are kept. -/
def capacity : Nat := 128

/-- The cache in which nothing is known. -/
def empty : ConfigCache := ⟨[]⟩

/-- Puts the configuration for a given text in front. -/
def use (cache : ConfigCache) (given : Option String) (config : Config) : ConfigCache :=
  ⟨((given, config) :: cache.known.filter (·.1 != given)).take capacity⟩

/-- The configuration that is known for a given text, or else the one that is read now, which is
known from then on. An error is not kept. -/
def read (loads : Toml.Loader) (cache : ConfigCache) (files : Config.Files)
    (given : Option String) : Except ConfigError Config × ConfigCache :=
  match cache.known.lookup given with
  | some config => (.ok config, cache.use given config)
  | none =>
    match Config.read loads files given with
    | .ok config => (.ok config, cache.use given config)
    | .error e => (.error e, cache)

end ConfigCache

end SentenceGen
