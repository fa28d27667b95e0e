import SentenceGen.Config.Sources

/-!
# Configurations over time

While a program runs, configuration files are written and removed, and configurations are read
through a cache. `Step.run` is what one such step does to the files and the cache, and what it is
answered; `Step.runAll` takes several steps one after the other.
-/

namespace SentenceGen.Config

/-- The files as they are now, and what is known from earlier. -/
structure State where
  files : Files
  cache : ConfigCache
  deriving DecidableEq, Repr

/-- Something that happens to the files, or is asked. -/
inductive Step where
  /-- The file in the working directory is written or removed. -/
  | setWork (content : Option Found)
  /-- The file in the home directory is written or removed. -/
  | setHome (content : Option Found)
  /-- The configuration is read. -/
  | read (given : Option String)
  /-- A default value is looked up. -/
  | default (command option : String) (given : Option String)
  deriving DecidableEq, Repr

/-- What a step is answered. -/
inductive Reply where
  | done
  | config (result : Except ConfigError Config)
  | default (result : Except ConfigError (Option OptionValue))

/-- Does a step. -/
def Step.run (loads : Toml.Loader) : Step → State → Reply × State
  | setWork content, s => (.done, { s with files := { s.files with work := content } })
  | setHome content, s => (.done, { s with files := { s.files with home := content } })
  | read given, s =>
    let (result, cache) := s.cache.read loads s.files given
    (.config result, { s with cache })
  | default command option given, s =>
    let (result, cache) := s.cache.read loads s.files given
    (.default (result.map (·.default? command option)), { s with cache })

/-- Does steps one after the other. -/
def Step.runAll (loads : Toml.Loader) : List Step → State → List Reply × State
  | [], s => ([], s)
  | step :: steps, s =>
    let (reply, s) := step.run loads s
    let (replies, s) := runAll loads steps s
    (reply :: replies, s)

end SentenceGen.Config
