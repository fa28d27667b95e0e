import SentenceGen.Cli.Options
import SentenceGen.Config.Sources
import SentenceGen.Choice.Source
import SentenceGen.Derivation.Basic
import SentenceGen.Grammar.Load

/-!
# What a run shows

A run is told as a list of **events**, in the order in which they happen, and an **ending**. What an
event writes to the output and to the error stream is fixed by `Event.output` and `Event.errors`;
the log level decides about nothing but the debug lines in the latter.

A **complaint** is told to the user and leads to an exit code. A **fault** is something that the
program does not deal with; it ends the run where it stands.
-/

namespace SentenceGen.Cli

/-- The version of the program. -/
def version : String := "0.1.0"

/-! ### Complaints -/

/-- What a user is told about a run that does not go on, or about an answer that is not taken. -/
inductive Complaint where
  | noCommand
  | usage (e : UsageError)
  | configuration (e : ConfigError)
  | negativeCount (count : String)
  | unknownSymbol (symbol listing : String)
  | notANumber (answer : String)
  | loading (path : String) (e : LoadError)
  deriving DecidableEq, Repr

def Complaint.message : Complaint → String
  | noCommand =>
    "You have to choose a global option or one of the commands `generate`, `symbols`, " ++
      "`interactive`, or `config`"
  | usage e => e.message
  | configuration e => s!"could not load .grammargenrc ({e.message})"
  | negativeCount count => s!"the number of sentences must not be negative (got {count})"
  | unknownSymbol symbol listing => s!"unknown symbol {symbol}; available symbols are {listing}"
  | notANumber answer => s!"\"{answer}\" is not a number"
  | loading path e =>
    s!"A {e.className} occurred while loading the grammar file {path} ({e.message})"

/-! ### Events -/

/-- What a session asks for. -/
inductive Question where
  | symbol
  | count
  deriving DecidableEq, Repr

def Question.text : Question → String
  | symbol => "Which symbol do you want to generate (Enter to quit)? "
  | count => "How many do you want me to generate? "

/-- Something that a run shows. -/
inductive Event where
  /-- The help of the program or a command. -/
  | help (text : String)
  /-- The version of the program. -/
  | version
  /-- The usage of the program or a command, in front of a complaint. -/
  | usage (text : String)
  /-- A complaint, in the name of the program or a command. -/
  | complaint (program : String) (c : Complaint)
  /-- The bundled configuration. -/
  | configuration
  /-- A grammar with these symbols has been loaded. -/
  | loaded (symbols : List String)
  /-- The listing of the symbols of a grammar. -/
  | listing (text : String)
  /-- The line above the listing in a session. -/
  | heading
  | question (q : Question)
  /-- A sentence that was derived from a symbol. -/
  | sentence (symbol text : String)
  /-- The JSON text of a derivation tree. -/
  | document (text : String)
  /-- The end of the sentences that a session was asked for. -/
  | batchEnd
  deriving DecidableEq, Repr

namespace Event

/-- What an event writes to the output. -/
def output : Event → String
  | help text => text
  | version => s!"grammargen version {Cli.version}\n"
  | configuration => Config.bundledText ++ "\n"
  | listing text => text ++ "\n"
  | heading => "Available symbols to generate are:\n"
  | question q => q.text
  | sentence _ text => text ++ "\n"
  | document text => text ++ "\n"
  | batchEnd => "\n"
  | usage _ => ""
  | complaint _ _ => ""
  | loaded _ => ""

/-- The debug line of an event. -/
def debugLine : Event → String
  | loaded symbols =>
    s!"DEBUG:GrammarTable:Loaded {symbols.length} rules for " ++ ", ".intercalate symbols ++ "\n"
  | sentence symbol text => s!"DEBUG:GrammarTable:Generated \"{text}\" from {symbol}\n"
  | _ => ""

/-- What an event writes to the error stream at any log level. -/
def report : Event → String
  | usage text => text
  | complaint program c => s!"{program}: error: {c.message}\n"
  | _ => ""

/-- What an event writes to the error stream. -/
def errors (debug : Bool) (e : Event) : String :=
  e.report ++ if debug then e.debugLine else ""

end Event

/-- What events write to the output. -/
def outputOf (events : List Event) : String :=
  String.join (events.map Event.output)

/-- What events write to the error stream. -/
def errorsOf (debug : Bool) (events : List Event) : String :=
  String.join (events.map (Event.errors debug))

/-! ### Endings -/

/-- What a run does not deal with. -/
inductive Fault where
  | undecodableConfiguration (fault : Text.Utf8.Fault)
  | unreadableConfiguration (e : PathError)
  | unknownLevel (level : OptionValue)
  | fractionalCount
  /-- An integer was to be shown that has too many digits. -/
  | tooManyDigits
  | derivation (e : DerivationError SourceError)
  | refusedOutput (e : PathError)
  | nulInPath
  deriving DecidableEq, Repr

/-- The message of a fault. Nesting too deep has none, and neither has a level that cannot be
written. -/
def Fault.message : Fault → Option String
  | undecodableConfiguration fault => some fault.message
  | unreadableConfiguration e => some e.message
  | unknownLevel level => level.quoted?
  | fractionalCount => some "'float' object cannot be interpreted as an integer"
  | tooManyDigits => some Text.tooManyDigits
  | derivation e => e.message SourceError.message
  | refusedOutput e => some e.message
  | nulInPath => some LoadError.nulInPath.message

/-- How a run ends. -/
inductive Ending where
  | exit (code : Nat)
  | fault (f : Fault)
  deriving DecidableEq, Repr

/-- The exit code of a run that has done what it was told. -/
def success : Nat := 0

/-- The exit code for a bad configuration. -/
def configurationError : Nat := 1

/-- The exit code for arguments that make no sense. -/
def usageError : Nat := 2

/-- The exit code for a file that is no grammar. -/
def dataError : Nat := 65

end SentenceGen.Cli
