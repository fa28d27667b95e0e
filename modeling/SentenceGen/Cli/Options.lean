import SentenceGen.Text.Quoted

/-!
# The options of the command line

The program has two options of its own and four commands, each with options and with at most one
file behind it. An `Interface` lists what one of these levels takes; everything that reads arguments
or writes help goes by the interfaces.
-/

namespace SentenceGen.Cli

/-- What the program can be told to do. -/
inductive Command where
  | generate
  | symbols
  | interactive
  | config
  deriving DecidableEq, Repr

namespace Command

def name : Command → String
  | generate => "generate"
  | symbols => "symbols"
  | interactive => "interactive"
  | config => "config"

/-- All commands, in the order in which they are listed. -/
def all : List Command := [generate, symbols, interactive, config]

/-- The command with a name. -/
def ofName? (s : String) : Option Command :=
  all.find? (·.name == s)

/-- The name of the program with the command behind it. -/
def program (c : Command) : String :=
  "grammargen " ++ c.name

end Command

/-- What an option is for. -/
inductive Role where
  | help
  | version
  | symbol
  | count
  | tree
  | pretty
  | seed
  | logLevel
  | output
  deriving DecidableEq, Repr

/-- How an option is used: with an argument, which has a name in the help; as a switch; or as a
switch that has spellings to turn it on and off. -/
inductive Use where
  | argument (name : String)
  | switch
  | onOff
  deriving DecidableEq, Repr

/-- An option with its spellings, the first of which stands in the usage line. -/
structure OptionSpec where
  role : Role
  spellings : List String
  use : Use
  about : String
  deriving DecidableEq, Repr

/-- The option takes an argument. -/
def OptionSpec.takesArgument (o : OptionSpec) : Bool :=
  match o.use with
  | .argument _ => true
  | _ => false

/-- All spellings of an option, as messages name it. -/
def OptionSpec.fullName (o : OptionSpec) : String :=
  "/".intercalate o.spellings

/-- What stands behind the options. -/
inductive Operands where
  | nothing
  | file
  | command
  deriving DecidableEq, Repr

/-- What the program, or one of its commands, takes. -/
structure Interface where
  program : String
  about : String
  options : List OptionSpec
  operands : Operands
  deriving DecidableEq, Repr

/-! ### The log levels -/

def logLevels : List String := ["ERROR", "WARNING", "INFO", "DEBUG"]

/-- Texts in braces, with commas between them. -/
def inBraces (texts : List String) : String :=
  "\x7b" ++ ",".intercalate texts ++ "\x7d"

/-! ### The options -/

def helpOption : OptionSpec :=
  ⟨.help, ["-h", "--help"], .switch, "show this help message and exit"⟩

def versionOption : OptionSpec :=
  ⟨.version, ["-v", "--version"], .switch, "Print the grammargen version number"⟩

def symbolOption : OptionSpec :=
  ⟨.symbol, ["-s", "--symbol"], .argument "SYMBOL",
    "the nonterminal symbol to derive sentences from, e.g., `<s>`"⟩

def countOption : OptionSpec :=
  ⟨.count, ["-n", "--num-sentences"], .argument "NUM_SENTENCES",
    "the number of sentences to generate"⟩

def treeOption : OptionSpec :=
  ⟨.tree, ["-t", "--tree"], .switch,
    "print the derivation tree of each sentence as JSON instead of the sentence itself"⟩

def prettyOption : OptionSpec :=
  ⟨.pretty, ["-p", "--pretty-print", "--no-pretty-print"], .onOff,
    "if this flag is set, JSON derivation trees are printed on multiple lines with " ++
      "indentation; otherwise each tree is printed on a single line"⟩

def seedOption : OptionSpec :=
  ⟨.seed, ["--seed"], .argument "SEED",
    "seed for the random choices, for reproducible sentences"⟩

def logLevelOption : OptionSpec :=
  ⟨.logLevel, ["-l", "--log-level"], .argument (inBraces logLevels), "set the logging level"⟩

def outputOption : OptionSpec :=
  ⟨.output, ["-o", "--output-file"], .argument "OUTPUT_FILE",
    "The file into which to write the current default `.grammargenrc`. If no file is given, the " ++
      "configuration is printed to stdout"⟩

/-! ### The interfaces -/

/-- What the program itself takes. -/
def mainInterface : Interface where
  program := "grammargen"
  about := "Generates random sentences from grammars in simple BNF notation. Each line of a " ++
    "grammar file defines a nonterminal by a rule `<symbol>::=alt1|alt2|...`, where the " ++
    "alternatives are sequences of nonterminals and terminal words separated by whitespace."
  options := [helpOption, versionOption]
  operands := .command

/-- What a command takes. -/
def Command.interface : Command → Interface
  | generate =>
    { program := generate.program
      about := "Generate random sentences derived from a nonterminal symbol of a grammar. Each " ++
        "sentence is printed on its own line."
      options := [helpOption, symbolOption, countOption, treeOption, prettyOption, seedOption,
        logLevelOption]
      operands := .file }
  | symbols =>
    { program := symbols.program
      about := "Print the nonterminal symbols defined by a grammar, in lexicographic order."
      options := [helpOption, logLevelOption]
      operands := .file }
  | interactive =>
    { program := interactive.program
      about := "Print the symbols of a grammar and then repeatedly ask for a symbol and the " ++
        "number of sentences to generate for it. An empty symbol ends the session."
      options := [helpOption, seedOption, logLevelOption]
      operands := .file }
  | config =>
    { program := config.program
      about := "Dumps the default `.grammargenrc` configuration file."
      options := [helpOption, outputOption]
      operands := .nothing }

/-- What a command does, in a line of the help. -/
def Command.about : Command → String
  | generate => "generate random sentences from a grammar"
  | symbols => "list the nonterminal symbols of a grammar"
  | interactive => "repeatedly generate sentences for symbols read from standard input"
  | config => "dumps the default configuration file"

/-- What the help calls the file behind the options. -/
def fileOperand : String := "GRAMMAR_FILE"

/-- What the help says about the file behind the options. -/
def fileAbout : String :=
  "A grammar file with one rule `<symbol>::=alt1|alt2|...` per line. Blank lines and " ++
    "whitespace around lines are ignored"

/-! ### Errors of usage -/

/-- What is wrong with the arguments of the program or of a command. -/
inductive UsageError where
  | ambiguousOption (text : String) (candidates : List String)
  | argumentExpected (o : OptionSpec)
  | argumentIgnored (o : OptionSpec) (text : String)
  | invalidInteger (o : OptionSpec) (text : String)
  | invalidLevel (text : String)
  | invalidCommand (text : String)
  | fileRequired
  | unrecognized (texts : List String)
  deriving DecidableEq, Repr

/-- Quoted texts with commas between them. -/
def quotedChoices (texts : List String) : String :=
  ", ".intercalate (texts.map Text.quote)

def UsageError.message : UsageError → String
  | ambiguousOption text candidates =>
    s!"ambiguous option: {text} could match " ++ ", ".intercalate candidates
  | argumentExpected o => s!"argument {o.fullName}: expected one argument"
  | argumentIgnored o text =>
    s!"argument {o.fullName}: ignored explicit argument {Text.quote text}"
  | invalidInteger o text => s!"argument {o.fullName}: invalid int value: {Text.quote text}"
  | invalidLevel text =>
    s!"argument {logLevelOption.fullName}: invalid choice: {Text.quote text} " ++
      s!"(choose from {quotedChoices logLevels})"
  | invalidCommand text =>
    s!"argument command: invalid choice: {Text.quote text} " ++
      s!"(choose from {quotedChoices (Command.all.map Command.name)})"
  | fileRequired => s!"the following arguments are required: {fileOperand}"
  | unrecognized texts => "unrecognized arguments: " ++ " ".intercalate texts

end SentenceGen.Cli
