import SentenceGen.Main
import SentenceGen.Config.History
import SentenceGen.Derivation.Direct
import SentenceGen.Derivation.Query
import SentenceGen.Derivation.Rewriting
import SentenceGen.Derivation.Validity
import SentenceGen.Grammar.Reach
import SentenceGen.Json.Reader
import SentenceGen.Text.Unquoted
import SentenceGen.Cli.SetUp
import SentenceGen.Proofs.Text.Pieces
import SentenceGen.Proofs.Text.Joins
import SentenceGen.Proofs.Text.Lines
import SentenceGen.Proofs.Text.Utf8
import SentenceGen.Proofs.Grammar.RuleLine
import SentenceGen.Proofs.Grammar.WellFormed
import SentenceGen.Proofs.Grammar.NormalForm
import SentenceGen.Proofs.Grammar.Reload
import SentenceGen.Proofs.Derivation.Expansion
import SentenceGen.Proofs.Derivation.Sentence
import SentenceGen.Proofs.Derivation.Trees
import SentenceGen.Proofs.Derivation.Rewriting
import SentenceGen.Proofs.Derivation.Leftmost
import SentenceGen.Proofs.Derivation.Productive
import SentenceGen.Proofs.Derivation.Words
import SentenceGen.Proofs.Derivation.Acyclic
import SentenceGen.Proofs.Text.Numeral
import SentenceGen.Proofs.Cli.CommandLine
import SentenceGen.Proofs.Cli.SeededRuns
import SentenceGen.Proofs.Cli.SessionRun
import SentenceGen.Proofs.Cli.Agreement
import SentenceGen.Proofs.Text.Hex
import SentenceGen.Proofs.Json.RoundTrip
import SentenceGen.Proofs.Derivation.TreeText
import SentenceGen.Proofs.Cli.SessionStep
import SentenceGen.Proofs.Cli.Rejections
import SentenceGen.Proofs.Cli.SessionEnd
import SentenceGen.Proofs.Cli.TreeRuns
import SentenceGen.Proofs.Lookup
import SentenceGen.Proofs.Toml.UniqueKeys
import SentenceGen.Proofs.Config.Merge
import SentenceGen.Proofs.Files.ConfigFiles
import SentenceGen.Proofs.Cli.Masking
import SentenceGen.Proofs.Cli.Outcomes
import SentenceGen.Proofs.Derivation.Picks
import SentenceGen.Proofs.Derivation.QueryRuns
import SentenceGen.Proofs.Derivation.Relevance
import SentenceGen.Proofs.Grammar.Listing
import SentenceGen.Proofs.Config.DefaultValue
import SentenceGen.Proofs.Derivation.RuleOrder
import SentenceGen.Proofs.Config.Rejection
import SentenceGen.Proofs.Config.FirstSuccess
import SentenceGen.Proofs.Config.Absorption
import SentenceGen.Proofs.Cli.Endings
import SentenceGen.Proofs.Cli.ListedSymbols
import SentenceGen.Proofs.Cli.ConfigDump
import SentenceGen.Proofs.Derivation.Failures
import SentenceGen.Proofs.Derivation.HonestChoices
import SentenceGen.Proofs.Derivation.Direct
import SentenceGen.Proofs.Cli.LevelWords
import SentenceGen.Proofs.Cli.DebugLines
import SentenceGen.Proofs.Derivation.Flattening
import SentenceGen.Proofs.Derivation.PickCodes
import SentenceGen.Proofs.Grammar.Acceptance
import SentenceGen.Proofs.Text.Gaps
import SentenceGen.Proofs.Grammar.Alternatives
import SentenceGen.Proofs.Text.Quoted
import SentenceGen.Proofs.Files.ReadBack
import SentenceGen.Proofs.Grammar.Loading
import SentenceGen.Proofs.Grammar.Display
import SentenceGen.Proofs.Grammar.SeparatorCount
import SentenceGen.Proofs.Grammar.TextLines
import SentenceGen.Proofs.Cli.SetUp
