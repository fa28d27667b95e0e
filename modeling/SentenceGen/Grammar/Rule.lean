import SentenceGen.Text.Lines

/-!
# Rules

A rule is written on one line, `symbol::=tokens|tokens|…`. The line holds the separator `::=` at
exactly one place, with a symbol in front of it. Behind it stand the alternatives, cut at the bars;
the tokens of an alternative are its words, and an alternative may have none.

`Rule.ofLine` reads a line and `Rule.line` writes one. Only the layout of the tokens is lost between
the two: writing puts one space between tokens and none elsewhere.
-/

namespace SentenceGen

/-- A sequence of tokens that a symbol can be expanded to. -/
abbrev Alternative := List String

/-- A nonterminal symbol with its alternatives, in the order in which they are written. -/
structure Rule where
  symbol : String
  alternatives : List Alternative
  deriving DecidableEq, Repr

/-- What keeps lines from being a grammar. -/
inductive GrammarError where
  | emptyGrammar
  | expectedOneSeparator (line : String)
  | missingNonterminal (line : String)
  | duplicateNonterminal (symbol : String)
  deriving DecidableEq, Repr

def GrammarError.message : GrammarError → String
  | .emptyGrammar => "empty grammar"
  | .expectedOneSeparator line => s!"expected exactly one \"::=\" in rule \"{line}\""
  | .missingNonterminal line => s!"missing nonterminal in rule \"{line}\""
  | .duplicateNonterminal symbol => s!"duplicate non-terminal {symbol}"

/-! ### Alternatives -/

/-- The alternatives that a text writes: the words between its bars. -/
def alternativesOf (text : String) : List Alternative :=
  (Text.cut (· == '|') text.toList).map fun piece => (Text.words piece).map String.ofList

/-- Alternatives with a bar between them and one space between tokens. -/
def alternativesText (alternatives : List Alternative) : String :=
  "|".intercalate (alternatives.map (" ".intercalate ·))

/-! ### Lines -/

/-- The text in front of the first `::=` and the text behind it. -/
def cutAtSeparator : List Char → Option (List Char × List Char)
  | [] => none
  | ':' :: ':' :: '=' :: rest => some ([], rest)
  | c :: rest => (cutAtSeparator rest).map fun (front, back) => (c :: front, back)

/-- The symbol and the right-hand side of a rule line. -/
def splitRule (line : String) : Except GrammarError (String × String) :=
  match cutAtSeparator line.toList with
  | none => .error (.expectedOneSeparator line)
  | some (symbol, expansions) =>
    if (cutAtSeparator expansions).isSome then .error (.expectedOneSeparator line)
    else if symbol.isEmpty then .error (.missingNonterminal line)
    else .ok (String.ofList symbol, String.ofList expansions)

/-- The rule that a line writes. -/
def Rule.ofLine (line : String) : Except GrammarError Rule :=
  (splitRule line).map fun (symbol, expansions) => ⟨symbol, alternativesOf expansions⟩

/-- The line that writes a rule. -/
def Rule.line (r : Rule) : String :=
  r.symbol ++ "::=" ++ alternativesText r.alternatives

/-- Adds the rule of a line behind the known rules, if its symbol is new. -/
def Rule.addLine (known : List Rule) (line : String) : Except GrammarError (List Rule) := do
  let r ← Rule.ofLine line
  if known.any (·.symbol == r.symbol) then throw (.duplicateNonterminal r.symbol)
  return known ++ [r]

/-- The rules that lines write, one a line. The first line that is malformed or defines a symbol for
a second time is reported. -/
def Rule.ofLines (lines : List String) : Except GrammarError (List Rule) :=
  lines.foldlM Rule.addLine []

/-- The rule lines of a text: its lines without the blanks around them, blank lines left out. -/
def ruleLines (text : String) : List String :=
  (Text.trimmedLines text.toList).map String.ofList

end SentenceGen
