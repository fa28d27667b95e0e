import SentenceGen.Grammar.Rule
import SentenceGen.Text.Quoted

/-!
# Grammars

A grammar is its rules in the order of their lines. Which tokens are nonterminal is for the grammar
to say: those that some rule defines.

`Grammar.ofLines` builds a grammar and `Grammar.lines` writes it out, in a form that reads back as
the same grammar.
-/

namespace SentenceGen

/-- The rules of a grammar, in the order of their lines. -/
structure Grammar where
  rules : List Rule
  deriving DecidableEq, Repr

/-- A list of symbols in ascending order of code points, in brackets. -/
def symbolListing (symbols : List String) : String :=
  "[" ++ ", ".intercalate (symbols.mergeSort fun a b => decide (a ≤ b)) ++ "]"

/-- What keeps a question about a grammar from being answered. -/
inductive QueryError where
  | emptySymbol
  deriving DecidableEq, Repr

def QueryError.message : QueryError → String
  | .emptySymbol => "symbol must be a non-empty string"

namespace Grammar

/-- The grammar of the given rule lines, of which there must be one. -/
def ofLines (lines : List String) : Except GrammarError Grammar :=
  if lines.isEmpty then .error .emptyGrammar else mk <$> Rule.ofLines lines

/-- The grammar of lines that may not have been given; then there are none. -/
def ofGivenLines (lines : Option (List String)) : Except GrammarError Grammar :=
  ofLines (lines.getD [])

/-- The grammar that a text writes, one rule a line. -/
def ofText (text : String) : Except GrammarError Grammar :=
  ofLines (ruleLines text)

/-- The nonterminal symbols, in the order of their rules. -/
def symbols (g : Grammar) : List String :=
  g.rules.map (·.symbol)

/-- The alternatives of a symbol, if a rule defines it. -/
def alternatives? (g : Grammar) (symbol : String) : Option (List Alternative) :=
  (g.rules.find? (·.symbol == symbol)).map (·.alternatives)

/-- Some rule defines the token. -/
def defines (g : Grammar) (token : String) : Bool :=
  g.rules.any (·.symbol == token)

/-- Whether a symbol is a nonterminal of the grammar; no symbol and the empty one are no
question. -/
def contains (g : Grammar) : Option String → Except QueryError Bool
  | none => .error .emptySymbol
  | some symbol => if symbol.isEmpty then .error .emptySymbol else .ok (g.defines symbol)

/-- The nonterminal symbols in ascending order, in brackets. -/
def listing (g : Grammar) : String :=
  symbolListing g.symbols

/-- The lines that write the grammar. -/
def lines (g : Grammar) : List String :=
  g.rules.map Rule.line

/-- A display of the grammar as its quoted lines. -/
def display (g : Grammar) : String :=
  "GrammarTable(" ++ Text.quoteList g.lines ++ ")"

theorem defines_eq_isSome (g : Grammar) (token : String) :
    g.defines token = (g.alternatives? token).isSome := by
  simp [defines, alternatives?, List.isSome_find?]

@[simp] theorem defines_iff_mem_symbols {g : Grammar} {token : String} :
    g.defines token = true ↔ token ∈ g.symbols := by
  simp [defines, symbols]

end Grammar

end SentenceGen
