import SentenceGen.Derivation.Basic

/-!
# Sentences without trees

`Grammar.speak` derives a sentence by recursion on texts alone: the text of a symbol is the join of
the texts of the tokens of an alternative, and no tree is built. It asks the same questions as
`Grammar.generate`, but joins and trims at every level where that does so once at the end.
-/

namespace SentenceGen.Grammar

variable {σ ε : Type}

/-- Derives a text from a nonterminal, with at most `depth` expansions inside one another. -/
def speak (g : Grammar) (c : Chooser σ ε) :
    (depth : Nat) → (symbol : String) → EStateM (DerivationError ε) σ String
  | 0, _ => throw .tooDeep
  | depth + 1, symbol => do
    let tokens ← choose c symbol ((g.alternatives? symbol).getD [])
    let pieces ← forTokens
      (fun token => if g.defines token then speak g c depth token else pure token) tokens
    return Text.trimString (joinPieces pieces)

end SentenceGen.Grammar
