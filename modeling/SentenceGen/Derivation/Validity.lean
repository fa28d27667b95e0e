import SentenceGen.Derivation.Tree
import SentenceGen.Grammar.Basic

/-!
# Derivation trees of a grammar

`Grammar.Derives g symbol t` says by the rules of the grammar alone, without any choosing, that `t`
is a **derivation tree** for a symbol. Its root is labelled by the symbol, and its children stand
for the tokens of one alternative: a token that is a nonterminal is the root of a derivation tree,
any other token is a leaf, and an alternative without tokens leaves a single empty leaf.
-/

namespace SentenceGen.Grammar

mutual
/-- The tree is a derivation tree for a symbol. -/
inductive Derives (g : Grammar) : String → Tree → Prop
  | empty {symbol : String} {alternatives : List Alternative}
      (hrule : g.alternatives? symbol = some alternatives) (hmem : [] ∈ alternatives) :
      Derives g symbol (.node symbol [.leaf ""])
  | expansion {symbol : String} {alternatives : List Alternative} {token : String}
      {tokens : List String} {children : List Tree}
      (hrule : g.alternatives? symbol = some alternatives) (hmem : token :: tokens ∈ alternatives)
      (hchildren : DerivesTokens g (token :: tokens) children) :
      Derives g symbol (.node symbol children)

/-- The trees stand for the tokens, one for each. -/
inductive DerivesTokens (g : Grammar) : List String → List Tree → Prop
  | nil : DerivesTokens g [] []
  | terminal {token : String} {tokens : List String} {children : List Tree}
      (hterminal : g.defines token = false) (hrest : DerivesTokens g tokens children) :
      DerivesTokens g (token :: tokens) (.leaf token :: children)
  | nonterminal {token : String} {tokens : List String} {child : Tree} {children : List Tree}
      (hchild : Derives g token child) (hrest : DerivesTokens g tokens children) :
      DerivesTokens g (token :: tokens) (child :: children)
end

end SentenceGen.Grammar
