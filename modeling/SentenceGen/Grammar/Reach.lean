import SentenceGen.Grammar.Basic

/-!
# Reachable and productive symbols

A symbol **calls** the nonterminals in its alternatives, and it **reaches** itself and whatever the
symbols that it reaches call. It is **recursive** when it reaches itself by at least one call. A
symbol is **productive** when one of its alternatives holds no nonterminals but productive ones;
these are the symbols from which something can be derived.
-/

namespace SentenceGen.Grammar

/-- The token occurs in an alternative of the symbol. -/
def Mentions (g : Grammar) (symbol token : String) : Prop :=
  ∃ alternatives, g.alternatives? symbol = some alternatives ∧
    ∃ tokens ∈ alternatives, token ∈ tokens

/-- The symbol has an alternative with the nonterminal `callee` in it. -/
def Calls (g : Grammar) (symbol callee : String) : Prop :=
  g.Mentions symbol callee ∧ g.defines callee = true

/-- The second symbol can be reached from the first one by calls. -/
inductive Reaches (g : Grammar) : String → String → Prop
  | refl (symbol : String) : Reaches g symbol symbol
  | tail {symbol middle callee : String} (hreach : Reaches g symbol middle)
      (hcall : g.Calls middle callee) : Reaches g symbol callee

/-- The symbol can be reached from one that it calls. -/
def Recursive (g : Grammar) (symbol : String) : Prop :=
  ∃ callee, g.Calls symbol callee ∧ g.Reaches callee symbol

/-- Some alternative of the symbol has no nonterminals but productive ones. -/
inductive Productive (g : Grammar) : String → Prop
  | of_alternative {symbol : String} {alternatives : List Alternative} {tokens : Alternative}
      (hrule : g.alternatives? symbol = some alternatives) (hmem : tokens ∈ alternatives)
      (htokens : ∀ token ∈ tokens, g.defines token = true → Productive g token) :
      Productive g symbol

/-- The two grammars say the same about a token: both define it with the same alternatives, or none
of them does. -/
def AgreeOn (g h : Grammar) (token : String) : Prop :=
  g.alternatives? token = h.alternatives? token

end SentenceGen.Grammar
