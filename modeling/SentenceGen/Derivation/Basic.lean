import SentenceGen.Choice.Chooser
import SentenceGen.Derivation.Tree
import SentenceGen.Grammar.Basic
import SentenceGen.Text.Numeral

/-!
# Derivations

`Grammar.expand` derives a tree from a nonterminal: it asks a chooser for one of the alternatives
and then, token by token from the left, expands the tokens that are nonterminals and makes leaves of
the others. An alternative without tokens leaves one empty leaf.

Nothing keeps a grammar from recursing for ever, so expansions are nested at most `depth` deep, and
one that would be nested deeper fails with `DerivationError.tooDeep`. The state of the chooser after
a failed derivation is that after the last question.
-/

namespace SentenceGen

/-- Why no tree is derived. An index that is out of range is named by its digits; one with too many
digits to be written is an error of its own, which names nothing. -/
inductive DerivationError (ε : Type) where
  | unknownSymbol (symbol : String)
  | outOfRange (index : Int) (count : Nat) (symbol : String)
  | unwritableIndex
  | choice (error : ε)
  | tooDeep
  deriving DecidableEq, Repr

namespace DerivationError

/-- The error for an index that is out of range. -/
def ofIndex {ε : Type} (index : Int) (count : Nat) (symbol : String) : DerivationError ε :=
  if Text.isWritable index then outOfRange index count symbol else unwritableIndex

@[simp] theorem ofIndex_ne_tooDeep {ε : Type} (index : Int) (count : Nat) (symbol : String) :
    (ofIndex index count symbol : DerivationError ε) ≠ tooDeep := by
  rw [ofIndex]
  split <;> simp

/-- The message of an error, given the messages of the chooser; nesting too deep has none. -/
def message {ε : Type} (choiceMessage : ε → String) : DerivationError ε → Option String
  | unknownSymbol symbol => some s!"unknown symbol {symbol}"
  | outOfRange index count symbol =>
    some s!"choice {index} out of range for {count} alternatives of {symbol}"
  | unwritableIndex => some Text.tooManyDigits
  | choice error => some (choiceMessage error)
  | tooDeep => none

end DerivationError

namespace Grammar

variable {σ ε : Type}

/-- The alternative with the number `index`, if there is one. -/
def select? (alternatives : List Alternative) (index : Int) : Option Alternative :=
  if index < 0 then none else alternatives[index.toNat]?

/-- Asks for one of the alternatives of a symbol. -/
def choose (c : Chooser σ ε) (symbol : String) (alternatives : List Alternative) :
    EStateM (DerivationError ε) σ Alternative := fun s =>
  match c.ask alternatives.length s with
  | .error e s => .error (.choice e) s
  | .ok index s =>
    match select? alternatives index with
    | none => .error (.ofIndex index alternatives.length symbol) s
    | some tokens => .ok tokens s

/-- Does to each token what `act` does, from left to right, up to the first failure. -/
def forTokens {α : Type} (act : String → EStateM (DerivationError ε) σ α) :
    List String → EStateM (DerivationError ε) σ (List α)
  | [] => pure []
  | token :: tokens => do
    let a ← act token
    let rest ← forTokens act tokens
    return a :: rest

/-- Derives a tree from a nonterminal, with at most `depth` expansions inside one another. -/
def expand (g : Grammar) (c : Chooser σ ε) :
    (depth : Nat) → (symbol : String) → EStateM (DerivationError ε) σ Tree
  | 0, _ => throw .tooDeep
  | depth + 1, symbol => do
    let tokens ← choose c symbol ((g.alternatives? symbol).getD [])
    if tokens.isEmpty then return .node symbol [.leaf ""]
    let children ← forTokens
      (fun token => if g.defines token then expand g c depth token else pure (.leaf token)) tokens
    return .node symbol children

/-- Derives a tree from a symbol of the grammar. -/
def derive (g : Grammar) (c : Chooser σ ε) (depth : Nat) (symbol : String) :
    EStateM (DerivationError ε) σ Tree :=
  if g.defines symbol then g.expand c depth symbol else throw (.unknownSymbol symbol)

/-- Derives a sentence from a symbol of the grammar. -/
def generate (g : Grammar) (c : Chooser σ ε) (depth : Nat) (symbol : String) :
    EStateM (DerivationError ε) σ String :=
  Tree.sentence <$> g.derive c depth symbol

end Grammar

end SentenceGen
