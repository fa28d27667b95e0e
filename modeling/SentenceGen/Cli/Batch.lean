import SentenceGen.Cli.Transcript
import SentenceGen.Derivation.TreeText

/-!
# Batches

A batch repeats one draw from a chooser a number of times and tells each as an event. It stops at
the first draw that fails, with what was told up to there.

How deep a derivation, or a JSON text, may be nested is a matter of the room that a run has
(`Limits`). What needs more fails in the same way, be it the derivation or the text.
-/

namespace SentenceGen.Cli

/-- How deep a run may descend: the expansions of a derivation inside one another, and the arrays of
a JSON text inside one another, in either layout. -/
structure Limits where
  depth : Nat
  nesting : Json.Layout → Nat

/-- The room that a stack of a thousand frames leaves: two of them go to each expansion, and one to
each array. -/
def Limits.usual : Limits where
  depth := 496
  nesting _ := 991

variable {σ ε : Type}

/-- Draws so many times, from a state on. -/
def batch (draw : EStateM ε σ Event) : (count : Nat) → σ → List Event × Except ε σ
  | 0, s => ([], .ok s)
  | count + 1, s =>
    match draw s with
    | .error e _ => ([], .error e)
    | .ok event s =>
      let (events, result) := batch draw count s
      (event :: events, result)

/-- Draws a sentence. -/
def drawSentence (g : Grammar) (c : Chooser σ ε) (depth : Nat) (symbol : String) :
    EStateM (DerivationError ε) σ Event :=
  Event.sentence symbol <$> g.generate c depth symbol

/-- Draws a derivation tree. -/
def drawDocument (g : Grammar) (c : Chooser σ ε) (limits : Limits) (layout : Json.Layout)
    (symbol : String) : EStateM (DerivationError ε) σ Event := do
  let t ← g.derive c limits.depth symbol
  match t.jsonText? (limits.nesting layout) layout with
  | some text => return .document text
  | none => throw .tooDeep

end SentenceGen.Cli
