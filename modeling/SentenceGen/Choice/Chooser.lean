/-!
# Choosers

A chooser answers, for a number `n` of alternatives, with the number of the one to take. It has a
state, so that its answers may depend on what it was asked before, and it may fail. Nothing binds it
to answer below `n`: whoever asks has to look.

`Chooser.recording` is the chooser that answers the same and keeps the numbers it was asked.
-/

namespace SentenceGen

/-- A way to choose among alternatives, with states `σ` and failures `ε`. -/
structure Chooser (σ ε : Type) where
  ask : Nat → EStateM ε σ Int

namespace Chooser

variable {σ ε : Type}

/-- Answers like `c`, with the numbers of alternatives asked for so far beside the state. -/
def recording (c : Chooser σ ε) : Chooser (σ × List Nat) ε where
  ask n := fun (s, asked) =>
    match c.ask n s with
    | .ok i s' => .ok i (s', asked ++ [n])
    | .error e s' => .error e (s', asked ++ [n])

/-- Every answer for `n ≥ 1` alternatives is the number of one of them. -/
def Honest (c : Chooser σ ε) : Prop :=
  ∀ n s, 0 < n → ∃ i s', c.ask n s = .ok (i : Int) s' ∧ 0 ≤ i ∧ i < (n : Int)

end Chooser

end SentenceGen
