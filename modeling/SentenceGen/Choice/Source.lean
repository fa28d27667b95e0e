import SentenceGen.Choice.Chooser
import SentenceGen.Choice.Twister

/-!
# Sources of choices

The ways in which choices are made: from a list of picks, once or over and over; always the first or
always the last alternative; and by one of two generators, a linear congruential one or the Mersenne
Twister. `Source.chooser` asks a source, and the state of the chooser is the source that is left.
-/

namespace SentenceGen

/-- What a choice can be taken from. -/
inductive Source where
  | script (picks : List Int)
  | cycle (picks ahead : List Int)
  | first
  | last
  | congruential (state : Nat)
  | twister (t : Twister)
  deriving Repr

/-- Why a source gives no choice. -/
inductive SourceError where
  | exhausted
  | emptyRange
  deriving DecidableEq, Repr

def SourceError.message : SourceError → String
  | .exhausted => "no more picks"
  | .emptyRange => "empty range for randrange()"

namespace Source

/-- Picks that are taken from the start again when all were taken. -/
def cycling (picks : List Int) : Source :=
  cycle picks picks

/-- The linear congruential generator with modulus `2 ^ 31`. -/
def linear (seed : Int) : Source :=
  congruential (seed.emod 0x80000000).toNat

/-- The Mersenne Twister, which takes the absolute value of a seed. -/
def seeded (seed : Int) : Source :=
  twister (Twister.ofNat seed.natAbs)

/-- A choice among `n` alternatives. -/
def ask (n : Nat) : EStateM SourceError Source Int
  | script [] => .error .exhausted (script [])
  | script (p :: picks) => .ok p (script picks)
  | cycle picks (p :: ahead) => .ok p (cycle picks ahead)
  | cycle [] [] => .error .exhausted (cycle [] [])
  | cycle (p :: picks) [] => .ok p (cycle (p :: picks) picks)
  | first => .ok 0 first
  | last => .ok ((n : Int) - 1) last
  | congruential state =>
    let state := (state * 1103515245 + 12345) % 0x80000000
    .ok (state / 0x10000 % n : Nat) (congruential state)
  | twister t =>
    if n = 0 then .error .emptyRange (twister t)
    else
      let (i, t) := t.below n
      .ok (i : Int) (twister t)

/-- The chooser whose states are sources. -/
def chooser : Chooser Source SourceError where
  ask := ask

/-- A choice among a number of alternatives that may be negative, of which there is none. -/
def askInt (n : Int) : EStateM SourceError Source Int :=
  if n < 1 then fun s => .error .emptyRange s else ask n.toNat

end Source

end SentenceGen
