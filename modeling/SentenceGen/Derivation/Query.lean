import SentenceGen.Derivation.Basic

/-!
# Queries

What can be asked of a grammar that is used together with a chooser: its views, and derivations. A
derivation takes its choices from the state of that chooser, unless the query brings a chooser of
its own. `Query.answer` is the answer to one query with the state that is left, and `Query.answers`
are those to several queries one after the other.
-/

namespace SentenceGen

/-- A question to a grammar. -/
inductive Query (σ ε : Type) where
  | contains (symbol : Option String)
  | listing
  | symbols
  | rules
  | lines
  | display
  | generate (symbol : String) (own : Option (Chooser σ ε × σ))
  | derive (symbol : String) (own : Option (Chooser σ ε × σ))

/-- The answer to a query. That to a derivation has the numbers of alternatives asked
for with it. -/
inductive Answer (ε : Type) where
  | contained (result : Except QueryError Bool)
  | text (s : String)
  | texts (items : List String)
  | rules (items : List Rule)
  | sentence (result : Except (DerivationError ε) String) (asked : List Nat)
  | tree (result : Except (DerivationError ε) Tree) (asked : List Nat)

variable {σ ε : Type}

/-- The result of a draw from a state on, with the numbers that were asked for and the state that is
left. -/
def Chooser.watch {α : Type} (c : Chooser σ ε)
    (draw : Chooser (σ × List Nat) ε → EStateM (DerivationError ε) (σ × List Nat) α) (s : σ) :
    Except (DerivationError ε) α × List Nat × σ :=
  match draw c.recording (s, []) with
  | .ok a (s, asked) => (.ok a, asked, s)
  | .error e (s, asked) => (.error e, asked, s)

namespace Query

/-- The answer to a query about a grammar that is used with the chooser `c`. -/
def answer (g : Grammar) (c : Chooser σ ε) (depth : Nat) : Query σ ε → σ → Answer ε × σ
  | contains symbol, s => (.contained (g.contains symbol), s)
  | listing, s => (.text g.listing, s)
  | symbols, s => (.texts g.symbols, s)
  | rules, s => (.rules g.rules, s)
  | lines, s => (.texts g.lines, s)
  | display, s => (.text g.display, s)
  | generate symbol none, s =>
    let (result, asked, s) := c.watch (g.generate · depth symbol) s
    (.sentence result asked, s)
  | generate symbol (some (own, start)), s =>
    let (result, asked, _) := own.watch (g.generate · depth symbol) start
    (.sentence result asked, s)
  | derive symbol none, s =>
    let (result, asked, s) := c.watch (g.derive · depth symbol) s
    (.tree result asked, s)
  | derive symbol (some (own, start)), s =>
    let (result, asked, _) := own.watch (g.derive · depth symbol) start
    (.tree result asked, s)

/-- The answers to queries that are asked one after the other, and the state that is left. -/
def answers (g : Grammar) (c : Chooser σ ε) (depth : Nat) :
    List (Query σ ε) → σ → List (Answer ε) × σ
  | [], s => ([], s)
  | q :: qs, s =>
    let (a, s) := q.answer g c depth s
    let (rest, s) := answers g c depth qs s
    (a :: rest, s)

end Query

end SentenceGen
