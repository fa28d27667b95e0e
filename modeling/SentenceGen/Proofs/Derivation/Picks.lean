import Mathlib.Data.List.Forall2
import SentenceGen.Choice.Source
import SentenceGen.Proofs.Derivation.Expansion

/-!
# The picks of a derivation

`Chooser.askAll` asks a chooser for several numbers of alternatives in turn. A derivation does
nothing else to it: with the numbers that it has asked for, the state it leaves is that after asking
for these in turn, and what was given for them accounts for its result (`Grammar.spends_expand`).
Every pick but the last one was the number of an alternative, and so was the last one, unless the
derivation failed there: either the pick was out of range, or the chooser gave none.
-/

namespace SentenceGen

variable {σ ε α β : Type}

namespace Chooser

/-- What is given for a number of alternatives, a pick or a failure, and the state that is left. -/
def give (c : Chooser σ ε) (n : Nat) (s : σ) : Except ε Int × σ :=
  match c.ask n s with
  | .ok i s => (.ok i, s)
  | .error e s => (.error e, s)

/-- Asks for several numbers of alternatives in turn, on behind failures as well. -/
def askAll (c : Chooser σ ε) : (counts : List Nat) → σ → List (Except ε Int) × σ
  | [], s => ([], s)
  | n :: counts, s =>
    let (given, s) := c.give n s
    let (more, s) := askAll c counts s
    (given :: more, s)

variable {c : Chooser σ ε} {n : Nat} {s s' : σ}

@[simp] theorem askAll_nil (c : Chooser σ ε) (s : σ) : c.askAll [] s = ([], s) :=
  rfl

theorem askAll_cons (c : Chooser σ ε) (n : Nat) (counts : List Nat) (s : σ) :
    c.askAll (n :: counts) s =
      ((c.give n s).1 :: (c.askAll counts (c.give n s).2).1,
        (c.askAll counts (c.give n s).2).2) :=
  rfl

theorem askAll_append (c : Chooser σ ε) (counts more : List Nat) (s : σ) :
    c.askAll (counts ++ more) s =
      ((c.askAll counts s).1 ++ (c.askAll more (c.askAll counts s).2).1,
        (c.askAll more (c.askAll counts s).2).2) := by
  induction counts generalizing s with
  | nil => rfl
  | cons n counts ih =>
    rw [List.cons_append, askAll_cons, ih, askAll_cons, List.cons_append]

theorem askAll_of_ok {i : Int} (h : c.ask n s = .ok i s') : c.askAll [n] s = ([.ok i], s') := by
  simp only [askAll, give, h]

theorem askAll_of_error {e : ε} (h : c.ask n s = .error e s') :
    c.askAll [n] s = ([.error e], s') := by
  simp only [askAll, give, h]

/-- **A script gives its picks from the first one on**, and fails behind the last one. What is left
are the picks behind those that were asked for. -/
theorem askAll_script (counts : List Nat) (picks : List Int) :
    Source.chooser.askAll counts (.script picks) =
      ((picks.take counts.length).map .ok ++
          List.replicate (counts.length - picks.length) (.error .exhausted),
        .script (picks.drop counts.length)) := by
  induction counts generalizing picks with
  | nil => simp
  | cons n counts ih =>
    cases picks with
    | nil =>
      have hrest := ih []
      simp only [List.take_nil, List.map_nil, List.nil_append, List.length_nil, Nat.sub_zero,
        List.drop_nil] at hrest
      simp only [askAll, give, Source.chooser, Source.ask] at hrest ⊢
      simp [hrest, List.replicate_succ]
    | cons pick picks =>
      have hrest := ih picks
      simp only [askAll, give, Source.chooser, Source.ask] at hrest ⊢
      simp [hrest]

end Chooser

/-! ### What a result is accounted for by -/

/-- Every number of alternatives was given the number of one of them. -/
def InRange (counts : List Nat) (given : List (Except ε Int)) : Prop :=
  List.Forall₂ (fun (n : Nat) (pick : Except ε Int) => ∃ i : Int, pick = .ok i ∧ 0 ≤ i ∧ i < n)
    counts given

theorem InRange.append {counts more : List Nat} {given others : List (Except ε Int)}
    (h : InRange counts given) (hmore : InRange more others) :
    InRange (counts ++ more) (given ++ others) :=
  List.rel_append h hmore

/-- What a derivation with this result has asked for, and what it was given. It stops at the first
pick that is out of range, and where none is given. -/
inductive Spends : Except (DerivationError ε) α → List Nat → List (Except ε Int) → Prop
  | ok (a : α) {counts : List Nat} {given : List (Except ε Int)} (h : InRange counts given) :
      Spends (.ok a) counts given
  | tooDeep {counts : List Nat} {given : List (Except ε Int)} (h : InRange counts given) :
      Spends (.error .tooDeep) counts given
  | outOfRange {counts : List Nat} {given : List (Except ε Int)} (h : InRange counts given)
      {i : Int} {n : Nat} (hout : ¬ (0 ≤ i ∧ i < n)) (symbol : String) :
      Spends (.error (.ofIndex i n symbol)) (counts ++ [n]) (given ++ [.ok i])
  | choice {counts : List Nat} {given : List (Except ε Int)} (h : InRange counts given) (n : Nat)
      (e : ε) : Spends (.error (.choice e)) (counts ++ [n]) (given ++ [.error e])

namespace Spends

variable {r : Except (DerivationError ε) α} {counts more : List Nat}
  {given others : List (Except ε Int)}

theorem inRange_of_ok {a : α} (h : Spends (.ok a) counts given) : InRange counts given := by
  cases h with
  | ok _ h => exact h

theorem map (h : Spends r counts given) (f : α → β) : Spends (r.map f) counts given := by
  cases h with
  | ok a h => exact .ok (f a) h
  | tooDeep h => exact .tooDeep h
  | outOfRange h hout symbol => exact .outOfRange h hout symbol
  | choice h n e => exact .choice h n e

/-- Picks in range may stand in front. -/
theorem append (hfirst : InRange counts given) (h : Spends r more others) :
    Spends r (counts ++ more) (given ++ others) := by
  cases h with
  | ok a h => exact .ok a (hfirst.append h)
  | tooDeep h => exact .tooDeep (hfirst.append h)
  | outOfRange h hout symbol =>
    rw [← List.append_assoc, ← List.append_assoc]
    exact .outOfRange (hfirst.append h) hout symbol
  | choice h n e =>
    rw [← List.append_assoc, ← List.append_assoc]
    exact .choice (hfirst.append h) n e

end Spends

/-! ### Outcomes -/

namespace Outcome

/-- The value or the error. -/
def result : Outcome ε σ α → Except (DerivationError ε) α
  | .ok a _ => .ok a
  | .error e _ => .error e

/-- The state that is left. -/
def state : Outcome ε σ α → σ
  | .ok _ s => s
  | .error _ s => s

@[simp] theorem result_map (f : α → β) (r : Outcome ε σ α) : (map f r).result = r.result.map f := by
  cases r <;> rfl

@[simp] theorem state_map (f : α → β) (r : Outcome ε σ α) : (map f r).state = r.state := by
  cases r <;> rfl

/-- From a state on, with some numbers asked for before, the chooser was asked for more in turn, and
these account for the outcome. -/
def SpendsFrom (c : Chooser σ ε) (start : σ × List Nat) (r : Outcome ε (σ × List Nat) α) : Prop :=
  ∃ counts, r.state = ((c.askAll counts start.1).2, start.2 ++ counts) ∧
    Spends r.result counts (c.askAll counts start.1).1

namespace SpendsFrom

variable {c : Chooser σ ε} {start next : σ × List Nat} {r : Outcome ε (σ × List Nat) α}

theorem map (h : SpendsFrom c start r) (f : α → β) : SpendsFrom c start (Outcome.map f r) := by
  obtain ⟨counts, hstate, hspends⟩ := h
  refine ⟨counts, by rw [state_map, hstate], ?_⟩
  rw [result_map]
  exact hspends.map f

/-- What follows on a value spends from the state that was left. -/
theorem trans {a : α} {r : Outcome ε (σ × List Nat) β} (hfirst : SpendsFrom c start (.ok a next))
    (h : SpendsFrom c next r) : SpendsFrom c start r := by
  obtain ⟨counts, hnext, hspends⟩ := hfirst
  obtain ⟨more, hstate, hspends'⟩ := h
  obtain rfl : next = ((c.askAll counts start.1).2, start.2 ++ counts) := hnext
  refine ⟨counts ++ more, ?_, ?_⟩
  · rw [hstate, Chooser.askAll_append, List.append_assoc]
  · rw [Chooser.askAll_append]
    exact hspends'.append hspends.inRange_of_ok

end SpendsFrom

end Outcome

/-! ### Derivations -/

namespace Grammar

open Outcome

variable (g : Grammar) (c : Chooser σ ε)

/-- A draw asks for one number. -/
theorem spends_draw (symbol : String) (start : σ × List Nat) :
    SpendsFrom c start (g.draw c.recording symbol start) := by
  obtain ⟨s, asked⟩ := start
  obtain ⟨alternatives, halternatives⟩ : ∃ l, l = (g.alternatives? symbol).getD [] := ⟨_, rfl⟩
  have hnil : InRange [] ([] : List (Except ε Int)) := .nil
  refine ⟨[alternatives.length], ?_⟩
  cases hask : c.ask alternatives.length s with
  | error e s' =>
    have hdraw : g.draw c.recording symbol (s, asked) =
        .error (.choice e) (s', asked ++ [alternatives.length]) := by
      simp only [draw, choose, Chooser.recording, ← halternatives, hask]
    rw [hdraw, Chooser.askAll_of_error hask]
    exact ⟨rfl, .choice hnil _ e⟩
  | ok i s' =>
    cases hselect : select? alternatives i with
    | none =>
      have hdraw : g.draw c.recording symbol (s, asked) =
          .error (.ofIndex i alternatives.length symbol)
            (s', asked ++ [alternatives.length]) := by
        simp only [draw, choose, Chooser.recording, ← halternatives, hask, hselect]
      rw [hdraw, Chooser.askAll_of_ok hask]
      exact ⟨rfl, .outOfRange hnil (select?_eq_none_iff.mp hselect) symbol⟩
    | some tokens =>
      have hdraw : g.draw c.recording symbol (s, asked) =
          .ok tokens (s', asked ++ [alternatives.length]) := by
        simp only [draw, choose, Chooser.recording, ← halternatives, hask, hselect]
      have hrange : 0 ≤ i ∧ i < alternatives.length := by
        by_contra hout
        rw [select?_eq_none_iff.mpr hout] at hselect
        cases hselect
      rw [hdraw, Chooser.askAll_of_ok hask]
      exact ⟨rfl, .ok tokens (.cons ⟨i, rfl, hrange⟩ .nil)⟩

/-- **What an expansion has asked for accounts for its outcome.** -/
theorem spends_expand (depth : Nat) (symbol : String) (start : σ × List Nat) :
    SpendsFrom c start (g.expand c.recording depth symbol start) := by
  have hnone : ∀ start : σ × List Nat, start = ((c.askAll [] start.1).2, start.2 ++ []) := by
    intro start
    rw [List.append_nil]
    rfl
  refine (expand_induction g c.recording
    (P := fun _ _ start r => SpendsFrom c start r) (Q := fun _ _ start r => SpendsFrom c start r)
    ?tooDeep ?refused ?empty ?expansion ?nil ?terminal ?failed ?nonterminal).1 depth symbol start
  case tooDeep =>
    intro symbol start
    exact ⟨[], hnone start, .tooDeep .nil⟩
  case refused =>
    intro depth symbol start e next hdraw
    have hspends := g.spends_draw c symbol start
    rw [hdraw] at hspends
    exact hspends.map fun _ => Tree.node symbol []
  case empty =>
    intro depth symbol start next hdraw
    have hspends := g.spends_draw c symbol start
    rw [hdraw] at hspends
    exact hspends.map fun _ => Tree.node symbol [.leaf ""]
  case expansion =>
    intro depth symbol start token tokens next hdraw hQ
    have hspends := g.spends_draw c symbol start
    rw [hdraw] at hspends
    exact (hspends.trans hQ).map _
  case nil =>
    intro depth start
    exact ⟨[], hnone start, .ok [] .nil⟩
  case terminal =>
    intro depth token tokens start _ hQ
    exact hQ.map _
  case failed =>
    intro depth token tokens start e next _ hP
    exact hP.map fun child => [child]
  case nonterminal =>
    intro depth token tokens start child next _ hP hQ
    exact (hP.trans hQ).map _

end Grammar

end SentenceGen
