import SentenceGen.Proofs.Derivation.Depth
import SentenceGen.Proofs.Derivation.QueryRuns

/-!
# Honest choices

A derivation looks up a rule before every question, and asks for as many alternatives as the rule
has. In a grammar that was read no rule is without alternatives, not even one with nothing behind
its `::=`. Two things follow:

* whatever a chooser answers, it is never asked for a choice among none (`asksForRules_expand`), so
  one that answers every number from one on with the number of an alternative is never at a loss;
* such a chooser is not refused either (`unrefused_expand`), so all that can keep a derivation from
  ending in a tree is the depth that is allowed (`derive_unrefused_of_honest`).
-/

namespace SentenceGen

variable {σ ε α β : Type}

namespace Outcome

/-- From a state on, with some numbers asked for before, the chooser was asked for the numbers of
alternatives of some rules. -/
def AsksForRules (g : Grammar) (start : σ × List Nat) (r : Outcome ε (σ × List Nat) α) : Prop :=
  ∃ counts, r.state.2 = start.2 ++ counts ∧
    ∀ n ∈ counts, ∃ rule ∈ g.rules, rule.alternatives.length = n

namespace AsksForRules

variable {g : Grammar} {start next : σ × List Nat} {r : Outcome ε (σ × List Nat) α}

/-- Nothing was asked. -/
theorem of_state_eq (h : r.state = start) : AsksForRules g start r :=
  ⟨[], by rw [h, List.append_nil], by simp⟩

theorem map (h : AsksForRules g start r) (f : α → β) :
    AsksForRules g start (Outcome.map f r) := by
  obtain ⟨counts, hstate, hcounts⟩ := h
  exact ⟨counts, by rw [state_map, hstate], hcounts⟩

/-- What follows on a value asks from the state that was left. -/
theorem trans {a : α} {r : Outcome ε (σ × List Nat) β}
    (hfirst : AsksForRules g start (.ok a next : Outcome ε (σ × List Nat) α))
    (h : AsksForRules g next r) : AsksForRules g start r := by
  obtain ⟨counts, hnext, hcounts⟩ := hfirst
  obtain ⟨more, hstate, hmore⟩ := h
  obtain hnext : next.2 = start.2 ++ counts := hnext
  refine ⟨counts ++ more, by rw [hstate, hnext, List.append_assoc], fun n hn => ?_⟩
  exact (List.mem_append.mp hn).elim (hcounts n) (hmore n)

end AsksForRules

end Outcome

namespace Grammar

open Outcome

variable {g : Grammar} {symbol : String}

/-- A draw asks for as many alternatives as the rule of the symbol has. -/
theorem asksForRules_draw (hg : g.WellFormed) (c : Chooser σ ε) (hsymbol : g.defines symbol = true)
    (start : σ × List Nat) : AsksForRules g start (g.draw c.recording symbol start) := by
  obtain ⟨s, asked⟩ := start
  rw [defines_eq_isSome, Option.isSome_iff_exists] at hsymbol
  obtain ⟨alternatives, hrule⟩ := hsymbol
  refine ⟨[alternatives.length], ?_, ?_⟩
  · cases hask : c.ask alternatives.length s with
    | error e s' =>
      have hrecord : c.recording.ask alternatives.length (s, asked) =
          .error e (s', asked ++ [alternatives.length]) := by
        simp only [Chooser.recording, hask]
      rw [draw_of_ask_error hrule hrecord]
      rfl
    | ok i s' =>
      have hrecord : c.recording.ask alternatives.length (s, asked) =
          .ok i (s', asked ++ [alternatives.length]) := by
        simp only [Chooser.recording, hask]
      rw [draw_of_ask_ok hrule hrecord]
      cases select? alternatives i <;> rfl
  · intro n hn
    obtain rfl := List.mem_singleton.mp hn
    exact ⟨_, hg.alternatives?_eq_some_iff.mp hrule, rfl⟩

/-- **An expansion asks only for the numbers of alternatives of rules**, whatever it is answered. -/
theorem asksForRules_expand (hg : g.WellFormed) (c : Chooser σ ε) (depth : Nat)
    (hsymbol : g.defines symbol = true) (start : σ × List Nat) :
    AsksForRules g start (g.expand c.recording depth symbol start) := by
  refine (expand_induction g c.recording
    (P := fun _ symbol start r => g.defines symbol = true → AsksForRules g start r)
    (Q := fun _ _ start r => AsksForRules g start r)
    ?tooDeep ?refused ?empty ?expansion ?nil ?terminal ?failed ?nonterminal).1 depth symbol start
      hsymbol
  case tooDeep =>
    intro symbol start _
    exact .of_state_eq rfl
  case refused =>
    intro depth symbol start e next hdraw hsymbol
    have hasks := asksForRules_draw hg c hsymbol start
    rw [hdraw] at hasks
    exact hasks.map fun _ => Tree.node symbol []
  case empty =>
    intro depth symbol start next hdraw hsymbol
    have hasks := asksForRules_draw hg c hsymbol start
    rw [hdraw] at hasks
    exact hasks.map fun _ => Tree.node symbol [.leaf ""]
  case expansion =>
    intro depth symbol start token tokens next hdraw hQ hsymbol
    have hasks := asksForRules_draw hg c hsymbol start
    rw [hdraw] at hasks
    exact (hasks.trans hQ).map _
  case nil =>
    intro depth start
    exact .of_state_eq rfl
  case terminal =>
    intro depth token tokens start _ hQ
    exact hQ.map _
  case failed =>
    intro depth token tokens start e next hdefined hP
    exact (hP hdefined).map fun child => [child]
  case nonterminal =>
    intro depth token tokens start child next hdefined hP hQ
    exact ((hP hdefined).trans hQ).map _

/-- A symbol that is not defined is not asked about. -/
theorem asksForRules_derive (hg : g.WellFormed) (c : Chooser σ ε) (depth : Nat) (symbol : String)
    (start : σ × List Nat) : AsksForRules g start (g.derive c.recording depth symbol start) := by
  rw [derive]
  split_ifs with hsymbol
  · exact asksForRules_expand hg c depth hsymbol start
  · exact .of_state_eq rfl

theorem asksForRules_generate (hg : g.WellFormed) (c : Chooser σ ε) (depth : Nat) (symbol : String)
    (start : σ × List Nat) : AsksForRules g start (g.generate c.recording depth symbol start) := by
  rw [generate_eq_map]
  exact (asksForRules_derive hg c depth symbol start).map _

/-- Where only the alternatives of rules are asked for, each number is at least one. -/
theorem WellFormed.one_le_of_mem_watch (hg : g.WellFormed) {c : Chooser σ ε} {s : σ}
    {draw : Chooser (σ × List Nat) ε → EStateM (DerivationError ε) (σ × List Nat) α}
    (h : AsksForRules g (s, []) (draw c.recording (s, []))) :
    ∀ n ∈ (c.watch draw s).2.1, 1 ≤ n := by
  obtain ⟨counts, hstate, hcounts⟩ := h
  rw [Chooser.watch_eq, hstate, List.nil_append]
  intro n hn
  obtain ⟨rule, hrule, rfl⟩ := hcounts n hn
  exact List.length_pos_iff.mpr (hg.rule rule hrule).alternatives_ne_nil

/-- **Honest choices are never refused.** For every grammar that was read:

* every rule has an alternative;
* whatever a chooser answers, each number that it is asked for when a tree or a sentence is derived
  is at least one;
* a chooser that answers every such number with the number of an alternative gets a tree and a
  sentence from every symbol that the grammar defines, unless the derivation is broken off for being
  nested too deep;
* so does the generator from every seed, and it stays a generator. -/
theorem derive_unrefused_of_honest {lines : List String} (h : ofLines lines = .ok g) :
    (∀ rule ∈ g.rules, rule.alternatives ≠ []) ∧
    (∀ {σ ε : Type} (c : Chooser σ ε) (depth : Nat) (symbol : String) (s : σ),
      (∀ n ∈ (c.watch (g.derive · depth symbol) s).2.1, 1 ≤ n) ∧
        ∀ n ∈ (c.watch (g.generate · depth symbol) s).2.1, 1 ≤ n) ∧
    ∀ symbol, g.defines symbol = true → ∀ depth : Nat,
      (∀ {σ ε : Type} (c : Chooser σ ε), c.Honest → ∀ s : σ,
        Unrefused (fun _ => True) (g.derive c depth symbol s) ∧
          Unrefused (fun _ => True) (g.generate c depth symbol s)) ∧
      ∀ seed : Int,
        Unrefused (fun s => ∃ t, s = .twister t)
            (g.derive Source.chooser depth symbol (.seeded seed)) ∧
          Unrefused (fun s => ∃ t, s = .twister t)
            (g.generate Source.chooser depth symbol (.seeded seed)) := by
  have hg := wellFormed_of_ofLines h
  refine ⟨fun rule hrule => (hg.rule rule hrule).alternatives_ne_nil, fun c depth symbol s => ?_,
    fun symbol hsymbol depth => ⟨fun c hc s => ?_, fun seed => ?_⟩⟩
  · exact ⟨hg.one_le_of_mem_watch (asksForRules_derive hg c depth symbol _),
      hg.one_le_of_mem_watch (asksForRules_generate hg c depth symbol _)⟩
  · exact ⟨unrefused_derive hg hc.honestOn depth hsymbol trivial,
      unrefused_generate hg hc.honestOn depth hsymbol trivial⟩
  · exact ⟨unrefused_derive hg Source.honestOn_twister depth hsymbol ⟨_, rfl⟩,
      unrefused_generate hg Source.honestOn_twister depth hsymbol ⟨_, rfl⟩⟩

/-- A rule with nothing behind its `::=`, one that recurses until it is broken off, and a chooser
that always takes the first alternative. -/
theorem derive_unrefused_of_honest_empty :
    ∃ g : Grammar, ofLines ["s::=n s", "n::="] = .ok g ∧
      (∀ rule ∈ g.rules, rule.alternatives ≠ []) ∧
      g.defines "s" = true ∧
      Source.chooser.watch (g.derive · 2 "s") .first = (.error .tooDeep, [1, 1, 1], .first) ∧
      (∀ n ∈ (Source.chooser.watch (g.derive · 2 "s") .first).2.1, 1 ≤ n) ∧
      Chooser.Honest (⟨fun _ => pure 0⟩ : Chooser Unit Empty) ∧
      Unrefused (fun _ => True) (g.derive (⟨fun _ => pure 0⟩ : Chooser Unit Empty) 2 "s" ()) ∧
      Unrefused (fun s => ∃ t, s = .twister t) (g.generate Source.chooser 2 "s" (.seeded 7)) := by
  have hg : ofLines ["s::=n s", "n::="] =
      .ok ⟨[⟨"s", [["n", "s"]]⟩, ⟨"n", [[]]⟩]⟩ := by decide +kernel
  have hsymbol : defines ⟨[⟨"s", [["n", "s"]]⟩, ⟨"n", [[]]⟩]⟩ "s" = true := by decide +kernel
  have hfirst : Chooser.Honest (⟨fun _ => pure 0⟩ : Chooser Unit Empty) := fun n s hn =>
    ⟨0, s, rfl, Int.le_refl 0, Int.natCast_pos.mpr hn⟩
  obtain ⟨hrules, hcounts, hhonest⟩ := derive_unrefused_of_honest hg
  exact ⟨_, hg, hrules, hsymbol, rfl, (hcounts Source.chooser 2 "s" .first).1, hfirst,
    ((hhonest "s" hsymbol 2).1 _ hfirst ()).1, ((hhonest "s" hsymbol 2).2 7).2⟩

end Grammar

end SentenceGen
