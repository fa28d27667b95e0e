import Mathlib.Data.Finset.Card
import Mathlib.Order.Iterate
import SentenceGen.Grammar.Reach
import SentenceGen.Proofs.Derivation.Trees

/-!
# Productive symbols

The productive symbols are the ones from which something can be derived. They are found in rounds:
`Grammar.nextProductive` adds to the known symbols those that have an alternative without unknown
nonterminals, and `Grammar.productiveWithin` does that a number of times. A round that adds nothing
is the last one that could, and there are no more symbols than rules, so there are all productive
symbols after as many rounds as rules (`productive_iff_mem`).

A symbol that is found in `k` rounds has a derivation tree of height at most `k`
(`exists_derives_of_mem`), and whatever has a derivation tree is productive
(`productive_of_derives`). Hence what can be derived at all can be derived without nesting more
expansions than there are rules (`derive_shallow`): no tree need repeat a symbol on a path.
-/

namespace SentenceGen.Grammar

variable {g : Grammar} {symbol : String}

/-! ### Rounds -/

/-- The symbols that have an alternative whose nonterminals are all known. -/
def nextProductive (g : Grammar) (known : Finset String) : Finset String :=
  g.symbols.toFinset.filter fun symbol =>
    ∃ tokens ∈ (g.alternatives? symbol).getD [], ∀ token ∈ tokens,
      g.defines token = true → token ∈ known

/-- The symbols that are found to be productive in so many rounds. -/
def productiveWithin (g : Grammar) (rounds : Nat) : Finset String :=
  g.nextProductive^[rounds] ∅

theorem mem_nextProductive {known : Finset String} :
    symbol ∈ g.nextProductive known ↔
      ∃ alternatives, g.alternatives? symbol = some alternatives ∧
        ∃ tokens ∈ alternatives, ∀ token ∈ tokens, g.defines token = true → token ∈ known := by
  rw [nextProductive, Finset.mem_filter, List.mem_toFinset, ← defines_iff_mem_symbols,
    defines_eq_isSome]
  cases g.alternatives? symbol <;> simp

theorem nextProductive_mono (g : Grammar) : Monotone g.nextProductive := by
  intro known known' hle symbol hsymbol
  obtain ⟨alternatives, hrule, tokens, hmem, htokens⟩ := mem_nextProductive.mp hsymbol
  refine mem_nextProductive.mpr ⟨alternatives, hrule, tokens, hmem, fun token htoken hdef => ?_⟩
  exact hle (htokens token htoken hdef)

theorem productiveWithin_succ (g : Grammar) (k : Nat) :
    g.productiveWithin (k + 1) = g.nextProductive (g.productiveWithin k) :=
  Function.iterate_succ_apply' g.nextProductive k ∅

theorem productiveWithin_mono (g : Grammar) : Monotone g.productiveWithin :=
  g.nextProductive_mono.monotone_iterate_of_le_map (Finset.empty_subset _)

/-- Only symbols of the grammar are found, of which there are no more than rules. -/
theorem card_productiveWithin_le (g : Grammar) (k : Nat) :
    (g.productiveWithin k).card ≤ g.rules.length := by
  have hsymbols : g.productiveWithin k ⊆ g.symbols.toFinset := by
    cases k with
    | zero => exact Finset.empty_subset _
    | succ k =>
      rw [productiveWithin_succ]
      exact Finset.filter_subset _ _
  calc (g.productiveWithin k).card
    _ ≤ g.symbols.toFinset.card := Finset.card_le_card hsymbols
    _ ≤ g.symbols.length := g.symbols.toFinset_card_le
    _ = g.rules.length := List.length_map _

/-- **There is nothing new after as many rounds as rules**: a round that finds nothing new is
followed by others that find nothing new. -/
theorem productiveWithin_eq (g : Grammar) {k : Nat} (hk : g.rules.length ≤ k) :
    g.productiveWithin k = g.productiveWithin g.rules.length := by
  have hstable : ∀ m, (g.productiveWithin m).card = (g.productiveWithin (m + 1)).card →
      (g.productiveWithin (m + 1)).card = (g.productiveWithin (m + 2)).card := by
    intro m hm
    have hsame : g.productiveWithin m = g.productiveWithin (m + 1) :=
      Finset.eq_of_subset_of_card_le (g.productiveWithin_mono m.le_succ) hm.ge
    rw [productiveWithin_succ g (m + 1), ← hsame, ← productiveWithin_succ]
    exact hm
  have hmono : Monotone fun m => (g.productiveWithin m).card :=
    fun _ _ hle => Finset.card_le_card (g.productiveWithin_mono hle)
  have hcard := Nat.stabilises_of_monotone hmono g.card_productiveWithin_le hstable hk
  exact (Finset.eq_of_subset_of_card_le (g.productiveWithin_mono hk) hcard.le).symm

/-- **The productive symbols are those that are found** in as many rounds as there are rules. -/
theorem productive_iff_mem :
    g.Productive symbol ↔ symbol ∈ g.productiveWithin g.rules.length := by
  constructor
  · intro h
    induction h with
    | of_alternative hrule hmem _ ih =>
      -- one more round finds the symbol, if it is not found yet
      rw [← productiveWithin_eq g (Nat.le_succ _), productiveWithin_succ]
      exact mem_nextProductive.mpr ⟨_, hrule, _, hmem, ih⟩
  · generalize g.rules.length = k
    induction k generalizing symbol with
    | zero => exact fun h => absurd h (Finset.notMem_empty symbol)
    | succ k ih =>
      intro h
      rw [productiveWithin_succ, mem_nextProductive] at h
      obtain ⟨alternatives, hrule, tokens, hmem, htokens⟩ := h
      exact .of_alternative hrule hmem fun token htoken hdef => ih (htokens token htoken hdef)

instance (g : Grammar) (symbol : String) : Decidable (g.Productive symbol) :=
  decidable_of_iff _ productive_iff_mem.symm

/-! ### Derivation trees of productive symbols -/

/-- Trees for the nonterminals among some tokens are all that it takes to make trees for the
tokens. -/
private theorem exists_derivesTokens {k : Nat} {tokens : List String}
    (h : ∀ token ∈ tokens, g.defines token = true → ∃ t, g.Derives token t ∧ t.height ≤ k) :
    ∃ children, g.DerivesTokens tokens children ∧ Tree.forestHeight children ≤ k := by
  induction tokens with
  | nil => exact ⟨[], .nil, Nat.zero_le k⟩
  | cons token tokens ih =>
    obtain ⟨htoken, htokens⟩ := List.forall_mem_cons.mp h
    obtain ⟨children, hchildren, hheight⟩ := ih htokens
    by_cases hdef : g.defines token = true
    · obtain ⟨t, ht, hfirst⟩ := htoken hdef
      exact ⟨t :: children, .nonterminal ht hchildren, max_le hfirst hheight⟩
    · have hterminal : g.defines token = false := Bool.eq_false_iff.mpr hdef
      exact ⟨.leaf token :: children, .terminal hterminal hchildren,
        max_le (Nat.zero_le k) hheight⟩

/-- **A symbol that is found in `k` rounds has a derivation tree of height at most `k`.** -/
theorem exists_derives_of_mem {k : Nat} (h : symbol ∈ g.productiveWithin k) :
    ∃ t, g.Derives symbol t ∧ t.height ≤ k := by
  induction k generalizing symbol with
  | zero => exact absurd h (Finset.notMem_empty symbol)
  | succ k ih =>
    rw [productiveWithin_succ, mem_nextProductive] at h
    obtain ⟨alternatives, hrule, tokens, hmem, htokens⟩ := h
    obtain ⟨children, hchildren, hheight⟩ :=
      exists_derivesTokens fun token htoken hdef => ih (htokens token htoken hdef)
    cases tokens with
    | nil => exact ⟨_, .empty hrule hmem, Nat.succ_le_succ (Nat.zero_le k)⟩
    | cons token tokens =>
      refine ⟨.node symbol children, .expansion hrule hmem hchildren, ?_⟩
      rw [Tree.height_node hchildren.ne_nil]
      exact Nat.succ_le_succ hheight

mutual
/-- **What has a derivation tree is productive.** -/
theorem productive_of_derives {symbol : String} {t : Tree} :
    g.Derives symbol t → g.Productive symbol
  | .empty hrule hmem => .of_alternative hrule hmem (by simp)
  | .expansion hrule hmem hchildren =>
    .of_alternative hrule hmem (productive_of_derivesTokens hchildren)

theorem productive_of_derivesTokens {tokens : List String} {children : List Tree} :
    g.DerivesTokens tokens children →
      ∀ token ∈ tokens, g.defines token = true → g.Productive token
  | .nil => by simp
  | .terminal hterminal hrest => by
    intro token htoken hdef
    rcases List.mem_cons.mp htoken with rfl | hlater
    · rw [hterminal] at hdef
      cases hdef
    · exact productive_of_derivesTokens hrest token hlater hdef
  | .nonterminal hchild hrest => by
    intro token htoken hdef
    rcases List.mem_cons.mp htoken with rfl | hlater
    · exact productive_of_derives hchild
    · exact productive_of_derivesTokens hrest token hlater hdef
end

/-! ### Shallow derivations -/

/-- A productive symbol has a script that nests no more expansions than there are rules. -/
theorem exists_shallow_script (h : g.Productive symbol) :
    ∃ (picks : List Int) (t : Tree), t.height ≤ g.rules.length ∧
      ∀ depth rest, g.rules.length ≤ depth →
        g.derive Source.chooser depth symbol (.script (picks ++ rest)) = .ok t (.script rest) := by
  obtain ⟨t, ht, hheight⟩ := exists_derives_of_mem (productive_iff_mem.mp h)
  obtain ⟨picks, hpicks⟩ := exists_picks_of_derives ht
  refine ⟨picks, t, hheight, fun depth rest hdepth => ?_⟩
  rw [derive_of_defines g _ depth (defines_of_derives ht)]
  exact hpicks depth rest (hheight.trans hdepth)

/-- **What can be derived can be derived shallowly.** For every grammar and every symbol:

* if any chooser, at any depth, derives a tree, then a script of picks derives a tree with at most
  as many expansions inside one another as the grammar has rules, so also at this depth;
* if the symbol is not productive, then no chooser derives a tree or a sentence at any depth. -/
theorem derive_shallow (g : Grammar) (symbol : String) :
    (∀ {σ ε : Type} (c : Chooser σ ε) (depth : Nat) (s s' : σ) (t : Tree),
      g.derive c depth symbol s = .ok t s' →
        ∃ (picks : List Int) (t' : Tree), t'.height ≤ g.rules.length ∧
          ∀ depth' rest, g.rules.length ≤ depth' →
            g.derive Source.chooser depth' symbol (.script (picks ++ rest)) =
              .ok t' (.script rest)) ∧
      (¬ g.Productive symbol → ∀ {σ ε : Type} (c : Chooser σ ε) (depth : Nat) (s s' : σ),
        (∀ t, g.derive c depth symbol s ≠ .ok t s') ∧
          ∀ sentence, g.generate c depth symbol s ≠ .ok sentence s') := by
  constructor
  · intro σ ε c depth s s' t hderive
    exact exists_shallow_script (productive_of_derives (derives_of_derive hderive))
  · intro hunproductive σ ε c depth s s'
    have hnone : ∀ t, g.derive c depth symbol s ≠ .ok t s' := fun t hderive =>
      hunproductive (productive_of_derives (derives_of_derive hderive))
    refine ⟨hnone, fun sentence hgenerate => ?_⟩
    rw [generate_eq_map] at hgenerate
    obtain ⟨t, hderive, -⟩ := Outcome.map_eq_ok_iff.mp hgenerate
    exact hnone t hderive

/-- Two symbols that call each other, derived five levels deep where two suffice, and one that only
ever calls itself. -/
theorem derive_shallow_mutual :
    ∃ g : Grammar, ofLines ["s::=n x", "n::=s|y", "u::=u|x u"] = .ok g ∧
      (∃ t, g.derive Source.chooser 6 "s" (.script [0, 0, 0, 0, 0, 1]) = .ok t (.script [])) ∧
      (∃ (picks : List Int) (t' : Tree), t'.height ≤ g.rules.length ∧
        ∀ depth' rest, g.rules.length ≤ depth' →
          g.derive Source.chooser depth' "s" (.script (picks ++ rest)) = .ok t' (.script rest)) ∧
      ¬ g.Productive "u" ∧
      ∀ depth s s', (∀ t, g.derive Source.chooser depth "u" s ≠ .ok t s') ∧
        ∀ sentence, g.generate Source.chooser depth "u" s ≠ .ok sentence s' := by
  have hg : ofLines ["s::=n x", "n::=s|y", "u::=u|x u"] =
      .ok ⟨[⟨"s", [["n", "x"]]⟩, ⟨"n", [["s"], ["y"]]⟩, ⟨"u", [["u"], ["x", "u"]]⟩]⟩ := by
    decide +kernel
  have hunproductive : ¬ Productive
      ⟨[⟨"s", [["n", "x"]]⟩, ⟨"n", [["s"], ["y"]]⟩, ⟨"u", [["u"], ["x", "u"]]⟩]⟩ "u" := by
    decide +kernel
  exact ⟨_, hg, ⟨_, rfl⟩, (derive_shallow _ "s").1 Source.chooser 6 (.script [0, 0, 0, 0, 0, 1]) _ _
    rfl, hunproductive, (derive_shallow _ "u").2 hunproductive Source.chooser⟩

end SentenceGen.Grammar
