import Mathlib.Data.Set.Card
import SentenceGen.Grammar.Reach
import SentenceGen.Proofs.Derivation.Depth

/-!
# Derivations without recursion

`Grammar.expand` has no measure of its own: whether it ends depends on the picks. Where no symbol
that can be reached is recursive it has one, the number of symbols that can be reached. An expansion
only goes on with symbols that are called, and these reach fewer symbols, for the caller is no
longer among them (`ncard_reachable_lt`). So a depth of this number is never used up, whatever the
chooser does (`withinDepth_expand`), and an honest chooser is given a tree (`derive_of_acyclic`).
-/

namespace SentenceGen.Grammar

variable {g : Grammar} {symbol callee : String}

/-! ### Reachable symbols -/

/-- The symbols that can be reached from a symbol, itself among them. -/
def reachable (g : Grammar) (symbol : String) : Set String :=
  {target | g.Reaches symbol target}

/-- None of the symbols that can be reached from this one is recursive. -/
def Acyclic (g : Grammar) (symbol : String) : Prop :=
  ∀ target, g.Reaches symbol target → ¬ g.Recursive target

theorem Reaches.head {target : String} (hcall : g.Calls symbol callee)
    (h : g.Reaches callee target) : g.Reaches symbol target := by
  induction h with
  | refl => exact .tail (.refl symbol) hcall
  | tail _ hlast ih => exact .tail ih hlast

theorem Reaches.defines_eq_true {target : String} (hsymbol : g.defines symbol = true)
    (h : g.Reaches symbol target) : g.defines target = true := by
  cases h with
  | refl => exact hsymbol
  | tail _ hlast => exact hlast.2

theorem Acyclic.of_calls (h : g.Acyclic symbol) (hcall : g.Calls symbol callee) :
    g.Acyclic callee :=
  fun target htarget => h target (htarget.head hcall)

/-- A rank that falls from call to call, as far as it is positive, shows that nothing recurses. -/
theorem acyclic_of_rank (rank : String → Nat)
    (hrank : ∀ symbol callee, g.Calls symbol callee → 0 < rank symbol →
      0 < rank callee ∧ rank callee < rank symbol) (hsymbol : 0 < rank symbol) :
    g.Acyclic symbol := by
  have hreach : ∀ {symbol target}, g.Reaches symbol target → 0 < rank symbol →
      0 < rank target ∧ rank target ≤ rank symbol := by
    intro symbol target h hsymbol
    induction h with
    | refl => exact ⟨hsymbol, le_rfl⟩
    | tail _ hlast ih =>
      obtain ⟨hpos, hlt⟩ := hrank _ _ hlast ih.1
      exact ⟨hpos, hlt.le.trans ih.2⟩
  rintro target htarget ⟨callee, hcall, hback⟩
  obtain ⟨hpos, hlt⟩ := hrank _ _ hcall (hreach htarget hsymbol).1
  exact absurd (hreach hback hpos).2 (by omega)

/-- Nothing recurses where no alternative holds a nonterminal. -/
theorem acyclic_of_terminal (hg : g.WellFormed)
    (hterminal : ∀ r ∈ g.rules, ∀ tokens ∈ r.alternatives, ∀ token ∈ tokens,
      g.defines token = false) (symbol : String) : g.Acyclic symbol := by
  rintro target - ⟨callee, ⟨⟨alternatives, hrule, tokens, htokens, htoken⟩, hdefined⟩, -⟩
  have hmem := hg.alternatives?_eq_some_iff.mp hrule
  rw [hterminal _ hmem tokens htokens callee htoken] at hdefined
  cases hdefined

/-- A symbol calls the nonterminals of the alternatives that are drawn for it. -/
theorem calls_of_draw {σ ε : Type} {c : Chooser σ ε} {tokens : Alternative} {s s' : σ}
    (hdraw : g.draw c symbol s = .ok tokens s') {token : String} (htoken : token ∈ tokens)
    (hdef : g.defines token = true) : g.Calls symbol token := by
  obtain ⟨alternatives, hrule, hmem⟩ := exists_rule_of_draw hdraw
  exact ⟨⟨alternatives, hrule, tokens, hmem, htoken⟩, hdef⟩

/-- All symbols that can be reached are symbols of the grammar. -/
private theorem reachable_subset (hsymbol : g.defines symbol = true) :
    g.reachable symbol ⊆ (g.symbols.toFinset : Set String) := by
  intro target htarget
  have hdef := Reaches.defines_eq_true hsymbol htarget
  simpa using hdef

theorem finite_reachable (hsymbol : g.defines symbol = true) : (g.reachable symbol).Finite :=
  g.symbols.toFinset.finite_toSet.subset (reachable_subset hsymbol)

/-- There are no more symbols to reach than there are rules. -/
theorem ncard_reachable_le (hsymbol : g.defines symbol = true) :
    (g.reachable symbol).ncard ≤ g.rules.length :=
  calc (g.reachable symbol).ncard
    _ ≤ (g.symbols.toFinset : Set String).ncard :=
      Set.ncard_le_ncard (reachable_subset hsymbol) g.symbols.toFinset.finite_toSet
    _ = g.symbols.toFinset.card := Set.ncard_coe_finset _
    _ ≤ g.symbols.length := g.symbols.toFinset_card_le
    _ = g.rules.length := List.length_map _

theorem ncard_reachable_pos (hsymbol : g.defines symbol = true) :
    0 < (g.reachable symbol).ncard :=
  (Set.ncard_pos (finite_reachable hsymbol)).mpr ⟨symbol, .refl symbol⟩

/-- **The measure.** A symbol that is called by one that is not recursive reaches fewer symbols than
its caller. -/
theorem ncard_reachable_lt (hsymbol : g.defines symbol = true) (hcall : g.Calls symbol callee)
    (hrecursive : ¬ g.Recursive symbol) :
    (g.reachable callee).ncard < (g.reachable symbol).ncard := by
  refine Set.ncard_lt_ncard ?_ (finite_reachable hsymbol)
  have hsub : g.reachable callee ⊆ g.reachable symbol := fun _ htarget => htarget.head hcall
  -- the caller itself is what the callee does not reach
  exact (Set.ssubset_iff_of_subset hsub).mpr
    ⟨symbol, .refl symbol, fun hback => hrecursive ⟨callee, hcall, hback⟩⟩

/-! ### Derivations -/

variable {σ ε : Type} {c : Chooser σ ε}

/-- A draw is not broken off: it fails for the chooser or for its answer. -/
theorem withinDepth_draw (g : Grammar) (c : Chooser σ ε) (symbol : String) (s : σ) :
    Outcome.WithinDepth (g.draw c symbol s) := by
  intro s' h
  rw [draw, choose] at h
  split at h
  · cases h
  · split at h
    · exact DerivationError.ofIndex_ne_tooDeep _ _ _ (EStateM.Result.error.inj h).1
    · cases h

/-- **A depth of the number of reachable symbols is never used up**, whatever the chooser does. -/
theorem withinDepth_expand {depth : Nat} (hsymbol : g.defines symbol = true)
    (hacyclic : g.Acyclic symbol) (hdepth : (g.reachable symbol).ncard ≤ depth) (s : σ) :
    Outcome.WithinDepth (g.expand c depth symbol s) := by
  refine (expand_induction g c
    (P := fun depth symbol _ r => g.defines symbol = true → g.Acyclic symbol →
      (g.reachable symbol).ncard ≤ depth → r.WithinDepth)
    (Q := fun depth tokens _ r => (∀ token ∈ tokens, g.defines token = true →
      g.Acyclic token ∧ (g.reachable token).ncard ≤ depth) → r.WithinDepth)
    ?tooDeep ?refused ?empty ?expansion ?nil ?terminal ?failed ?nonterminal).1 depth symbol s
      hsymbol hacyclic hdepth
  case tooDeep =>
    intro symbol s hsymbol _ hdepth
    have hpos := ncard_reachable_pos hsymbol
    omega
  case refused =>
    intro depth symbol s e s' hdraw _ _ _
    have hwithin := withinDepth_draw g c symbol s
    rw [hdraw] at hwithin
    simpa [Outcome.WithinDepth] using hwithin
  case empty =>
    intro depth symbol s s' _ _ _ _
    simp [Outcome.WithinDepth]
  case expansion =>
    intro depth symbol s token tokens s' hdraw hQ hsymbol hacyclic hdepth
    refine Outcome.withinDepth_map.mpr (hQ fun t ht hdef => ?_)
    have hcall := calls_of_draw hdraw ht hdef
    have hfewer := ncard_reachable_lt hsymbol hcall (hacyclic symbol (.refl symbol))
    exact ⟨hacyclic.of_calls hcall, by omega⟩
  case nil =>
    intro depth s _
    simp [Outcome.WithinDepth]
  case terminal =>
    intro depth token tokens s _ hQ htokens
    exact Outcome.withinDepth_map.mpr (hQ (List.forall_mem_cons.mp htokens).2)
  case failed =>
    intro depth token tokens s e s' hdefined hP htokens
    obtain ⟨hacyclic, hdepth⟩ := (List.forall_mem_cons.mp htokens).1 hdefined
    have hwithin := hP hdefined hacyclic hdepth
    simpa [Outcome.WithinDepth] using hwithin
  case nonterminal =>
    intro depth token tokens s child s' _ _ hQ htokens
    exact Outcome.withinDepth_map.mpr (hQ (List.forall_mem_cons.mp htokens).2)

/-- Calls one after the other are not broken off either, where none of the symbols recurses. -/
theorem withinDepth_mapM_generate {depth : Nat} {symbols : List String}
    (hsymbols : ∀ symbol ∈ symbols, g.defines symbol = true ∧ g.Acyclic symbol ∧
      (g.reachable symbol).ncard ≤ depth) (s : σ) :
    Outcome.WithinDepth (symbols.mapM (g.generate c depth) s) := by
  induction symbols generalizing s with
  | nil => simp [Outcome.WithinDepth, pure, EStateM.pure]
  | cons symbol symbols ih =>
    obtain ⟨⟨hsymbol, hacyclic, hdepth⟩, hsymbols⟩ := List.forall_mem_cons.mp hsymbols
    have hfirst : Outcome.WithinDepth (g.generate c depth symbol s) := by
      rw [generate_eq_map, derive_of_defines g c depth hsymbol, Outcome.withinDepth_map]
      exact withinDepth_expand hsymbol hacyclic hdepth s
    cases hcall : g.generate c depth symbol s with
    | ok sentence s' =>
      rw [mapM_cons_of_ok hcall, Outcome.withinDepth_map]
      exact ih hsymbols s'
    | error e s' =>
      rw [hcall] at hfirst
      rw [mapM_cons_of_error hcall]
      simpa [Outcome.WithinDepth] using hfirst

/-- An honest chooser is given a sentence by each of these calls. -/
theorem exists_mapM_generate (hg : g.WellFormed) {I : σ → Prop} (hc : c.HonestOn I) {depth : Nat}
    {symbols : List String} (hsymbols : ∀ symbol ∈ symbols, g.defines symbol = true)
    (hacyclic : ∀ symbol ∈ symbols, g.Acyclic symbol) (hdepth : g.rules.length ≤ depth) {s : σ}
    (hs : I s) : ∃ sentences s', symbols.mapM (g.generate c depth) s = .ok sentences s' := by
  have hwithin : Outcome.WithinDepth (symbols.mapM (g.generate c depth) s) :=
    withinDepth_mapM_generate (fun symbol hmem => ⟨hsymbols symbol hmem, hacyclic symbol hmem,
      (ncard_reachable_le (hsymbols symbol hmem)).trans hdepth⟩) s
  obtain ⟨sentences, s', hcalls, -⟩ :=
    (unrefused_mapM_generate hg hc depth hsymbols hs).exists_ok hwithin
  exact ⟨sentences, s', hcalls⟩

/-- **Where nothing recurses, every derivation ends.** For every grammar that was read and every
symbol of it from which no recursive symbol can be reached, an honest chooser derives a tree and a
sentence. No more expansions are nested than there are distinct symbols to reach, of which there are
no more than rules; so any depth from this number on gives this tree and this sentence. -/
theorem derive_of_acyclic {lines : List String} (h : ofLines lines = .ok g)
    (hsymbol : g.defines symbol = true) (hacyclic : g.Acyclic symbol) (hc : c.Honest) (s : σ) :
    (g.reachable symbol).ncard ≤ g.rules.length ∧
      ∃ t s', t.height ≤ (g.reachable symbol).ncard ∧
        ∀ depth, (g.reachable symbol).ncard ≤ depth →
          g.derive c depth symbol s = .ok t s' ∧
            g.generate c depth symbol s = .ok t.sentence s' := by
  have hg := wellFormed_of_ofLines h
  have hwithin : Outcome.WithinDepth (g.expand c (g.reachable symbol).ncard symbol s) :=
    withinDepth_expand hsymbol hacyclic le_rfl s
  obtain ⟨t, s', ht, -⟩ :=
    (unrefused_expand hg hc.honestOn (g.reachable symbol).ncard hsymbol trivial).exists_ok hwithin
  refine ⟨ncard_reachable_le hsymbol, t, s', height_le_of_expand ht, fun depth hdepth => ?_⟩
  have hderive : g.derive c depth symbol s = .ok t s' := by
    rw [derive_of_defines g c depth hsymbol, expand_of_le hdepth hwithin, ht]
  refine ⟨hderive, ?_⟩
  rw [generate_eq_map, hderive, Outcome.map_ok]

/-- A symbol that is called in two ways, beside a recursive one that is out of reach, and a chooser
that always takes the last alternative. -/
theorem derive_of_acyclic_shared :
    ∃ (g : Grammar) (c : Chooser Unit Empty),
      ofLines ["s::=a b|b", "a::=b x b", "b::=y|", "r::=s r"] = .ok g ∧
      g.defines "s" = true ∧ g.Acyclic "s" ∧ c.Honest ∧
      (g.reachable "s").ncard ≤ g.rules.length ∧
      ∃ t s', t.height ≤ (g.reachable "s").ncard ∧
        ∀ depth, (g.reachable "s").ncard ≤ depth →
          g.derive c depth "s" () = .ok t s' ∧ g.generate c depth "s" () = .ok t.sentence s' := by
  have hg : ofLines ["s::=a b|b", "a::=b x b", "b::=y|", "r::=s r"] =
      .ok ⟨[⟨"s", [["a", "b"], ["b"]]⟩, ⟨"a", [["b", "x", "b"]]⟩, ⟨"b", [["y"], []]⟩,
        ⟨"r", [["s", "r"]]⟩]⟩ := by decide +kernel
  have hsymbol : defines ⟨[⟨"s", [["a", "b"], ["b"]]⟩, ⟨"a", [["b", "x", "b"]]⟩,
      ⟨"b", [["y"], []]⟩, ⟨"r", [["s", "r"]]⟩]⟩ "s" = true := by decide +kernel
  -- `b` is called by `a`, and both by `s`
  have hacyclic : Acyclic ⟨[⟨"s", [["a", "b"], ["b"]]⟩, ⟨"a", [["b", "x", "b"]]⟩,
      ⟨"b", [["y"], []]⟩, ⟨"r", [["s", "r"]]⟩]⟩ "s" := by
    refine acyclic_of_rank
      (fun X => if X = "s" then 3 else if X = "a" then 2 else if X = "b" then 1 else 0) ?_
      (by decide)
    rintro X Y ⟨⟨alternatives, hrule, tokens, htokens, htoken⟩, hdef⟩
    rw [(wellFormed_of_ofLines hg).alternatives?_eq_some_iff] at hrule
    simp only [List.mem_cons, Rule.mk.injEq, List.not_mem_nil, or_false] at hrule
    rcases hrule with ⟨rfl, rfl⟩ | ⟨rfl, rfl⟩ | ⟨rfl, rfl⟩ | ⟨rfl, rfl⟩ <;>
      simp [defines] at htokens htoken hdef ⊢ <;> grind
  have hhonest : (Chooser.mk fun n s => .ok ((n : Int) - 1) s : Chooser Unit Empty).Honest := by
    intro n s hn
    exact ⟨(n : Int) - 1, s, rfl, by omega, by omega⟩
  exact ⟨_, _, hg, hsymbol, hacyclic, hhonest, derive_of_acyclic hg hsymbol hacyclic hhonest ()⟩

end SentenceGen.Grammar
