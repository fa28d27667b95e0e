import SentenceGen.Derivation.Query
import SentenceGen.Proofs.Derivation.Acyclic

/-!
# The rules that matter to a derivation

Whether a token is a nonterminal is asked of the whole grammar, at every token again. Still only a
part of the grammar is ever asked about: a derivation **looks up** its symbol and the tokens in the
alternatives of the symbols that it reaches (`Grammar.LooksUp`). Two grammars that say the same
about these tokens derive alike from the symbol (`Grammar.DerivesAlike`), in every run: those that
give a tree, those that fail and those that are broken off, after the same questions.

* One step goes from a symbol to a token of an alternative that was drawn for it, and what is looked
  up from there on was looked up from the symbol already (`LooksUp.of_mentions`).
* So the agreement is kept along a whole expansion (`expand_congr`), and rules of other symbols may
  be added, removed or changed without effect (`derivesAlike_of_agreeOn_lookedUp`).
-/

namespace SentenceGen.Grammar

variable {g h : Grammar} {symbol token : String}

/-! ### What is looked up -/

/-- A derivation from the symbol may ask about the token: it is the symbol, or it occurs in an
alternative of a symbol that can be reached. -/
def LooksUp (g : Grammar) (symbol token : String) : Prop :=
  token = symbol ∨ ∃ caller, g.Reaches symbol caller ∧ g.Mentions caller token

/-- Only a symbol with a rule reaches one that mentions tokens. -/
private theorem Reaches.defines_of_mentions {caller : String} (hreach : g.Reaches symbol caller)
    (hmention : g.Mentions caller token) : g.defines symbol = true := by
  induction hreach generalizing token with
  | refl =>
    obtain ⟨alternatives, hrule, -⟩ := hmention
    exact defines_of_alternatives? hrule
  | tail _ hlast ih => exact ih hlast.1

/-- **What is looked up from a token that a symbol mentions** is looked up from the symbol. -/
theorem LooksUp.of_mentions {other : String} (hmention : g.Mentions symbol token)
    (hother : g.LooksUp token other) : g.LooksUp symbol other := by
  rcases hother with rfl | ⟨caller, hreach, hlater⟩
  · exact .inr ⟨symbol, .refl symbol, hmention⟩
  · -- something is reached from the token, so it is a nonterminal and called by the symbol
    have hcall : g.Calls symbol token := ⟨hmention, hreach.defines_of_mentions hlater⟩
    exact .inr ⟨caller, hreach.head hcall, hlater⟩

/-- Tokens with the symbol among them, which hold those of the alternatives of each of them, are all
that is looked up. -/
theorem WellFormed.mem_of_looksUp (hg : g.WellFormed) {tokens : List String}
    (hsymbol : symbol ∈ tokens)
    (hclosed : ∀ r ∈ g.rules, r.symbol ∈ tokens →
      ∀ alternative ∈ r.alternatives, ∀ other ∈ alternative, other ∈ tokens)
    (hlookup : g.LooksUp symbol token) : token ∈ tokens := by
  have hmention : ∀ {caller other}, caller ∈ tokens → g.Mentions caller other → other ∈ tokens := by
    rintro caller other hcaller ⟨alternatives, hrule, alternative, halternative, hother⟩
    exact hclosed _ (hg.alternatives?_eq_some_iff.mp hrule) hcaller _ halternative _ hother
  rcases hlookup with rfl | ⟨caller, hreach, hlast⟩
  · exact hsymbol
  · have hcaller : caller ∈ tokens := by
      clear hlast
      induction hreach with
      | refl => exact hsymbol
      | tail _ hcall ih => exact hmention ih hcall.1
    exact hmention hcaller hlast

/-! ### Agreement -/

theorem AgreeOn.defines_eq (hagree : g.AgreeOn h token) : g.defines token = h.defines token := by
  rw [defines_eq_isSome, defines_eq_isSome, show g.alternatives? token = _ from hagree]

/-- Grammars that were read agree on a token if they have the same rules for it. -/
theorem agreeOn_of_mem_iff (hg : g.WellFormed) (hh : h.WellFormed)
    (hrules : ∀ r : Rule, r.symbol = token → (r ∈ g.rules ↔ r ∈ h.rules)) : g.AgreeOn h token :=
  Option.ext fun alternatives => by
    rw [hg.alternatives?_eq_some_iff, hh.alternatives?_eq_some_iff]
    exact hrules ⟨token, alternatives⟩ rfl

variable {σ ε : Type}

theorem AgreeOn.draw_eq (hagree : g.AgreeOn h symbol) (c : Chooser σ ε) (s : σ) :
    g.draw c symbol s = h.draw c symbol s := by
  rw [draw, draw, show g.alternatives? symbol = _ from hagree]

/-- **Agreement is kept along an expansion**, and so its outcome is the same in both grammars. -/
theorem expand_congr (hagree : ∀ token, g.LooksUp symbol token → g.AgreeOn h token)
    (c : Chooser σ ε) (depth : Nat) (s : σ) :
    h.expand c depth symbol s = g.expand c depth symbol s := by
  refine (expand_induction g c
    (P := fun depth symbol s r => (∀ token, g.LooksUp symbol token → g.AgreeOn h token) →
      h.expand c depth symbol s = r)
    (Q := fun depth tokens s r =>
      (∀ token ∈ tokens, ∀ other, g.LooksUp token other → g.AgreeOn h other) →
      h.expandTokens c depth tokens s = r)
    ?tooDeep ?refused ?empty ?expansion ?nil ?terminal ?failed ?nonterminal).1 depth symbol s hagree
  case tooDeep =>
    intro symbol s _
    exact expand_zero h c symbol s
  case refused =>
    intro depth symbol s e s' hdraw hagree
    rw [(hagree symbol (.inl rfl)).draw_eq] at hdraw
    exact expand_succ_of_error h c depth hdraw
  case empty =>
    intro depth symbol s s' hdraw hagree
    rw [(hagree symbol (.inl rfl)).draw_eq] at hdraw
    exact expand_succ_of_nil h c depth hdraw
  case expansion =>
    intro depth symbol s token tokens s' hdraw hQ hagree
    obtain ⟨alternatives, hrule, hmem⟩ := exists_rule_of_draw hdraw
    rw [(hagree symbol (.inl rfl)).draw_eq] at hdraw
    rw [expand_succ_of_cons h c depth hdraw]
    refine congrArg _ (hQ fun t ht other hother => hagree other (hother.of_mentions ?_))
    exact ⟨alternatives, hrule, _, hmem, ht⟩
  case nil =>
    intro depth s _
    exact expandTokens_nil h c depth s
  case terminal =>
    intro depth token tokens s hterminal hQ hagree
    obtain ⟨hfirst, hrest⟩ := List.forall_mem_cons.mp hagree
    rw [(hfirst token (.inl rfl)).defines_eq] at hterminal
    rw [expandTokens_of_terminal h c depth hterminal, hQ hrest]
  case failed =>
    intro depth token tokens s e s' hdefined hP hagree
    obtain ⟨hfirst, -⟩ := List.forall_mem_cons.mp hagree
    rw [(hfirst token (.inl rfl)).defines_eq] at hdefined
    exact expandTokens_of_error h c depth hdefined (hP hfirst) tokens
  case nonterminal =>
    intro depth token tokens s child s' hdefined hP hQ hagree
    obtain ⟨hfirst, hrest⟩ := List.forall_mem_cons.mp hagree
    rw [(hfirst token (.inl rfl)).defines_eq] at hdefined
    rw [expandTokens_of_ok h c depth hdefined (hP hfirst), hQ hrest]

/-! ### Derivations -/

/-- The two grammars derive alike from a symbol. Whatever chooses, from any state on and at any
depth, the tree or the error is the same, and so is the sentence; the same numbers of alternatives
are asked for in the same order, and the same state is left. -/
structure DerivesAlike (g h : Grammar) (symbol : String) : Prop where
  derive {σ ε : Type} (c : Chooser σ ε) (depth : Nat) (s : σ) :
    g.derive c depth symbol s = h.derive c depth symbol s
  generate {σ ε : Type} (c : Chooser σ ε) (depth : Nat) (s : σ) :
    g.generate c depth symbol s = h.generate c depth symbol s
  watch_derive {σ ε : Type} (c : Chooser σ ε) (depth : Nat) (s : σ) :
    c.watch (g.derive · depth symbol) s = c.watch (h.derive · depth symbol) s
  watch_generate {σ ε : Type} (c : Chooser σ ε) (depth : Nat) (s : σ) :
    c.watch (g.generate · depth symbol) s = c.watch (h.generate · depth symbol) s

/-- Watching is a derivation with another chooser, and a sentence is that of a tree. -/
theorem DerivesAlike.of_derive
    (hderive : ∀ {σ ε : Type} (c : Chooser σ ε) (depth : Nat) (s : σ),
      g.derive c depth symbol s = h.derive c depth symbol s) : g.DerivesAlike h symbol := by
  have hgenerate : ∀ {σ ε : Type} (c : Chooser σ ε) (depth : Nat) (s : σ),
      g.generate c depth symbol s = h.generate c depth symbol s := by
    intro σ ε c depth s
    rw [generate_eq_map, generate_eq_map, hderive]
  refine ⟨hderive, hgenerate, fun c depth s => ?_, fun c depth s => ?_⟩
  · rw [Chooser.watch, Chooser.watch, hderive]
  · rw [Chooser.watch, Chooser.watch, hgenerate]

/-- Grammars that agree on what is looked up from a symbol derive alike from it. -/
theorem DerivesAlike.of_agreeOn (hagree : ∀ token, g.LooksUp symbol token → g.AgreeOn h token) :
    g.DerivesAlike h symbol := by
  refine .of_derive fun c depth s => ?_
  have hdefines : g.defines symbol = h.defines symbol := (hagree symbol (.inl rfl)).defines_eq
  cases hsymbol : h.defines symbol with
  | false => simp only [Grammar.derive, hdefines, hsymbol, Bool.false_eq_true, if_false]
  | true =>
    rw [derive_of_defines g c depth (hdefines.trans hsymbol), derive_of_defines h c depth hsymbol,
      expand_congr hagree]

/-- **A derivation depends on no rule but those that it looks up.** Let two grammars say the same
about a symbol, and about every token in an alternative of a symbol that the first one reaches from
it: both define the token with the same alternatives, or none of them defines it. Then they derive
alike from the symbol.

In particular, let the grammars be read, and let a rule of a symbol that is looked up stand in both
of them or in none. Whatever other rules were added, removed or changed between the two, the first
grammar derives like the second one. -/
theorem derivesAlike_of_agreeOn_lookedUp (g h : Grammar) (symbol : String) :
    ((∀ token, g.LooksUp symbol token → g.AgreeOn h token) → g.DerivesAlike h symbol) ∧
      ((∃ lines, ofLines lines = .ok g) → (∃ lines, ofLines lines = .ok h) →
        (∀ r : Rule, g.LooksUp symbol r.symbol → (r ∈ g.rules ↔ r ∈ h.rules)) →
        g.DerivesAlike h symbol) := by
  refine ⟨.of_agreeOn, ?_⟩
  rintro ⟨lines, hg⟩ ⟨lines', hh⟩ hrules
  refine .of_agreeOn fun token hlookup => ?_
  exact agreeOn_of_mem_iff (wellFormed_of_ofLines hg) (wellFormed_of_ofLines hh)
    fun r hr => hrules r (hr ▸ hlookup)

/-- A recursive symbol, in two grammars in which the rules stand in another order, that of `z` has
changed and there is one more, of a symbol that no token can name. Neither of them defines the
terminals of the rules that are looked up. -/
theorem derivesAlike_of_agreeOn_lookedUp_recursive :
    ∃ g h : Grammar, ofLines ["s::=a x|s b", "a::=y|", "b::=s a", "z::=a z"] = .ok g ∧
      ofLines ["z::=x", "b::=s a", "s t::=z", "a::=y|", "s::=a x|s b"] = .ok h ∧
      ¬ g.AgreeOn h "z" ∧
      (∀ token, g.LooksUp "s" token → g.AgreeOn h token) ∧ g.DerivesAlike h "s" ∧
      (∀ r : Rule, h.LooksUp "s" r.symbol → (r ∈ h.rules ↔ r ∈ g.rules)) ∧
      h.DerivesAlike g "s" := by
  let g : Grammar := ⟨[⟨"s", [["a", "x"], ["s", "b"]]⟩, ⟨"a", [["y"], []]⟩, ⟨"b", [["s", "a"]]⟩,
    ⟨"z", [["a", "z"]]⟩]⟩
  let h : Grammar := ⟨[⟨"z", [["x"]]⟩, ⟨"b", [["s", "a"]]⟩, ⟨"s t", [["z"]]⟩, ⟨"a", [["y"], []]⟩,
    ⟨"s", [["a", "x"], ["s", "b"]]⟩]⟩
  have hg : ofLines ["s::=a x|s b", "a::=y|", "b::=s a", "z::=a z"] = .ok g := by decide +kernel
  have hh : ofLines ["z::=x", "b::=s a", "s t::=z", "a::=y|", "s::=a x|s b"] = .ok h := by
    decide +kernel
  -- all that is looked up from `s`, in both grammars
  let tokens : List String := ["s", "a", "b", "x", "y"]
  have hlookup : ∀ {token}, g.LooksUp "s" token → token ∈ tokens :=
    (wellFormed_of_ofLines hg).mem_of_looksUp (by decide +kernel) (by decide +kernel)
  have hlookup' : ∀ {token}, h.LooksUp "s" token → token ∈ tokens :=
    (wellFormed_of_ofLines hh).mem_of_looksUp (by decide +kernel) (by decide +kernel)
  have hagree : ∀ token ∈ tokens, g.alternatives? token = h.alternatives? token := by
    decide +kernel
  have hkept : ∀ r ∈ g.rules ++ h.rules, r.symbol ∈ tokens → (r ∈ h.rules ∧ r ∈ g.rules) := by
    decide +kernel
  have hrules : ∀ r : Rule, h.LooksUp "s" r.symbol → (r ∈ h.rules ↔ r ∈ g.rules) := fun r hr =>
    ⟨fun hmem => (hkept r (List.mem_append_right _ hmem) (hlookup' hr)).2,
      fun hmem => (hkept r (List.mem_append_left _ hmem) (hlookup' hr)).1⟩
  have hdiffer : g.alternatives? "z" ≠ h.alternatives? "z" := by decide +kernel
  refine ⟨g, h, hg, hh, hdiffer, fun token ht => hagree token (hlookup ht), ?_, hrules, ?_⟩
  · exact (derivesAlike_of_agreeOn_lookedUp g h "s").1 fun token ht => hagree token (hlookup ht)
  · exact (derivesAlike_of_agreeOn_lookedUp h g "s").2 ⟨_, hh⟩ ⟨_, hg⟩ hrules

end SentenceGen.Grammar
