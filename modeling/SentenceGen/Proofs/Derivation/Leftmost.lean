import SentenceGen.Proofs.Derivation.Rewriting
import SentenceGen.Proofs.Derivation.Trees

/-!
# Derivations refine leftmost rewriting

A derivation descends into a tree, while leftmost rewriting goes over a flat form again and again.
They take the same picks all the same. `RewritesTo` says of the outcome of an expansion what it
means for a form in which the symbol stands behind terminals: rewriting turns the symbol into the
yield of the tree, and then finds itself with the picks that the expansion left; or it fails as the
expansion did. This passes from the tokens of an alternative to its symbol (`RewritesTo.of_draw_ok`)
and from one token to the next (`RewritesTo.cons`), so that it holds of every expansion.

The empty leaf that an alternative without tokens leaves in the tree is no part of a yield, just as
nothing of the symbol is left in the form.

* **equality of outcomes** (`generate_eq_rewrite`): within the depth that is allowed, a sentence is
  generated, or fails, as the form of the symbol alone is rewritten by the same script;
* **refinement** (`generate_iff_rewriting`): the same in terms of the relation `Rewriting`, for the
  sentences that are generated.
-/

namespace SentenceGen.Grammar

variable {g : Grammar}

/-- The outcome `r` is what rewriting by the picks makes of the tokens, wherever they stand behind
terminals; or there are as many picks as the expansions of the tokens may be nested, which may then
be nested too deep. -/
inductive RewritesTo (g : Grammar) (depth : Nat) (tokens : List String) (picks : List Int)
    (asked : List Nat) : Outcome SourceError (Source × List Nat) (List String) → Prop
  | done {form : List String} {picks' : List Int} {asked' : List Nat}
      (hlength : picks'.length ≤ picks.length) (hform : g.AllTerminal form)
      (hrewrite : ∀ front back, g.AllTerminal front →
        g.rewrite picks (front ++ tokens ++ back) asked =
          g.rewrite picks' (front ++ form ++ back) asked') :
      RewritesTo g depth tokens picks asked (.ok form (.script picks', asked'))
  | failed {e : DerivationError SourceError} {s : Source × List Nat} (he : e ≠ .tooDeep)
      (hrewrite : ∀ front back, g.AllTerminal front →
        g.rewrite picks (front ++ tokens ++ back) asked = .error e s) :
      RewritesTo g depth tokens picks asked (.error e s)
  | tooDeep {s : Source × List Nat} (hdepth : depth ≤ picks.length) :
      RewritesTo g depth tokens picks asked (.error .tooDeep s)

namespace RewritesTo

variable {depth : Nat} {symbol : String} {tokens : List String} {picks picks' : List Int}
  {asked asked' : List Nat} {r : Outcome SourceError (Source × List Nat) (List String)}

/-! ### What it means for the tokens alone -/

theorem rewrite_eq (h : g.RewritesTo depth tokens picks asked r) (hr : r.WithinDepth) :
    g.rewrite picks tokens asked = r := by
  have hnone : g.AllTerminal [] := List.forall_mem_nil _
  cases h with
  | done _ hform hrewrite =>
    have halone := hrewrite [] [] hnone
    rw [List.nil_append, List.append_nil, List.nil_append, List.append_nil] at halone
    rw [halone, rewrite_of_allTerminal hform]
  | failed _ hrewrite =>
    have halone := hrewrite [] [] hnone
    rwa [List.nil_append, List.append_nil] at halone
  | tooDeep _ => exact absurd rfl (hr _)

/-- Every level of an expansion takes a pick. -/
theorem withinDepth (h : g.RewritesTo depth tokens picks asked r) (hlt : picks.length < depth) :
    r.WithinDepth := by
  cases h with
  | done _ _ _ => exact fun s hs => by cases hs
  | failed he _ => exact fun s hs => he (EStateM.Result.error.inj hs).1
  | tooDeep hdepth => omega

/-- What is left of a script is a script. -/
theorem exists_script {form : List String} {s : Source × List Nat}
    (h : g.RewritesTo depth tokens picks asked (.ok form s)) :
    ∃ picks' asked', s = (.script picks', asked') := by
  cases h with
  | done _ _ _ => exact ⟨_, _, rfl⟩

/-! ### Tokens one after the other -/

theorem of_allTerminal (h : g.AllTerminal tokens) :
    g.RewritesTo depth tokens picks asked (.ok tokens (.script picks, asked)) :=
  .done (Nat.le_refl _) h fun _ _ _ => rfl

/-- A failure at the first token is the failure of them all. -/
theorem cons_error {e : DerivationError SourceError} {s : Source × List Nat}
    (h : g.RewritesTo depth [symbol] picks asked (.error e s)) (tokens : List String) :
    g.RewritesTo depth (symbol :: tokens) picks asked (.error e s) := by
  cases h with
  | failed he hrewrite =>
    refine .failed he fun front back hfront => ?_
    have hsymbol := hrewrite front (tokens ++ back) hfront
    rw [← List.append_assoc, List.append_assoc front] at hsymbol
    exact hsymbol
  | tooDeep hdepth => exact .tooDeep hdepth

/-- Once the first token is rewritten to terminals, it is the turn of the others. -/
theorem cons {form : List String}
    (h : g.RewritesTo depth [symbol] picks asked (.ok form (.script picks', asked')))
    (hrest : g.RewritesTo depth tokens picks' asked' r) :
    g.RewritesTo depth (symbol :: tokens) picks asked (Outcome.map (form ++ ·) r) := by
  cases h with
  | done hlength hform hrewrite =>
    -- what is rewritten first stands behind `front`, and the other tokens belong to what follows
    have hfirst : ∀ front back, g.AllTerminal front →
        g.rewrite picks (front ++ symbol :: tokens ++ back) asked =
          g.rewrite picks' (front ++ form ++ tokens ++ back) asked' := by
      intro front back hfront
      have hsymbol := hrewrite front (tokens ++ back) hfront
      rw [← List.append_assoc, ← List.append_assoc, List.append_assoc front] at hsymbol
      exact hsymbol
    cases hrest with
    | done hlength' hform' hrewrite' =>
      -- then `front` is longer by `form`
      refine .done (Nat.le_trans hlength' hlength) (hform.append hform') fun front back hfront => ?_
      rw [hfirst front back hfront, hrewrite' _ _ (hfront.append hform), ← List.append_assoc front]
    | failed he hrewrite' =>
      refine .failed he fun front back hfront => ?_
      rw [hfirst front back hfront, hrewrite' _ _ (hfront.append hform)]
    | tooDeep hdepth => exact .tooDeep (Nat.le_trans hdepth hlength)

/-! ### From the tokens of an alternative to its symbol -/

/-- A symbol behind terminals, with the tokens behind it, is the leftmost nonterminal. -/
private theorem leftmost?_singleton {front : List String} (hfront : g.AllTerminal front)
    {alternatives : List Alternative} (hrule : g.alternatives? symbol = some alternatives)
    (back : List String) :
    g.leftmost? (front ++ [symbol] ++ back) = some (front, symbol, back) := by
  rw [List.append_assoc, List.singleton_append]
  exact leftmost?_append_cons hfront (defines_of_alternatives? hrule) back

/-- A pick of an alternative is a step of rewriting, one level above its tokens. -/
theorem step {alternatives : List Alternative} {pick : Int}
    (hrule : g.alternatives? symbol = some alternatives)
    (hpick : select? alternatives pick = some tokens)
    (hr : g.RewritesTo depth tokens picks (asked ++ [alternatives.length]) r) :
    g.RewritesTo (depth + 1) [symbol] (pick :: picks) asked r := by
  have hstep : ∀ front back, g.AllTerminal front →
      g.rewrite (pick :: picks) (front ++ [symbol] ++ back) asked =
        g.rewrite picks (front ++ tokens ++ back) (asked ++ [alternatives.length]) := by
    intro front back hfront
    rw [rewrite_cons (leftmost?_singleton hfront hrule back) hrule, hpick]
  cases hr with
  | done hlength hform hrewrite =>
    refine .done (Nat.le_succ_of_le hlength) hform fun front back hfront => ?_
    rw [hstep front back hfront, hrewrite front back hfront]
  | failed he hrewrite =>
    refine .failed he fun front back hfront => ?_
    rw [hstep front back hfront, hrewrite front back hfront]
  | tooDeep hdepth => exact .tooDeep (Nat.succ_le_succ hdepth)

/-- A script that is used up gives no pick, and the question is recorded. -/
private theorem ask_nil (n : Nat) (asked : List Nat) :
    Source.chooser.recording.ask n (.script [], asked) =
      .error .exhausted (.script [], asked ++ [n]) :=
  rfl

/-- A script gives its next pick, and the question is recorded. -/
private theorem ask_cons (n : Nat) (pick : Int) (picks : List Int) (asked : List Nat) :
    Source.chooser.recording.ask n (.script (pick :: picks), asked) =
      .ok pick (.script picks, asked ++ [n]) :=
  rfl

/-- A draw that fails is a step of rewriting that fails. -/
theorem of_draw_error (hsymbol : g.defines symbol = true) {e : DerivationError SourceError}
    {s : Source × List Nat}
    (h : g.draw Source.chooser.recording symbol (.script picks, asked) = .error e s) :
    g.RewritesTo depth [symbol] picks asked (.error e s) := by
  rw [defines_eq_isSome, Option.isSome_iff_exists] at hsymbol
  obtain ⟨alternatives, hrule⟩ := hsymbol
  cases picks with
  | nil =>
    rw [draw_of_ask_error hrule (ask_nil _ asked)] at h
    obtain ⟨rfl, rfl⟩ := EStateM.Result.error.inj h
    refine .failed (by simp) fun front back hfront => ?_
    rw [rewrite_nil (leftmost?_singleton hfront hrule back) hrule]
  | cons pick picks =>
    rw [draw_of_ask_ok hrule (ask_cons _ pick picks asked)] at h
    cases hpick : select? alternatives pick with
    | some tokens => simp [hpick] at h
    | none =>
      rw [hpick] at h
      obtain ⟨rfl, rfl⟩ := EStateM.Result.error.inj h
      refine .failed (by simp) fun front back hfront => ?_
      rw [rewrite_cons (leftmost?_singleton hfront hrule back) hrule, hpick]

/-- A draw that succeeds takes the next pick, and is a step of rewriting. -/
theorem of_draw_ok {s : Source × List Nat}
    (h : g.draw Source.chooser.recording symbol (.script picks, asked) = .ok tokens s) :
    ∃ picks' asked', s = (.script picks', asked') ∧
      ∀ {depth r}, g.RewritesTo depth tokens picks' asked' r →
        g.RewritesTo (depth + 1) [symbol] picks asked r := by
  obtain ⟨alternatives, hrule, -⟩ := exists_rule_of_draw h
  cases picks with
  | nil =>
    rw [draw_of_ask_error hrule (ask_nil _ asked)] at h
    cases h
  | cons pick picks =>
    rw [draw_of_ask_ok hrule (ask_cons _ pick picks asked)] at h
    cases hpick : select? alternatives pick with
    | none => simp [hpick] at h
    | some tokens' =>
      rw [hpick] at h
      obtain ⟨rfl, rfl⟩ := EStateM.Result.ok.inj h
      exact ⟨picks, _, rfl, step hrule hpick⟩

end RewritesTo

/-! ### Whole expansions -/

private theorem map_forestYield_cons {ε σ : Type} (child : Tree) (r : Outcome ε σ (List Tree)) :
    Outcome.map Tree.forestYield (Outcome.map (child :: ·) r) =
      Outcome.map (child.yield ++ ·) (Outcome.map Tree.forestYield r) := by
  cases r with
  | ok children s => simp only [Outcome.map_ok, Tree.forestYield_cons]
  | error e s => rfl

/-- The induction behind `rewritesTo_expand`, with the tokens of an alternative beside symbols. -/
private theorem rewritesTo_of_expand (hg : g.WellFormed) :
    (∀ depth symbol s, ∀ picks asked, s = (.script picks, asked) → g.defines symbol = true →
      g.RewritesTo depth [symbol] picks asked
        (Outcome.map Tree.yield (g.expand Source.chooser.recording depth symbol s))) ∧
      ∀ depth tokens s, ∀ picks asked, s = (.script picks, asked) → (∀ token ∈ tokens, token ≠ "") →
        g.RewritesTo depth tokens picks asked
          (Outcome.map Tree.forestYield
            (g.expandTokens Source.chooser.recording depth tokens s)) := by
  refine expand_induction g Source.chooser.recording
    (P := fun depth symbol s r => ∀ picks asked, s = (.script picks, asked) →
      g.defines symbol = true → g.RewritesTo depth [symbol] picks asked (Outcome.map Tree.yield r))
    (Q := fun depth tokens s r => ∀ picks asked, s = (.script picks, asked) →
      (∀ token ∈ tokens, token ≠ "") →
        g.RewritesTo depth tokens picks asked (Outcome.map Tree.forestYield r))
    ?tooDeep ?refused ?empty ?expansion ?nil ?terminal ?failed ?nonterminal
  case tooDeep =>
    intro symbol s picks asked _ _
    exact .tooDeep (Nat.zero_le _)
  case refused =>
    rintro depth symbol s e s' hdraw picks asked rfl hsymbol
    exact .of_draw_error hsymbol hdraw
  case empty =>
    rintro depth symbol s s' hdraw picks asked rfl _
    obtain ⟨picks', asked', rfl, hstep⟩ := RewritesTo.of_draw_ok hdraw
    -- the empty leaf is no part of the yield
    rw [Outcome.map_ok, Tree.yield_empty_leaf]
    exact hstep (.of_allTerminal (List.forall_mem_nil _))
  case expansion =>
    rintro depth symbol s token tokens s' hdraw hQ picks asked rfl _
    obtain ⟨picks', asked', rfl, hstep⟩ := RewritesTo.of_draw_ok hdraw
    obtain ⟨alternatives, hrule, hmem⟩ := exists_rule_of_draw hdraw
    have htokens := hstep (hQ picks' asked' rfl fun t ht => (hg.isToken hrule hmem ht).ne_empty)
    -- there is a child, so the yield of the node is that of the children
    cases hrun : g.expandTokens Source.chooser.recording depth (token :: tokens)
        (.script picks', asked') with
    | error e s =>
      rw [hrun] at htokens
      exact htokens
    | ok children s =>
      rw [hrun] at htokens
      rw [Outcome.map_ok, Outcome.map_ok,
        Tree.yield_node (derivesTokens_of_expandTokens hrun).ne_nil]
      exact htokens
  case nil =>
    rintro depth s picks asked rfl _
    exact .of_allTerminal (List.forall_mem_nil _)
  case terminal =>
    rintro depth token tokens s hterminal hQ picks asked rfl hne
    obtain ⟨htoken, htokens⟩ := List.forall_mem_cons.mp hne
    have hfirst : g.AllTerminal [token] := List.forall_mem_singleton.mpr hterminal
    rw [map_forestYield_cons, Tree.yield_leaf htoken]
    exact .cons (.of_allTerminal hfirst) (hQ picks asked rfl htokens)
  case failed =>
    rintro depth token tokens s e s' hdefined hP picks asked rfl _
    exact (hP picks asked rfl hdefined).cons_error tokens
  case nonterminal =>
    rintro depth token tokens s child s' hdefined hP hQ picks asked rfl hne
    have hfirst := hP picks asked rfl hdefined
    obtain ⟨picks', asked', rfl⟩ := hfirst.exists_script
    rw [map_forestYield_cons]
    exact .cons hfirst (hQ picks' asked' rfl (List.forall_mem_cons.mp hne).2)

/-- **An expansion does to its symbol what rewriting does.** -/
theorem rewritesTo_expand (hg : g.WellFormed) {symbol : String} (hsymbol : g.defines symbol = true)
    (depth : Nat) (picks : List Int) (asked : List Nat) :
    g.RewritesTo depth [symbol] picks asked
      (Outcome.map Tree.yield
        (g.expand Source.chooser.recording depth symbol (.script picks, asked))) :=
  (rewritesTo_of_expand hg).1 depth symbol _ picks asked rfl hsymbol

/-! ### Sentences -/

variable {symbol : String} {depth : Nat} {picks : List Int}

/-- A derivation that takes more levels than there are picks finds the script used up. -/
theorem withinDepth_generate (hg : g.WellFormed) (hsymbol : g.defines symbol = true)
    (hdepth : picks.length < depth) (asked : List Nat) :
    Outcome.WithinDepth
      (g.generate Source.chooser.recording depth symbol (.script picks, asked)) := by
  have hrewrites := rewritesTo_expand hg hsymbol depth picks asked
  rw [generate_eq_map, derive_of_defines g _ depth hsymbol, Outcome.withinDepth_map,
    ← Outcome.withinDepth_map (f := Tree.yield)]
  exact hrewrites.withinDepth hdepth

/-- **Generating is rewriting.** Within the depth that is allowed, the outcome of a generation by a
script, be it a sentence or a failure, is that of rewriting the symbol by the same script. -/
theorem generate_eq_rewrite (hg : g.WellFormed) (hsymbol : g.defines symbol = true)
    {asked : List Nat}
    (h : Outcome.WithinDepth
      (g.generate Source.chooser.recording depth symbol (.script picks, asked))) :
    g.generate Source.chooser.recording depth symbol (.script picks, asked) =
      Outcome.map (" ".intercalate) (g.rewrite picks [symbol] asked) := by
  have hrewrites := rewritesTo_expand hg hsymbol depth picks asked
  rw [generate_eq_map, derive_of_defines g _ depth hsymbol] at h ⊢
  rw [hrewrites.rewrite_eq (Outcome.withinDepth_map.mpr (Outcome.withinDepth_map.mp h))]
  cases hrun : g.expand Source.chooser.recording depth symbol (.script picks, asked) with
  | error e s => rfl
  | ok t s =>
    have ht := derives_of_expand hrun
    simp only [Outcome.map_ok, hg.sentence_eq ht]

/-- **Derivation refines leftmost rewriting.** For every grammar that was read, every symbol that it
defines and every script of picks, and within the depth that is allowed, for which one more than
the number of picks always suffices:

* whatever is generated leaves the picks behind some first ones;
* a sentence is generated with exactly the first `k` picks iff leftmost rewriting of the symbol
  alone reaches a form without nonterminals by exactly these, and by no fewer. The sentence is this
  form with single spaces in between, and the numbers that were asked for are those of the
  alternatives of the symbols that were rewritten, in order. -/
theorem generate_iff_rewriting {lines : List String} {g : Grammar} (h : ofLines lines = .ok g)
    {symbol : String} (hsymbol : g.defines symbol = true) (picks : List Int) :
    (∀ depth, picks.length < depth → Outcome.WithinDepth
      (g.generate Source.chooser.recording depth symbol (.script picks, []))) ∧
    ∀ depth, Outcome.WithinDepth
        (g.generate Source.chooser.recording depth symbol (.script picks, [])) →
      (∀ sentence s,
        g.generate Source.chooser.recording depth symbol (.script picks, []) = .ok sentence s →
          ∃ k ≤ picks.length, ∃ counts, s = (.script (picks.drop k), counts)) ∧
      ∀ k ≤ picks.length, ∀ sentence counts,
        g.generate Source.chooser.recording depth symbol (.script picks, []) =
            .ok sentence (.script (picks.drop k), counts) ↔
          ∃ form, g.Rewriting [symbol] (picks.take k) counts form ∧
            (∀ token ∈ form, g.defines token = false) ∧
            (∀ j < k, ∀ counts' form', g.Rewriting [symbol] (picks.take j) counts' form' →
              ∃ token ∈ form', g.defines token = true) ∧
            sentence = " ".intercalate form := by
  have hg := wellFormed_of_ofLines h
  refine ⟨fun depth hdepth => withinDepth_generate hg hsymbol hdepth [], fun depth hwithin => ?_⟩
  rw [generate_eq_rewrite hg hsymbol hwithin]
  constructor
  · intro sentence s hs
    obtain ⟨form, hform, rfl⟩ := Outcome.map_eq_ok_iff.mp hs
    obtain ⟨used, rest, counts, rfl, rfl, -, -⟩ := exists_rewriting_of_rewrite hform
    exact ⟨used.length, by simp, counts, by simp⟩
  · intro k hk sentence counts
    rw [Outcome.map_eq_ok_iff]
    refine exists_congr fun form => ?_
    rw [rewrite_eq_ok_iff]
    constructor
    · rintro ⟨⟨used, counts, hpicks, rfl, hrewriting, hform⟩, rfl⟩
      -- what is left over tells which picks were used
      obtain rfl : used = picks.take k := by
        refine List.append_cancel_right (hpicks.symm.trans ?_)
        exact (List.take_append_drop k picks).symm
      exact ⟨hrewriting, hform,
        fun j hj _ _ hmid => hrewriting.exists_nonterminal_of_take hk hj hmid, rfl⟩
    · rintro ⟨hrewriting, hform, -, rfl⟩
      exact ⟨⟨picks.take k, counts, (List.take_append_drop k picks).symm, rfl, hrewriting, hform⟩,
        rfl⟩

/-- Two nonterminals side by side, one of which recurses, and a pick that is left over. -/
theorem generate_iff_rewriting_leftover :
    ∃ g : Grammar, ofLines ["s::=n x n|", "n::=a|n b"] = .ok g ∧ g.defines "s" = true ∧
      Outcome.WithinDepth
        (g.generate Source.chooser.recording 6 "s" (.script [0, 1, 0, 0, 7], [])) ∧
      4 ≤ [(0 : Int), 1, 0, 0, 7].length ∧
      ∃ form, g.Rewriting ["s"] [0, 1, 0, 0] [2, 2, 2, 2] form ∧
        (∀ token ∈ form, g.defines token = false) ∧ "a b x a" = " ".intercalate form := by
  have hg : ofLines ["s::=n x n|", "n::=a|n b"] =
      .ok ⟨[⟨"s", [["n", "x", "n"], []]⟩, ⟨"n", [["a"], ["n", "b"]]⟩]⟩ := by decide +kernel
  have hsymbol :
      defines ⟨[⟨"s", [["n", "x", "n"], []]⟩, ⟨"n", [["a"], ["n", "b"]]⟩]⟩ "s" = true := by
    decide +kernel
  obtain ⟨hsuffices, hrefines⟩ := generate_iff_rewriting hg hsymbol [0, 1, 0, 0, 7]
  have hwithin := hsuffices 6 (by decide)
  obtain ⟨form, hrewriting, hform, -, hsentence⟩ :=
    ((hrefines 6 hwithin).2 4 (by decide) "a b x a" [2, 2, 2, 2]).mp rfl
  exact ⟨_, hg, hsymbol, hwithin, by decide, form, hrewriting, hform, hsentence⟩

end SentenceGen.Grammar
