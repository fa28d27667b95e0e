import SentenceGen.Choice.Source
import SentenceGen.Derivation.Validity
import SentenceGen.Proofs.Derivation.Expansion
import SentenceGen.Proofs.Derivation.Sentence
import SentenceGen.Proofs.Grammar.WellFormed

/-!
# Derivations and derivation trees

`Grammar.derive` builds trees by asking a chooser; `Grammar.Derives` tells by the rules alone which
trees are derivation trees. They agree:

* **soundness** (`derives_of_expand`): whatever a chooser answers, and however deep expansions may
  be nested, a tree that comes out is a derivation tree;
* **completeness** (`exists_picks_of_derives`): the picks that lead to a derivation tree, taken in
  the order in which a derivation asks for them, make a script for it. The script is used up, and a
  depth that is no less than the height of the tree suffices.

`derive_sound_complete` joins the two, and adds what the kinds of nodes in such a tree are. What
such a tree yields are terminal tokens of the grammar (`hasToken_of_mem_yield`), so they are words,
and its sentence is their join (`WellFormed.sentence_eq`).
-/

namespace SentenceGen

namespace Tree

mutual
/-- The tree itself and the trees below its root. -/
def subtrees : Tree → List Tree
  | unexpanded label => [unexpanded label]
  | node label children => node label children :: forestSubtrees children

/-- Several trees and all that is below their roots. -/
def forestSubtrees : List Tree → List Tree
  | [] => []
  | t :: ts => t.subtrees ++ forestSubtrees ts
end

theorem height_node {children : List Tree} (h : children ≠ []) (label : String) :
    (node label children).height = forestHeight children + 1 := by
  obtain ⟨child, rest, rfl⟩ := List.exists_cons_of_ne_nil h
  rw [height, forestHeight]

end Tree

namespace Grammar

variable {g : Grammar}

theorem defines_of_derives {symbol : String} {t : Tree} (h : g.Derives symbol t) :
    g.defines symbol = true := by
  cases h with
  | empty hrule _ => exact defines_of_alternatives? hrule
  | expansion hrule _ _ => exact defines_of_alternatives? hrule

theorem DerivesTokens.ne_nil {token : String} {tokens : List String} {children : List Tree}
    (h : g.DerivesTokens (token :: tokens) children) : children ≠ [] := by
  cases h <;> exact List.cons_ne_nil _ _

/-! ### Soundness -/

variable {σ ε : Type} {c : Chooser σ ε}

/-- **Soundness.** Every tree that an expansion gives is a derivation tree, and the trees that come
of tokens stand for them. -/
private theorem expand_sound (g : Grammar) (c : Chooser σ ε) :
    (∀ depth symbol s t s', g.expand c depth symbol s = .ok t s' → g.Derives symbol t) ∧
      ∀ depth tokens s ts s', g.expandTokens c depth tokens s = .ok ts s' →
        g.DerivesTokens tokens ts := by
  refine expand_induction g c
    (P := fun _ symbol _ r => ∀ t s', r = .ok t s' → g.Derives symbol t)
    (Q := fun _ tokens _ r => ∀ ts s', r = .ok ts s' → g.DerivesTokens tokens ts)
    ?tooDeep ?refused ?empty ?expansion ?nil ?terminal ?failed ?nonterminal
  case tooDeep =>
    intro symbol s t s' hr
    cases hr
  case refused =>
    intro depth symbol s e s' _ t s'' hr
    cases hr
  case empty =>
    intro depth symbol s s' hdraw t s'' hr
    obtain ⟨rfl, -⟩ := EStateM.Result.ok.inj hr
    obtain ⟨alternatives, hrule, hmem⟩ := exists_rule_of_draw hdraw
    exact .empty hrule hmem
  case expansion =>
    intro depth symbol s token tokens s' hdraw hQ t s'' hr
    obtain ⟨children, hchildren, rfl⟩ := Outcome.map_eq_ok_iff.mp hr
    obtain ⟨alternatives, hrule, hmem⟩ := exists_rule_of_draw hdraw
    exact .expansion hrule hmem (hQ children s'' hchildren)
  case nil =>
    intro depth s ts s' hr
    obtain ⟨rfl, -⟩ := EStateM.Result.ok.inj hr
    exact .nil
  case terminal =>
    intro depth token tokens s hterminal hQ ts s' hr
    obtain ⟨rest, hrest, rfl⟩ := Outcome.map_eq_ok_iff.mp hr
    exact .terminal hterminal (hQ rest s' hrest)
  case failed =>
    intro depth token tokens s e s' _ _ ts s'' hr
    cases hr
  case nonterminal =>
    intro depth token tokens s child s' _ hP hQ ts s'' hr
    obtain ⟨rest, hrest, rfl⟩ := Outcome.map_eq_ok_iff.mp hr
    exact .nonterminal (hP child s' rfl) (hQ rest s'' hrest)

theorem derives_of_expand {depth : Nat} {symbol : String} {s s' : σ} {t : Tree}
    (h : g.expand c depth symbol s = .ok t s') : g.Derives symbol t :=
  (expand_sound g c).1 depth symbol s t s' h

theorem derivesTokens_of_expandTokens {depth : Nat} {tokens : List String} {s s' : σ}
    {ts : List Tree} (h : g.expandTokens c depth tokens s = .ok ts s') :
    g.DerivesTokens tokens ts :=
  (expand_sound g c).2 depth tokens s ts s' h

theorem derives_of_derive {depth : Nat} {symbol : String} {s s' : σ} {t : Tree}
    (h : g.derive c depth symbol s = .ok t s') : g.Derives symbol t := by
  rw [derive] at h
  split_ifs at h
  · exact derives_of_expand h
  · cases h

/-! ### Completeness -/

/-- A script gives its next pick. -/
theorem draw_script_cons {symbol : String} {alternatives : List Alternative} {tokens : Alternative}
    {pick : Int} (hrule : g.alternatives? symbol = some alternatives)
    (hpick : select? alternatives pick = some tokens) (picks : List Int) :
    g.draw Source.chooser symbol (.script (pick :: picks)) = .ok tokens (.script picks) := by
  have hask : Source.chooser.ask alternatives.length (.script (pick :: picks)) =
      .ok pick (.script picks) := rfl
  rw [draw_of_ask_ok hrule hask, hpick]

mutual
/-- **Completeness.** For every derivation tree there is a script that leads to it, whatever
follows in the script. -/
theorem exists_picks_of_derives {symbol : String} {t : Tree} :
    g.Derives symbol t → ∃ picks : List Int, ∀ depth rest, t.height ≤ depth →
      g.expand Source.chooser depth symbol (.script (picks ++ rest)) = .ok t (.script rest)
  | .empty hrule hmem => by
    obtain ⟨pick, hpick⟩ := exists_select?_of_mem hmem
    refine ⟨[pick], fun depth rest hdepth => ?_⟩
    cases depth with
    | zero => simp [Tree.height] at hdepth
    | succ depth => exact expand_succ_of_nil g _ depth (draw_script_cons hrule hpick rest)
  | .expansion hrule hmem hchildren => by
    obtain ⟨pick, hpick⟩ := exists_select?_of_mem hmem
    obtain ⟨picks, hpicks⟩ := exists_picks_of_derivesTokens hchildren
    -- the pick of the root is asked for first
    refine ⟨pick :: picks, fun depth rest hdepth => ?_⟩
    rw [Tree.height_node hchildren.ne_nil] at hdepth
    cases depth with
    | zero => omega
    | succ depth =>
      rw [List.cons_append, expand_succ_of_cons g _ depth (draw_script_cons hrule hpick _),
        hpicks depth rest (by omega), Outcome.map_ok]

/-- The scripts for the tokens follow one another. -/
theorem exists_picks_of_derivesTokens {tokens : List String} {children : List Tree} :
    g.DerivesTokens tokens children → ∃ picks : List Int, ∀ depth rest,
      Tree.forestHeight children ≤ depth →
      g.expandTokens Source.chooser depth tokens (.script (picks ++ rest)) =
        .ok children (.script rest)
  | .nil => ⟨[], fun _ _ _ => rfl⟩
  | .terminal hterminal hrest => by
    obtain ⟨picks, hpicks⟩ := exists_picks_of_derivesTokens hrest
    refine ⟨picks, fun depth rest hdepth => ?_⟩
    rw [Tree.forestHeight] at hdepth
    rw [expandTokens_of_terminal g _ depth hterminal, hpicks depth rest (by omega),
      Outcome.map_ok]
  | .nonterminal hchild hrest => by
    obtain ⟨first, hfirst⟩ := exists_picks_of_derives hchild
    obtain ⟨picks, hpicks⟩ := exists_picks_of_derivesTokens hrest
    -- what the first child leaves of the script starts with the picks of the others
    refine ⟨first ++ picks, fun depth rest hdepth => ?_⟩
    rw [Tree.forestHeight] at hdepth
    rw [List.append_assoc, expandTokens_of_ok g _ depth (defines_of_derives hchild)
      (hfirst depth (picks ++ rest) (by omega)), hpicks depth rest (by omega), Outcome.map_ok]
end

/-! ### The nodes of a derivation tree -/

/-- The node was expanded, and is a leaf exactly if its label is not a nonterminal. -/
def IsProperNode (g : Grammar) (t : Tree) : Prop :=
  ∃ label children, t = .node label children ∧ (children = [] ↔ g.defines label = false)

theorem isProperNode_leaf {token : String} (h : g.defines token = false) :
    g.IsProperNode (.leaf token) :=
  ⟨token, [], rfl, by simp [h]⟩

theorem isProperNode_node {symbol : String} {children : List Tree} (h : g.defines symbol = true)
    (hne : children ≠ []) : g.IsProperNode (.node symbol children) :=
  ⟨symbol, children, rfl, by simp [h, hne]⟩

mutual
/-- All nodes of a derivation tree are proper, the empty leaf included, since no grammar that was
read defines the empty symbol. -/
theorem isProperNode_of_derives (hg : g.WellFormed) {symbol : String} {t : Tree} :
    g.Derives symbol t → ∀ u ∈ t.subtrees, g.IsProperNode u
  | .empty hrule _ => by
    intro u hu
    have hempty : g.defines "" = false :=
      Bool.eq_false_iff.mpr fun h => hg.ne_empty_of_defines h rfl
    simp only [Tree.subtrees, Tree.forestSubtrees, List.append_nil, List.mem_cons,
      List.not_mem_nil, or_false] at hu
    rcases hu with rfl | rfl
    · exact isProperNode_node (defines_of_alternatives? hrule) (List.cons_ne_nil _ _)
    · exact isProperNode_leaf hempty
  | .expansion hrule _ hchildren => by
    intro u hu
    rw [Tree.subtrees] at hu
    rcases List.mem_cons.mp hu with rfl | hbelow
    · exact isProperNode_node (defines_of_alternatives? hrule) hchildren.ne_nil
    · exact isProperNode_of_derivesTokens hg hchildren u hbelow

theorem isProperNode_of_derivesTokens (hg : g.WellFormed) {tokens : List String}
    {children : List Tree} :
    g.DerivesTokens tokens children → ∀ u ∈ Tree.forestSubtrees children, g.IsProperNode u
  | .nil => by simp [Tree.forestSubtrees]
  | .terminal hterminal hrest => by
    intro u hu
    rw [Tree.forestSubtrees] at hu
    rcases List.mem_append.mp hu with hfirst | hlater
    · simp only [Tree.subtrees, Tree.forestSubtrees, List.mem_singleton] at hfirst
      exact hfirst ▸ isProperNode_leaf hterminal
    · exact isProperNode_of_derivesTokens hg hrest u hlater
  | .nonterminal hchild hrest => by
    intro u hu
    rw [Tree.forestSubtrees] at hu
    rcases List.mem_append.mp hu with hfirst | hlater
    · exact isProperNode_of_derives hg hchild u hfirst
    · exact isProperNode_of_derivesTokens hg hrest u hlater
end

/-! ### The words of a derivation tree -/

/-- The token occurs in an alternative of a rule. -/
def HasToken (g : Grammar) (token : String) : Prop :=
  ∃ symbol alternatives tokens, g.alternatives? symbol = some alternatives ∧
    tokens ∈ alternatives ∧ token ∈ tokens

theorem WellFormed.isToken_of_hasToken (hg : g.WellFormed) {token : String}
    (h : g.HasToken token) : IsToken token := by
  obtain ⟨symbol, alternatives, tokens, hrule, htokens, htoken⟩ := h
  exact hg.isToken hrule htokens htoken

mutual
/-- What a derivation tree yields are terminal tokens of the grammar. -/
theorem hasToken_of_mem_yield {symbol : String} {t : Tree} :
    g.Derives symbol t → ∀ w ∈ t.yield, g.HasToken w ∧ g.defines w = false
  | .empty _ _ => by simp
  | .expansion hrule hmem hchildren => by
    rw [Tree.yield_node hchildren.ne_nil]
    exact hasToken_of_mem_forestYield hchildren fun token htoken =>
      ⟨symbol, _, _, hrule, hmem, htoken⟩

theorem hasToken_of_mem_forestYield {tokens : List String} {children : List Tree} :
    g.DerivesTokens tokens children → (∀ token ∈ tokens, g.HasToken token) →
      ∀ w ∈ Tree.forestYield children, g.HasToken w ∧ g.defines w = false
  | .nil, _ => by simp
  | .terminal hterminal hrest, htokens => by
    intro w hw
    rw [Tree.forestYield_cons] at hw
    rcases List.mem_append.mp hw with hfirst | hlater
    · obtain rfl := Tree.eq_of_mem_yield_leaf hfirst
      exact ⟨htokens _ List.mem_cons_self, hterminal⟩
    · exact hasToken_of_mem_forestYield hrest (List.forall_mem_cons.mp htokens).2 w hlater
  | .nonterminal hchild hrest, htokens => by
    intro w hw
    rw [Tree.forestYield_cons] at hw
    rcases List.mem_append.mp hw with hfirst | hlater
    · exact hasToken_of_mem_yield hchild w hfirst
    · exact hasToken_of_mem_forestYield hrest (List.forall_mem_cons.mp htokens).2 w hlater
end

/-- The sentence of a derivation tree is its yield, with single spaces in between. -/
theorem WellFormed.sentence_eq (hg : g.WellFormed) {symbol : String} {t : Tree}
    (h : g.Derives symbol t) : t.sentence = " ".intercalate t.yield :=
  Tree.sentence_of_isPhrase fun w hw =>
    (hg.isToken_of_hasToken (hasToken_of_mem_yield h w hw).1).isWord.isPhrase

/-! ### The two directions together -/

/-- **Derivations give exactly the derivation trees.** For every grammar that was read and every
symbol, a tree that is derived with any chooser is a derivation tree, in which every node is
expanded, inner nodes are labelled by nonterminals and leaves are not; and every derivation tree is
derived by some script of picks, which is used up to its last pick and no further, as soon as the
depth is no less than the height of the tree. -/
theorem derive_sound_complete {lines : List String} {g : Grammar} (h : ofLines lines = .ok g)
    (symbol : String) :
    (∀ {σ ε : Type} (c : Chooser σ ε) (depth : Nat) (s s' : σ) (t : Tree),
      g.derive c depth symbol s = .ok t s' →
        g.Derives symbol t ∧ ∀ u ∈ t.subtrees, g.IsProperNode u) ∧
      ∀ t, g.Derives symbol t → ∃ picks : List Int, ∀ depth rest, t.height ≤ depth →
        g.derive Source.chooser depth symbol (.script (picks ++ rest)) = .ok t (.script rest) := by
  constructor
  · intro σ ε c depth s s' t hderive
    rw [derive] at hderive
    split_ifs at hderive with hdefined
    · have ht := derives_of_expand hderive
      exact ⟨ht, isProperNode_of_derives (wellFormed_of_ofLines h) ht⟩
    · cases hderive
  · intro t ht
    obtain ⟨picks, hpicks⟩ := exists_picks_of_derives ht
    refine ⟨picks, fun depth rest hdepth => ?_⟩
    rw [derive_of_defines g _ depth (defines_of_derives ht)]
    exact hpicks depth rest hdepth

/-- A symbol that may recurse, may be empty and stands beside a terminal. -/
theorem derive_sound_complete_recursive :
    ∃ g : Grammar, ofLines ["s::=n x|y", "n::=s a|"] = .ok g ∧
      g.Derives "s" (.node "s" [.node "n" [.leaf ""], .leaf "x"]) ∧
        ∃ picks : List Int, ∀ depth rest, 2 ≤ depth →
          g.derive Source.chooser depth "s" (.script (picks ++ rest)) =
            .ok (.node "s" [.node "n" [.leaf ""], .leaf "x"]) (.script rest) := by
  have hg : ofLines ["s::=n x|y", "n::=s a|"] =
      .ok ⟨[⟨"s", [["n", "x"], ["y"]]⟩, ⟨"n", [["s", "a"], []]⟩]⟩ := by decide +kernel
  obtain ⟨hsound, hcomplete⟩ := derive_sound_complete hg "s"
  have ht := (hsound Source.chooser 2 (.script [0, 1]) (.script []) _ rfl).1
  exact ⟨_, hg, ht, hcomplete _ ht⟩

end Grammar

end SentenceGen
