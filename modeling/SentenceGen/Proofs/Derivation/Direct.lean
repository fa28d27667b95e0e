import SentenceGen.Derivation.Direct
import SentenceGen.Derivation.Query
import SentenceGen.Proofs.Derivation.Trees

/-!
# Sentences by recursion on texts

A sentence can be derived without a tree, as `Grammar.speak` does: the text of a symbol joins the
texts of its tokens. `Grammar.generate` derives the tree first and joins the labels of all leaves at
once. They agree (`generate_eq_speak`), for two reasons:

* joining is one and the same thing level by level and all at once
  (`Tree.joinPieces_map_sentence`), since an empty join is left out wherever it occurs;
* the leaves of a derivation are words, so there is nothing to trim at any level
  (`Tree.sentence_node`).
-/

namespace SentenceGen

/-! ### Sentences of nodes -/

namespace Tree

/-- **The sentence of a node joins those of its children**, where they yield words. -/
theorem sentence_node {children : List Tree} (hne : children ≠ [])
    (h : ∀ w ∈ forestYield children, Text.IsWord w.toList) (label : String) :
    (node label children).sentence = Text.trimString (joinPieces (children.map sentence)) := by
  rw [joinPieces_map_sentence fun w hw => (h w hw).isPhrase, sentence_eq, leaves_node hne]

theorem sentence_leaf {token : String} (h : Text.IsWord token.toList) :
    (leaf token).sentence = token := by
  have hleaves : (leaf token).leaves = [token] := by rw [leaves]
  rw [sentence_eq, hleaves, joinPieces_singleton]
  exact Text.trimString_eq_self_iff.mpr ⟨h.startsSolid, h.endsSolid⟩

theorem sentence_empty (label : String) : (node label [leaf ""]).sentence = "" := by
  rw [sentence_of_isPhrase (by simp), yield_empty_leaf, String.intercalate_nil]

end Tree

namespace Grammar

variable {σ ε : Type}

/-! ### One step of the recursion -/

section Steps

variable (g : Grammar) (c : Chooser σ ε) (depth : Nat) {symbol token : String}
  {tokens : List String} {s s' : σ}

/-- The texts of the tokens of an alternative. -/
def speakTokens : List String → EStateM (DerivationError ε) σ (List String) :=
  forTokens fun token => if g.defines token then speak g c depth token else pure token

theorem speak_zero (symbol : String) (s : σ) : g.speak c 0 symbol s = .error .tooDeep s :=
  rfl

theorem speak_succ_of_error {e : DerivationError ε} (h : g.draw c symbol s = .error e s') :
    g.speak c (depth + 1) symbol s = .error e s' := by
  rw [draw] at h
  simp only [speak, bind, EStateM.bind, h]

theorem speak_succ_of_ok (h : g.draw c symbol s = .ok tokens s') :
    g.speak c (depth + 1) symbol s =
      Outcome.map (Text.trimString ∘ joinPieces) (g.speakTokens c depth tokens s') := by
  rw [draw] at h
  simp only [speak, speakTokens, bind, EStateM.bind, h]
  cases forTokens _ tokens s' <;> rfl

theorem speakTokens_nil (s : σ) : g.speakTokens c depth [] s = .ok [] s :=
  rfl

theorem speakTokens_of_terminal (h : g.defines token = false) (tokens : List String) (s : σ) :
    g.speakTokens c depth (token :: tokens) s =
      Outcome.map (token :: ·) (g.speakTokens c depth tokens s) := by
  simp only [speakTokens, forTokens, bind, EStateM.bind, h, Bool.false_eq_true, if_false, pure,
    EStateM.pure]
  cases forTokens _ tokens s <;> rfl

theorem speakTokens_of_error {e : DerivationError ε} (h : g.defines token = true)
    (hchild : g.speak c depth token s = .error e s') (tokens : List String) :
    g.speakTokens c depth (token :: tokens) s = .error e s' := by
  simp only [speakTokens, forTokens, bind, EStateM.bind, h, if_true, hchild]

theorem speakTokens_of_ok {piece : String} (h : g.defines token = true)
    (hchild : g.speak c depth token s = .ok piece s') (tokens : List String) :
    g.speakTokens c depth (token :: tokens) s =
      Outcome.map (piece :: ·) (g.speakTokens c depth tokens s') := by
  simp only [speakTokens, forTokens, bind, EStateM.bind, h, if_true, hchild]
  cases forTokens _ tokens s' <;> rfl

end Steps

variable {g : Grammar}

/-! ### The two recursions -/

/-- The tokens of an alternative that was drawn are words, and so is what derives from them. -/
theorem WellFormed.isWord_of_draw (hg : g.WellFormed) {c : Chooser σ ε} {symbol : String}
    {tokens : Alternative} {s s' : σ} (hdraw : g.draw c symbol s = .ok tokens s') :
    (∀ token ∈ tokens, Text.IsWord token.toList) ∧
      ∀ children, g.DerivesTokens tokens children →
        ∀ w ∈ Tree.forestYield children, Text.IsWord w.toList := by
  obtain ⟨alternatives, hrule, hmem⟩ := exists_rule_of_draw hdraw
  have htokens : ∀ token ∈ tokens, g.HasToken token := fun token htoken =>
    ⟨symbol, alternatives, tokens, hrule, hmem, htoken⟩
  have hword : ∀ {token : String}, g.HasToken token → Text.IsWord token.toList := fun h =>
    (hg.isToken_of_hasToken h).isWord
  exact ⟨fun token htoken => hword (htokens token htoken), fun children hchildren w hw =>
    hword (hasToken_of_mem_forestYield hchildren htokens w hw).1⟩

/-- **The text of an expansion is the sentence of its tree**, after the same questions. -/
theorem speak_eq_map_expand (hg : g.WellFormed) (c : Chooser σ ε) (depth : Nat) (symbol : String)
    (s : σ) : g.speak c depth symbol s = Outcome.map Tree.sentence (g.expand c depth symbol s) := by
  refine (expand_induction g c
    (P := fun depth symbol s r => g.speak c depth symbol s = Outcome.map Tree.sentence r)
    (Q := fun depth tokens s r => (∀ token ∈ tokens, Text.IsWord token.toList) →
      g.speakTokens c depth tokens s = Outcome.map (List.map Tree.sentence) r)
    ?tooDeep ?refused ?empty ?expansion ?nil ?terminal ?failed ?nonterminal).1 depth symbol s
  case tooDeep =>
    intro symbol s
    exact speak_zero g c symbol s
  case refused =>
    intro depth symbol s e s' hdraw
    exact speak_succ_of_error g c depth hdraw
  case empty =>
    intro depth symbol s s' hdraw
    rw [speak_succ_of_ok g c depth hdraw, speakTokens_nil, Outcome.map_ok, Outcome.map_ok,
      Tree.sentence_empty]
    rfl
  case expansion =>
    intro depth symbol s token tokens s' hdraw hQ
    obtain ⟨htokens, hyield⟩ := hg.isWord_of_draw hdraw
    rw [speak_succ_of_ok g c depth hdraw, hQ htokens]
    cases hchildren : g.expandTokens c depth (token :: tokens) s' with
    | error e s'' => rfl
    | ok children s'' =>
      have hderives := derivesTokens_of_expandTokens hchildren
      rw [Outcome.map_ok, Outcome.map_ok, Outcome.map_ok, Outcome.map_ok,
        Tree.sentence_node hderives.ne_nil (hyield children hderives)]
      rfl
  case nil =>
    intro depth s _
    exact speakTokens_nil g c depth s
  case terminal =>
    intro depth token tokens s hterminal hQ hwords
    obtain ⟨htoken, htokens⟩ := List.forall_mem_cons.mp hwords
    rw [speakTokens_of_terminal g c depth hterminal, hQ htokens]
    cases g.expandTokens c depth tokens s with
    | error e s' => rfl
    | ok children s' =>
      simp only [Outcome.map_ok, List.map_cons, Tree.sentence_leaf htoken]
  case failed =>
    intro depth token tokens s e s' hdefined hP _
    exact speakTokens_of_error g c depth hdefined hP tokens
  case nonterminal =>
    intro depth token tokens s child s' hdefined hP hQ hwords
    rw [speakTokens_of_ok g c depth hdefined hP, hQ (List.forall_mem_cons.mp hwords).2]
    cases g.expandTokens c depth tokens s' <;> rfl

/-- **A sentence is what recursion on texts gives.** For every grammar that was read, every symbol
that it defines and every chooser, in any state and at any depth, a sentence that is derived by way
of a tree and one that is derived by joining the texts of the tokens, level by level, are the same
sentence or fail with the same error, and leave the chooser in the same state. On the way the same
numbers of alternatives are asked for, in the same order. -/
theorem generate_eq_speak {lines : List String} (h : ofLines lines = .ok g) {symbol : String}
    (hsymbol : g.defines symbol = true) (c : Chooser σ ε) (depth : Nat) (s : σ) :
    g.generate c depth symbol s = g.speak c depth symbol s ∧
      c.watch (g.generate · depth symbol) s = c.watch (g.speak · depth symbol) s := by
  have hspeak : ∀ {σ : Type} (c : Chooser σ ε) (s : σ),
      g.generate c depth symbol s = g.speak c depth symbol s := by
    intro σ c s
    rw [generate_eq_map, derive_of_defines g c depth hsymbol,
      speak_eq_map_expand (wellFormed_of_ofLines h)]
  refine ⟨hspeak c s, ?_⟩
  simp only [Chooser.watch, hspeak]

/-- Empty texts at two levels, beside and below texts that are not empty. -/
theorem generate_eq_speak_nested :
    ∃ g : Grammar, ofLines ["s::=n x n n", "n::=|m y m", "m::="] = .ok g ∧
      g.defines "s" = true ∧
      g.speak Source.chooser 3 "s" (.script [0, 0, 1, 0, 0, 0, 5]) =
        .ok "x y" (.script [5]) ∧
      g.generate Source.chooser 3 "s" (.script [0, 0, 1, 0, 0, 0, 5]) =
        g.speak Source.chooser 3 "s" (.script [0, 0, 1, 0, 0, 0, 5]) := by
  have hg : ofLines ["s::=n x n n", "n::=|m y m", "m::="] =
      .ok ⟨[⟨"s", [["n", "x", "n", "n"]]⟩, ⟨"n", [[], ["m", "y", "m"]]⟩, ⟨"m", [[]]⟩]⟩ := by
    decide +kernel
  have hsymbol : defines
      ⟨[⟨"s", [["n", "x", "n", "n"]]⟩, ⟨"n", [[], ["m", "y", "m"]]⟩, ⟨"m", [[]]⟩]⟩ "s" = true := by
    decide +kernel
  exact ⟨_, hg, hsymbol, rfl,
    (generate_eq_speak hg hsymbol Source.chooser 3 (.script [0, 0, 1, 0, 0, 0, 5])).1⟩

end Grammar

end SentenceGen
