import Mathlib.Data.List.Chain
import SentenceGen.Proofs.Derivation.Trees

/-!
# The words of a sentence

A sentence is put together from the labels of leaves, which are tokens of the grammar and therefore
words, although a symbol of the grammar may well hold blanks. So a sentence has a strict form:

* words that are joined by single spaces make a **spaced** text (`Text.IsSpaced`): no blank at
  either end, no two blanks side by side, and no other blank than the space
  (`isSpaced_intercalate`);
* the words that are read back from a sentence are the yield of its tree, each of them a token of
  the grammar that no rule defines (`generate_words`).
-/

namespace SentenceGen

namespace Text

/-- A text in which blanks only stand alone, between words, and are spaces. -/
structure IsSpaced (s : List Char) : Prop where
  trimmed : IsTrimmed s
  separated : s.IsChain fun c d => isBlank c = false ∨ isBlank d = false
  eq_space : ∀ c ∈ s, isBlank c = true → c = ' '

/-- No line ends in a spaced text: every line end is blank, and none is a space. -/
theorem IsSpaced.isLineEnd_eq_false {s : List Char} (h : IsSpaced s) :
    ∀ c ∈ s, isLineEnd c = false := by
  intro c hc
  rw [Bool.eq_false_iff]
  intro hend
  rw [h.eq_space c hc (isBlank_of_isLineEnd hend)] at hend
  exact absurd hend (by decide)

/-- Nothing is next to a blank in a word, since there is none. -/
private theorem IsWord.isChain {w : List Char} (h : IsWord w) :
    w.IsChain fun c d => isBlank c = false ∨ isBlank d = false := by
  have hpairs : w.Pairwise fun c d => isBlank c = false ∨ isBlank d = false :=
    List.pairwise_of_forall_mem_list fun c hc _ _ => Or.inl (h.solid c hc)
  exact hpairs.isChain

/-- Words that are joined by single spaces have no blanks side by side. -/
private theorem isChain_intercalate {ws : List (List Char)} (h : ∀ w ∈ ws, IsWord w) :
    ([' '].intercalate ws).IsChain fun c d => isBlank c = false ∨ isBlank d = false := by
  induction ws with
  | nil => exact .nil
  | cons w ws ih =>
    obtain ⟨hw, hws⟩ := List.forall_mem_cons.mp h
    by_cases hne : ws = []
    · rw [hne, List.intercalate_singleton]
      exact hw.isChain
    · rw [List.intercalate_cons_of_ne_nil hne, List.append_assoc]
      -- the space comes after the end of a word and before the start of another
      have hstarts : StartsSolid ([' '].intercalate ws) :=
        (isTrimmed_intercalate fun w hw => (hws w hw).isPhrase).starts
      have hspace : ([' '] ++ [' '].intercalate ws).IsChain
          fun c d => isBlank c = false ∨ isBlank d = false :=
        List.IsChain.append (.singleton _) (ih hws) fun c _ d hd => Or.inr (hstarts d hd)
      exact hw.isChain.append hspace fun c hc d _ => Or.inl (hw.endsSolid c hc)

/-- **Words that are joined by single spaces make a spaced text.** -/
theorem isSpaced_intercalate {ws : List (List Char)} (h : ∀ w ∈ ws, IsWord w) :
    IsSpaced ([' '].intercalate ws) := by
  have htrimmed : IsTrimmed ([' '].intercalate ws) :=
    isTrimmed_intercalate fun w hw => (h w hw).isPhrase
  refine ⟨htrimmed, isChain_intercalate h, ?_⟩
  intro c hc hblank
  rcases mem_of_mem_intercalate hc with hspace | ⟨w, hw, hcw⟩
  · exact List.mem_singleton.mp hspace
  · have hsolid := (h w hw).solid c hcw
    rw [hblank] at hsolid
    cases hsolid

end Text

namespace Grammar

variable {g : Grammar}

/-- What a derivation tree yields are words. -/
theorem WellFormed.isWord_of_mem_yield (hg : g.WellFormed) {symbol : String} {t : Tree}
    (ht : g.Derives symbol t) : ∀ w ∈ t.yield.map String.toList, Text.IsWord w := by
  refine List.forall_mem_map.mpr fun w hw => ?_
  exact (hg.isToken_of_hasToken (hasToken_of_mem_yield ht w hw).1).isWord

/-- The sentence of a derivation tree is spaced. -/
theorem WellFormed.isSpaced_sentence (hg : g.WellFormed) {symbol : String} {t : Tree}
    (ht : g.Derives symbol t) : Text.IsSpaced t.sentence.toList := by
  have hsentence : t.sentence.toList = [' '].intercalate (t.yield.map String.toList) := by
    rw [hg.sentence_eq ht, String.toList_intercalate]
    rfl
  rw [hsentence]
  exact Text.isSpaced_intercalate (hg.isWord_of_mem_yield ht)

/-- A sentence comes from a tree that is derived by the same draws. -/
theorem exists_derive_of_generate {σ ε : Type} {c : Chooser σ ε} {depth : Nat}
    {symbol sentence : String} {s s' : σ} (h : g.generate c depth symbol s = .ok sentence s') :
    ∃ t, g.derive c depth symbol s = .ok t s' ∧ g.Derives symbol t ∧ t.sentence = sentence := by
  rw [generate_eq_map] at h
  obtain ⟨t, ht, hsentence⟩ := Outcome.map_eq_ok_iff.mp h
  exact ⟨t, ht, derives_of_derive ht, hsentence⟩

/-- **The shape of every sentence.** For every grammar that was read, every symbol and every
chooser, a sentence that is generated is that of the tree which the same draws derive:

* it is the yield of this tree, joined by single spaces, and a text in which blanks stand nowhere
  else, so that there is no line end in it;
* the words that are read back from it are exactly this yield, in order;
* each of them is a token of an alternative and not a symbol of the grammar. -/
theorem generate_words {lines : List String} (h : ofLines lines = .ok g) {σ ε : Type}
    {c : Chooser σ ε} {depth : Nat} {symbol sentence : String} {s s' : σ}
    (hgenerate : g.generate c depth symbol s = .ok sentence s') :
    ∃ t, g.derive c depth symbol s = .ok t s' ∧
      sentence = " ".intercalate t.yield ∧
      Text.IsSpaced sentence.toList ∧ (∀ ch ∈ sentence.toList, Text.isLineEnd ch = false) ∧
      (Text.words sentence.toList).map String.ofList = t.yield ∧
      ∀ w ∈ t.yield, Text.IsWord w.toList ∧ g.HasToken w ∧ g.defines w = false := by
  have hg := wellFormed_of_ofLines h
  obtain ⟨t, hderive, ht, rfl⟩ := exists_derive_of_generate hgenerate
  have hyield := hasToken_of_mem_yield ht
  have hword : ∀ w ∈ t.yield, Text.IsWord w.toList := fun w hw =>
    (hg.isToken_of_hasToken (hyield w hw).1).isWord
  have hwords : ∀ w ∈ t.yield.map String.toList, Text.IsWord w := List.forall_mem_map.mpr hword
  have hsentence : t.sentence.toList = [' '].intercalate (t.yield.map String.toList) := by
    rw [hg.sentence_eq ht, String.toList_intercalate]
    rfl
  have hspaced : Text.IsSpaced t.sentence.toList := by
    rw [hsentence]
    exact Text.isSpaced_intercalate hwords
  have hback : (Text.words t.sentence.toList).map String.ofList = t.yield := by
    rw [hsentence, Text.words_intercalate hwords, List.map_map]
    simp [Function.comp_def]
  exact ⟨t, hderive, hg.sentence_eq ht, hspaced, hspaced.isLineEnd_eq_false, hback,
    fun w hw => ⟨hword w hw, hyield w hw⟩⟩

/-- A symbol with a blank in it, which no token can name, an empty alternative in the middle, and
tokens that are set apart by other blanks than the space. -/
theorem generate_words_blanks :
    ∃ g : Grammar, ofLines ["a b::=\x1fx\u3000n\tb ", "n::=|n n"] = .ok g ∧
      g.generate Source.chooser 3 "a b" (.script [0, 1, 0, 0]) = .ok "x b" (.script []) ∧
      ∃ t, g.derive Source.chooser 3 "a b" (.script [0, 1, 0, 0]) = .ok t (.script []) ∧
        "x b" = " ".intercalate t.yield ∧
        Text.IsSpaced "x b".toList ∧ (∀ ch ∈ "x b".toList, Text.isLineEnd ch = false) ∧
        (Text.words "x b".toList).map String.ofList = t.yield ∧
        ∀ w ∈ t.yield, Text.IsWord w.toList ∧ g.HasToken w ∧ g.defines w = false := by
  have hg : ofLines ["a b::=\x1fx\u3000n\tb ", "n::=|n n"] =
      .ok ⟨[⟨"a b", [["x", "n", "b"]]⟩, ⟨"n", [[], ["n", "n"]]⟩]⟩ := by decide +kernel
  have hgenerate : generate ⟨[⟨"a b", [["x", "n", "b"]]⟩, ⟨"n", [[], ["n", "n"]]⟩]⟩ Source.chooser 3
      "a b" (.script [0, 1, 0, 0]) = .ok "x b" (.script []) := rfl
  exact ⟨_, hg, hgenerate, generate_words hg hgenerate⟩

end Grammar

end SentenceGen
