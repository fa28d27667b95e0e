import SentenceGen.Proofs.Grammar.WellFormed

/-!
# The lines of a grammar are a faithful normal form

A grammar that was read from any lines writes lines of its own, from which blanks are gone that
separated nothing. `lines_faithful` says that nothing else is gone: these lines are read as the same
grammar, and two grammars write the same lines only if they are the same, rule by rule.
-/

namespace SentenceGen.Grammar

/-- **The lines of a grammar are a faithful normal form.** For all lines that are read as a grammar,
its own lines are read as the same grammar, so its rules, their order and its lines come back. Hence
its lines tell it apart: another grammar that was read has the same lines iff it has the same
symbols in the same order, with the same alternatives. -/
theorem lines_faithful {lines : List String} {g : Grammar} (h : ofLines lines = .ok g) :
    ofLines g.lines = .ok g ∧
      ∀ (lines' : List String) (g' : Grammar), ofLines lines' = .ok g' →
        (g.lines = g'.lines ↔ g.symbols = g'.symbols ∧
          ∀ symbol ∈ g.symbols, g.alternatives? symbol = g'.alternatives? symbol) := by
  have hg := wellFormed_of_ofLines h
  refine ⟨ofLines_lines hg, fun lines' g' h' => ?_⟩
  have hg' := wellFormed_of_ofLines h'
  rw [← hg.eq_iff hg']
  constructor
  · intro hlines
    have hread := ofLines_lines hg
    rw [hlines, ofLines_lines hg'] at hread
    exact (Except.ok.inj hread).symm
  · rintro rfl
    rfl

/-- Symbols that end in a colon or a blank, a token that starts with `=`, the tokens `:` and `:=` in
a row and an empty alternative, against a grammar that differs in the last one. -/
theorem lines_faithful_colons :
    ∃ g g' : Grammar,
      ofLines ["a:::= =b  | ", "x ::=c\t: :="] = .ok g ∧
        ofLines ["a:::==b", "x ::=c : :="] = .ok g' ∧
        g.lines = ["a:::==b|", "x ::=c : :="] ∧ ofLines g.lines = .ok g ∧
        (g.lines = g'.lines ↔ g.symbols = g'.symbols ∧
          ∀ symbol ∈ g.symbols, g.alternatives? symbol = g'.alternatives? symbol) := by
  have hg : ofLines ["a:::= =b  | ", "x ::=c\t: :="] =
      .ok ⟨[⟨"a:", [["=b"], []]⟩, ⟨"x ", [["c", ":", ":="]]⟩]⟩ := by decide +kernel
  have hg' : ofLines ["a:::==b", "x ::=c : :="] =
      .ok ⟨[⟨"a:", [["=b"]]⟩, ⟨"x ", [["c", ":", ":="]]⟩]⟩ := by decide +kernel
  exact ⟨_, _, hg, hg', by decide +kernel, (lines_faithful hg).1, (lines_faithful hg).2 _ _ hg'⟩

end SentenceGen.Grammar
