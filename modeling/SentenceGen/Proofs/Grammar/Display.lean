import SentenceGen.Proofs.Grammar.WellFormed
import SentenceGen.Proofs.Text.Quoted

/-!
# Displays of grammars

A grammar is displayed as the list of its quoted lines. The lines are a normal form of the grammar
and quoting loses nothing, so the display tells the grammar apart (`display_faithful`), whatever
characters its symbols and tokens hold: they cannot end the quoted text that they stand in.
-/

namespace SentenceGen.Grammar

variable {g g' : Grammar}

/-- Displays tell lines apart. -/
theorem display_eq_iff_lines_eq : g.display = g'.display ↔ g.lines = g'.lines := by
  constructor
  · intro h
    have hlist : Text.quoteList g.lines = Text.quoteList g'.lines := by
      rw [display, display, String.append_left_inj, String.append_right_inj] at h
      exact h
    have hread := Text.unquoteList?_quoteList g.lines
    rw [hlist, Text.unquoteList?_quoteList] at hread
    exact (Option.some.inj hread).symm
  · intro h
    rw [display, display, h]

/-- **The display of a grammar tells it apart.** For all grammars that were read from lines:

* two of them have the same display iff they have the same symbols in the same order, with the same
  alternatives;
* what stands in the display between `GrammarTable(` and `)` is read, as a list of quoted texts, as
  the lines of the grammar. -/
theorem display_faithful {lines lines' : List String} (h : ofLines lines = .ok g)
    (h' : ofLines lines' = .ok g') :
    (g.display = g'.display ↔ g.symbols = g'.symbols ∧
        ∀ symbol ∈ g.symbols, g.alternatives? symbol = g'.alternatives? symbol) ∧
      ∃ literal, g.display = "GrammarTable(" ++ literal ++ ")" ∧
        Text.unquoteList? literal = some g.lines := by
  have hg := wellFormed_of_ofLines h
  have hg' := wellFormed_of_ofLines h'
  refine ⟨?_, Text.quoteList g.lines, rfl, Text.unquoteList?_quoteList g.lines⟩
  rw [← hg.eq_iff hg', display_eq_iff_lines_eq]
  exact ⟨hg.eq_of_lines_eq hg', congrArg Grammar.lines⟩

/-- A symbol that looks like the end of a quoted text, a backslash in front of a letter, a delete
character, a line separator in a symbol and a character beyond the first plane, against a grammar
with the tokens of one rule in two. -/
theorem display_faithful_lookalike :
    ∃ g g' : Grammar,
      ofLines ["', '::=\\n|\x7f", "]\u2028\"::=😀"] = .ok g ∧
        ofLines ["', '::=\\n \x7f", "]\u2028\"::=😀"] = .ok g' ∧
        g.display = "GrammarTable([\"', '::=\\\\n|\\x7f\", ']\\u2028\"::=😀'])" ∧
        (g.display = g'.display ↔ g.symbols = g'.symbols ∧
          ∀ symbol ∈ g.symbols, g.alternatives? symbol = g'.alternatives? symbol) ∧
        ∃ literal, g.display = "GrammarTable(" ++ literal ++ ")" ∧
          Text.unquoteList? literal = some g.lines := by
  have hg : ofLines ["', '::=\\n|\x7f", "]\u2028\"::=😀"] =
      .ok ⟨[⟨"', '", [["\\n"], ["\x7f"]]⟩, ⟨"]\u2028\"", [["😀"]]⟩]⟩ := by decide +kernel
  have hg' : ofLines ["', '::=\\n \x7f", "]\u2028\"::=😀"] =
      .ok ⟨[⟨"', '", [["\\n", "\x7f"]]⟩, ⟨"]\u2028\"", [["😀"]]⟩]⟩ := by decide +kernel
  exact ⟨_, _, hg, hg', by decide +kernel, display_faithful hg hg'⟩

end SentenceGen.Grammar
