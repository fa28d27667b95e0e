import Mathlib.Data.List.Perm.Basic
import SentenceGen.Proofs.Derivation.Relevance
import SentenceGen.Proofs.Grammar.Listing

/-!
# The order of rule lines

Lines are read one after the other, up to the first one that is malformed or defines a symbol again.
Which line is reported therefore depends on the order, but whether one is does not: what makes lines
a grammar is that each of them writes a rule and that the symbols differ
(`Grammar.exists_ofLines_of_perm`).

Grammars with the same rules in another order look symbols up alike (`agreeOn_of_perm`), so nothing
that is derived tells them apart. What does are the views that go through the rules in turn, and
these are in the order of the lines, place by place (`Grammar.ofLines_perm`).
-/

namespace SentenceGen

/-- The rules of lines, one by one. -/
theorem Rule.map_ofLine_eq {lines : List String} {rules : List Rule}
    (h : List.Forall₂ (fun line r => Rule.ofLine line = .ok r) lines rules) :
    lines.map Rule.ofLine = rules.map .ok := by
  have heq : List.Forall₂ (· = ·) (lines.map Rule.ofLine) (rules.map .ok) :=
    List.forall₂_map_left_iff.mpr (List.forall₂_map_right_iff.mpr h)
  rwa [List.forall₂_eq_eq_eq] at heq

namespace Grammar

variable {g h : Grammar} {lines lines' : List String}

/-- **Lines in another order write a grammar as well**, with the same rules in another order. -/
theorem exists_ofLines_of_perm (hperm : lines.Perm lines') (hg : ofLines lines = .ok g) :
    ∃ h, ofLines lines' = .ok h ∧ g.rules.Perm h.rules := by
  obtain ⟨hne, hall, hnodup⟩ := ofLines_eq_ok_iff.mp hg
  obtain ⟨rules, hall', hrules⟩ := List.perm_comp_forall₂ hperm.symm hall
  have hsymbols : (mk rules).symbols.Perm g.symbols := hrules.map _
  have hne' : lines' ≠ [] := fun hnil => hne (List.perm_nil.mp (hnil ▸ hperm))
  have hnodup' : (mk rules).symbols.Nodup := hsymbols.nodup_iff.mpr hnodup
  exact ⟨⟨rules⟩, ofLines_eq_ok_iff.mpr ⟨hne', hall', hnodup'⟩, hrules.symm⟩

/-- The same rules in another order say the same about every token. -/
theorem agreeOn_of_perm (hg : g.WellFormed) (hh : h.WellFormed) (hrules : g.rules.Perm h.rules)
    (token : String) : g.AgreeOn h token :=
  agreeOn_of_mem_iff hg hh fun _ _ => hrules.mem_iff

/-- Where grammars agree on all tokens, they answer alike which symbols are theirs. -/
theorem contains_eq_of_agreeOn (hagree : ∀ token, g.AgreeOn h token) (symbol : Option String) :
    g.contains symbol = h.contains symbol := by
  cases symbol with
  | none => rfl
  | some symbol => rw [contains, contains, (hagree symbol).defines_eq]

/-- The rule of a line stands at the place of the line. -/
theorem getElem?_rules_eq (hg : ofLines lines = .ok g) (hh : ofLines lines' = .ok h) {i j : Nat}
    (hline : lines[i]? = lines'[j]?) : g.rules[i]? = h.rules[j]? := by
  obtain ⟨-, hall, -⟩ := ofLines_eq_ok_iff.mp hg
  obtain ⟨-, hall', -⟩ := ofLines_eq_ok_iff.mp hh
  have hok : (g.rules[i]?).map Except.ok = (h.rules[j]?).map (Except.ok (ε := GrammarError)) := by
    rw [← List.getElem?_map, ← Rule.map_ofLine_eq hall, List.getElem?_map, hline,
      ← List.getElem?_map, Rule.map_ofLine_eq hall', List.getElem?_map]
  exact Option.map_injective (fun _ _ => Except.ok.inj) hok

/-- **The order of lines matters for the order of the views only.** Let the same lines be given in
two orders. Either both are refused as a grammar, or both are read, and then

* every symbol has the same alternatives in both grammars, they answer alike whether a symbol is
  theirs, and they have the same listing of symbols;
* they derive alike from every symbol, whatever chooses;
* their symbols and the lines that write them are the same in two orders, and these are the orders
  of the given lines: wherever the same line stands in both, so do the same symbol and the same line
  that writes its rule. -/
theorem ofLines_perm (hperm : lines.Perm lines') :
    ((∃ e, ofLines lines = .error e) ∧ ∃ e, ofLines lines' = .error e) ∨
      ∃ g h, ofLines lines = .ok g ∧ ofLines lines' = .ok h ∧
        (∀ symbol, g.alternatives? symbol = h.alternatives? symbol) ∧
        (∀ symbol, g.contains symbol = h.contains symbol) ∧ g.listing = h.listing ∧
        (∀ symbol, g.DerivesAlike h symbol) ∧
        g.symbols.Perm h.symbols ∧ g.lines.Perm h.lines ∧
        ∀ i j : Nat, lines[i]? = lines'[j]? →
          g.symbols[i]? = h.symbols[j]? ∧ g.lines[i]? = h.lines[j]? := by
  cases hg : ofLines lines with
  | error e =>
    refine .inl ⟨⟨e, rfl⟩, ?_⟩
    -- if the other order were read, this one would be
    cases hh : ofLines lines' with
    | error e' => exact ⟨e', rfl⟩
    | ok h =>
      obtain ⟨g, hg', -⟩ := exists_ofLines_of_perm hperm.symm hh
      rw [hg] at hg'
      cases hg'
  | ok g =>
    obtain ⟨h, hh, hrules⟩ := exists_ofLines_of_perm hperm hg
    have hagree : ∀ token, g.AgreeOn h token :=
      agreeOn_of_perm (wellFormed_of_ofLines hg) (wellFormed_of_ofLines hh) hrules
    have hsymbols : g.symbols.Perm h.symbols := hrules.map _
    refine .inr ⟨g, h, rfl, hh, hagree, contains_eq_of_agreeOn hagree, symbolListing_perm hsymbols,
      fun symbol => .of_agreeOn fun token _ => hagree token, hsymbols, hrules.map _, ?_⟩
    intro i j hline
    have hplace := getElem?_rules_eq hg hh hline
    refine ⟨?_, ?_⟩
    · rw [symbols, symbols, List.getElem?_map, List.getElem?_map, hplace]
    · rw [Grammar.lines, Grammar.lines, List.getElem?_map, List.getElem?_map, hplace]

/-- Three lines, and the same with the last one in front. One of the rules has an empty alternative,
and one a symbol that no token can name. -/
theorem ofLines_perm_rotated :
    ["s::=n s|", "n::=  a b", "t u::=s"].Perm ["t u::=s", "s::=n s|", "n::=  a b"] ∧
      ∃ g h, ofLines ["s::=n s|", "n::=  a b", "t u::=s"] = .ok g ∧
        ofLines ["t u::=s", "s::=n s|", "n::=  a b"] = .ok h ∧ g ≠ h ∧
        (∀ symbol, g.alternatives? symbol = h.alternatives? symbol) ∧
        (∀ symbol, g.contains symbol = h.contains symbol) ∧ g.listing = h.listing ∧
        (∀ symbol, g.DerivesAlike h symbol) ∧
        g.symbols[1]? = h.symbols[2]? ∧ g.lines[1]? = h.lines[2]? := by
  have hperm : ["s::=n s|", "n::=  a b", "t u::=s"].Perm ["t u::=s", "s::=n s|", "n::=  a b"] := by
    decide +kernel
  have hg : ofLines ["s::=n s|", "n::=  a b", "t u::=s"] =
      .ok ⟨[⟨"s", [["n", "s"], []]⟩, ⟨"n", [["a", "b"]]⟩, ⟨"t u", [["s"]]⟩]⟩ := by decide +kernel
  have hh : ofLines ["t u::=s", "s::=n s|", "n::=  a b"] =
      .ok ⟨[⟨"t u", [["s"]]⟩, ⟨"s", [["n", "s"], []]⟩, ⟨"n", [["a", "b"]]⟩]⟩ := by decide +kernel
  refine ⟨hperm, ?_⟩
  rcases ofLines_perm hperm with ⟨⟨e, he⟩, -⟩ | ⟨g, h, hg', hh', halternatives, hcontains, hlisting,
    halike, -, -, hplaces⟩
  · rw [hg] at he
    cases he
  · obtain rfl := Except.ok.inj (hg.symm.trans hg')
    obtain rfl := Except.ok.inj (hh.symm.trans hh')
    exact ⟨_, _, hg, hh, by decide +kernel, halternatives, hcontains, hlisting, halike,
      hplaces 1 2 rfl⟩

/-- Which line is reported depends on the order. -/
example : ofLines ["s", "n::=a", "n::=b"] = .error (.expectedOneSeparator "s") ∧
    ofLines ["n::=b", "n::=a", "s"] = .error (.duplicateNonterminal "n") := by decide +kernel

end Grammar

end SentenceGen
