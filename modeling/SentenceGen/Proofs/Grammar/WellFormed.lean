import Mathlib.Data.List.Forall2
import SentenceGen.Grammar.Basic
import SentenceGen.Proofs.Grammar.RuleLine

/-!
# Grammars in normal form

`Grammar.WellFormed` is what a grammar that was read from lines is known to satisfy: it has a rule,
no symbol has two, and every rule is in normal form. It is also all that there is to know, since a
grammar with these properties is read back from its own lines (`Grammar.ofLines_lines`).

Lines are read one after the other, with the rules known so far in hand. `Rule.ofLines_eq_ok_iff`
states the result without the order of reading: every line writes its rule, and the symbols differ.
-/

namespace SentenceGen

/-! ### Reading lines one after the other -/

/-- A line that writes a rule is refused only for its symbol. -/
theorem Rule.addLine_of_ofLine {line : String} {r : Rule} (h : Rule.ofLine line = .ok r)
    (known : List Rule) :
    Rule.addLine known line =
      if r.symbol ∈ known.map (·.symbol) then .error (.duplicateNonterminal r.symbol)
      else .ok (known ++ [r]) := by
  have hany : known.any (·.symbol == r.symbol) = decide (r.symbol ∈ known.map (·.symbol)) := by
    rw [Bool.eq_iff_iff]
    simp
  rw [Rule.addLine, h]
  simp only [bind, Except.bind, hany, decide_eq_true_eq]
  split_ifs <;> rfl

/-- One more line adds its rule, if the symbol is new. -/
theorem Rule.addLine_eq_ok_iff {known rules : List Rule} {line : String} :
    Rule.addLine known line = .ok rules ↔
      ∃ r, Rule.ofLine line = .ok r ∧ r.symbol ∉ known.map (·.symbol) ∧ rules = known ++ [r] := by
  cases h : Rule.ofLine line with
  | error e => simp [Rule.addLine, h, bind, Except.bind]
  | ok r =>
    simp only [Rule.addLine_of_ofLine h, Except.ok.injEq, exists_eq_left']
    split_ifs with hknown
    · simp only [hknown, not_true_eq_false, false_and]
    · simp only [Except.ok.injEq, hknown, not_false_eq_true, true_and, eq_comm]

/-- The loop over the lines, from any rules on that are known already. -/
private theorem foldlM_addLine_eq_ok_iff {known rules : List Rule} {lines : List String}
    (hknown : (known.map (·.symbol)).Nodup) :
    lines.foldlM Rule.addLine known = .ok rules ↔
      ∃ added, rules = known ++ added ∧
        List.Forall₂ (fun line r => Rule.ofLine line = .ok r) lines added ∧
        ((known ++ added).map (·.symbol)).Nodup := by
  induction lines generalizing known with
  | nil =>
    simp only [List.foldlM_nil, List.forall₂_nil_left_iff]
    constructor
    · intro h
      exact ⟨[], by rw [← Except.ok.inj h, List.append_nil], rfl, by rwa [List.append_nil]⟩
    · rintro ⟨_, rfl, rfl, -⟩
      rw [List.append_nil]
      rfl
  | cons line lines ih =>
    rw [List.foldlM_cons]
    constructor
    · intro h
      cases hadd : Rule.addLine known line with
      | error e => simp [hadd, bind, Except.bind] at h
      | ok known' =>
        rw [hadd] at h
        obtain ⟨r, hr, hnew, rfl⟩ := Rule.addLine_eq_ok_iff.mp hadd
        -- the rules that are known to the next line still have different symbols
        have hknown' : ((known ++ [r]).map (·.symbol)).Nodup := by
          rw [List.map_append, List.nodup_append]
          refine ⟨hknown, by simp, ?_⟩
          rintro a ha b hb rfl
          simp only [List.map_cons, List.map_nil, List.mem_singleton] at hb
          exact hnew (hb ▸ ha)
        obtain ⟨added, rfl, hall, hnodup⟩ := (ih hknown').mp h
        rw [List.append_assoc] at hnodup ⊢
        exact ⟨r :: added, rfl, .cons hr hall, hnodup⟩
    · rintro ⟨added, rfl, hall, hnodup⟩
      obtain ⟨r, added', hr, hall', rfl⟩ := List.forall₂_cons_left_iff.mp hall
      -- the first rule that was added is new, and joins the known ones
      have hnew : r.symbol ∉ known.map (·.symbol) := by
        rw [List.map_append, List.nodup_append] at hnodup
        intro hmem
        exact hnodup.2.2 _ hmem r.symbol (by simp) rfl
      rw [List.append_cons] at hnodup
      have hknown' : ((known ++ [r]).map (·.symbol)).Nodup := by
        rw [List.map_append] at hnodup
        exact (List.nodup_append.mp hnodup).1
      rw [Rule.addLine_eq_ok_iff.mpr ⟨r, hr, hnew, rfl⟩]
      exact (ih hknown').mpr ⟨added', List.append_cons known r added', hall', hnodup⟩

/-- **Rules that lines write**: one for each line, in their order, with different symbols. -/
theorem Rule.ofLines_eq_ok_iff {lines : List String} {rules : List Rule} :
    Rule.ofLines lines = .ok rules ↔
      List.Forall₂ (fun line r => Rule.ofLine line = .ok r) lines rules ∧
        (rules.map (·.symbol)).Nodup := by
  rw [Rule.ofLines, foldlM_addLine_eq_ok_iff (by simp)]
  simp

/-- Rules that were read, line by line, are in normal form. -/
private theorem Rule.wellFormed_of_forall₂ {lines : List String} {rules : List Rule}
    (h : List.Forall₂ (fun line r => Rule.ofLine line = .ok r) lines rules) :
    ∀ r ∈ rules, r.WellFormed := by
  induction h with
  | nil => simp
  | cons hr _ ih =>
    intro r hmem
    rcases List.mem_cons.mp hmem with rfl | hlater
    · exact Rule.wellFormed_of_ofLine hr
    · exact ih r hlater

namespace Grammar

theorem ofLines_eq_ok_iff {lines : List String} {g : Grammar} :
    ofLines lines = .ok g ↔
      lines ≠ [] ∧ List.Forall₂ (fun line r => Rule.ofLine line = .ok r) lines g.rules ∧
        g.symbols.Nodup := by
  rw [ofLines]
  cases lines with
  | nil => simp
  | cons line lines =>
    rw [symbols, ← Rule.ofLines_eq_ok_iff]
    cases Rule.ofLines (line :: lines) with
    | error e => simp [Functor.map, Except.map]
    | ok rules => cases g; simp [Functor.map, Except.map]

/-! ### The normal form -/

/-- The **normal form** of a grammar: there is a rule, no symbol has two, and all rules are in
normal form. -/
structure WellFormed (g : Grammar) : Prop where
  rules_ne_nil : g.rules ≠ []
  symbols_nodup : g.symbols.Nodup
  rule : ∀ r ∈ g.rules, r.WellFormed

/-- A grammar that was read is in normal form. -/
theorem wellFormed_of_ofLines {lines : List String} {g : Grammar} (h : ofLines lines = .ok g) :
    g.WellFormed := by
  obtain ⟨hne, hall, hnodup⟩ := ofLines_eq_ok_iff.mp h
  refine ⟨?_, hnodup, Rule.wellFormed_of_forall₂ hall⟩
  intro hnil
  rw [hnil, List.forall₂_nil_right_iff] at hall
  exact hne hall

/-- **A grammar in normal form is read back from its lines.** -/
theorem ofLines_lines {g : Grammar} (h : g.WellFormed) : ofLines g.lines = .ok g := by
  rw [ofLines_eq_ok_iff]
  refine ⟨by simpa [lines] using h.rules_ne_nil, ?_, h.symbols_nodup⟩
  rw [lines, List.forall₂_map_left_iff, List.forall₂_same]
  exact fun r hr => Rule.ofLine_line (h.rule r hr)

/-- Grammars in normal form are told by their lines. -/
theorem WellFormed.eq_of_lines_eq {g h : Grammar} (hg : g.WellFormed) (hh : h.WellFormed)
    (hlines : g.lines = h.lines) : g = h := by
  have hread := ofLines_lines hg
  rw [hlines, ofLines_lines hh] at hread
  exact (Except.ok.inj hread).symm

/-! ### Looking symbols up -/

/-- Where no symbol has two rules, looking a symbol up finds its rule. -/
theorem WellFormed.alternatives?_eq_some_iff {g : Grammar} (hg : g.WellFormed) {symbol : String}
    {alternatives : List Alternative} :
    g.alternatives? symbol = some alternatives ↔ ⟨symbol, alternatives⟩ ∈ g.rules := by
  obtain ⟨rules⟩ := g
  have hnodup := hg.symbols_nodup
  simp only [alternatives?, symbols] at hnodup ⊢
  clear hg
  induction rules with
  | nil => simp
  | cons r rules ih =>
    obtain ⟨hnew, hrest⟩ := List.nodup_cons.mp hnodup
    by_cases hr : r.symbol = symbol
    · obtain ⟨symbol', alternatives'⟩ := r
      obtain rfl := hr
      have hlater : ⟨symbol', alternatives⟩ ∉ rules := fun hmem =>
        hnew (List.mem_map.mpr ⟨_, hmem, rfl⟩)
      simp [hlater, eq_comm]
    · have hfirst : (⟨symbol, alternatives⟩ : Rule) ≠ r := by
        rintro rfl
        exact hr rfl
      simp [hr, hfirst, ih hrest]

theorem defines_of_alternatives? {g : Grammar} {symbol : String} {alternatives : List Alternative}
    (h : g.alternatives? symbol = some alternatives) : g.defines symbol = true := by
  rw [defines_eq_isSome, h]
  rfl

theorem WellFormed.isToken {g : Grammar} (hg : g.WellFormed) {symbol : String}
    {alternatives : List Alternative} (h : g.alternatives? symbol = some alternatives)
    {tokens : Alternative} (htokens : tokens ∈ alternatives) {token : String}
    (htoken : token ∈ tokens) : IsToken token :=
  (hg.rule _ (hg.alternatives?_eq_some_iff.mp h)).isToken tokens htokens token htoken

theorem WellFormed.ne_empty_of_defines {g : Grammar} (hg : g.WellFormed) {symbol : String}
    (h : g.defines symbol = true) : symbol ≠ "" := by
  obtain ⟨r, hr, rfl⟩ := List.mem_map.mp (defines_iff_mem_symbols.mp h)
  exact (hg.rule r hr).symbol_ne_empty

/-- A grammar in normal form is told by its symbols, in their order, and their alternatives. -/
theorem WellFormed.eq_iff {g h : Grammar} (hg : g.WellFormed) (hh : h.WellFormed) :
    g = h ↔ g.symbols = h.symbols ∧
      ∀ symbol ∈ g.symbols, g.alternatives? symbol = h.alternatives? symbol := by
  constructor
  · rintro rfl
    exact ⟨rfl, fun _ _ => rfl⟩
  · rintro ⟨hsymbols, halternatives⟩
    -- the rules are written down from what looking the symbols up gives
    have hrules : ∀ {g : Grammar}, g.WellFormed →
        g.rules = g.symbols.map fun symbol => ⟨symbol, (g.alternatives? symbol).getD []⟩ := by
      intro g hg
      rw [symbols, List.map_map]
      refine ((List.map_congr_left fun r hr => ?_).trans (List.map_id _)).symm
      simp [hg.alternatives?_eq_some_iff.mpr hr]
    obtain ⟨rules⟩ := g
    obtain ⟨rules'⟩ := h
    rw [Grammar.mk.injEq]
    refine (hrules hg).trans (Eq.trans ?_ (hrules hh).symm)
    rw [← hsymbols]
    exact List.map_congr_left fun symbol hsymbol => by rw [halternatives symbol hsymbol]

end Grammar

end SentenceGen
