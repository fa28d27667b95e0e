import Mathlib.Algebra.Group.Int.Defs
import SentenceGen.Proofs.Derivation.Leftmost
import SentenceGen.Proofs.Text.Numeral

/-!
# Where derivations fail

Leftmost rewriting by a script **stops** at a nonterminal in two ways (`StopsAt`): the next pick is
no number of an alternative, or there is no pick left. Before it stops, every pick has replaced the
leftmost nonterminal of its form. Within the depth that is allowed, a derivation by the same script
fails exactly where rewriting stops, after the same questions and with the same picks left over
(`derive_error_iff_stopsAt`). So nothing is drawn for the nonterminals to the right of the failure,
and nothing between the failing pick and the error.

The error names the pick, the number of alternatives and the nonterminal, if the pick has few enough
digits to be written (`Text.isWritable_iff`). Otherwise there is another error in the same place,
which names nothing (`huge_pick_not_named`).
-/

namespace SentenceGen.Grammar

variable {g : Grammar} {form : List String} {symbol : String} {depth : Nat} {picks : List Int}
  {e : DerivationError SourceError} {s : Source × List Nat}

/-- Leftmost rewriting of the form by the picks stops with this error, having asked for these
numbers of alternatives, and with these picks left over. The picks in front of the failure lead to
a form with a nonterminal, and the leftmost one of it is named by the error, unless the failing pick
has too many digits. -/
inductive StopsAt (g : Grammar) (form : List String) :
    (picks : List Int) → DerivationError SourceError → (asked : List Nat) → (left : List Int) → Prop
  | outOfRange {used left : List Int} {pick : Int} {counts : List Nat}
      {mid front back : List String} {symbol : String} {alternatives : List Alternative}
      (hrewriting : g.Rewriting form used counts mid)
      (hleft : g.leftmost? mid = some (front, symbol, back))
      (hrule : g.alternatives? symbol = some alternatives)
      (hpick : ¬ (0 ≤ pick ∧ pick < alternatives.length)) (hdigits : Text.isWritable pick = true) :
      StopsAt g form (used ++ pick :: left) (.outOfRange pick alternatives.length symbol)
        (counts ++ [alternatives.length]) left
  | unwritable {used left : List Int} {pick : Int} {counts : List Nat}
      {mid front back : List String} {symbol : String} {alternatives : List Alternative}
      (hrewriting : g.Rewriting form used counts mid)
      (hleft : g.leftmost? mid = some (front, symbol, back))
      (hrule : g.alternatives? symbol = some alternatives)
      (hpick : ¬ (0 ≤ pick ∧ pick < alternatives.length)) (hdigits : Text.isWritable pick = false) :
      StopsAt g form (used ++ pick :: left) .unwritableIndex (counts ++ [alternatives.length]) left
  | exhausted {used : List Int} {counts : List Nat} {mid front back : List String} {symbol : String}
      {alternatives : List Alternative} (hrewriting : g.Rewriting form used counts mid)
      (hleft : g.leftmost? mid = some (front, symbol, back))
      (hrule : g.alternatives? symbol = some alternatives) :
      StopsAt g form used (.choice .exhausted) (counts ++ [alternatives.length]) []

/-- A step of rewriting in front changes nothing about where it stops. -/
theorem StopsAt.step {front back tokens : List String} {alternatives : List Alternative}
    {pick : Int} {asked : List Nat} {left : List Int}
    (hleft : g.leftmost? form = some (front, symbol, back))
    (hrule : g.alternatives? symbol = some alternatives)
    (hpick : select? alternatives pick = some tokens)
    (h : g.StopsAt (front ++ tokens ++ back) picks e asked left) :
    g.StopsAt form (pick :: picks) e (alternatives.length :: asked) left := by
  cases h with
  | outOfRange hrewriting hleft' hrule' hpick' hdigits =>
    exact .outOfRange (.step hleft hrule hpick hrewriting) hleft' hrule' hpick' hdigits
  | unwritable hrewriting hleft' hrule' hpick' hdigits =>
    exact .unwritable (.step hleft hrule hpick hrewriting) hleft' hrule' hpick' hdigits
  | exhausted hrewriting hleft' hrule' =>
    exact .exhausted (.step hleft hrule hpick hrewriting) hleft' hrule'

/-- A first pick that is out of range is where rewriting stops. -/
theorem StopsAt.ofIndex {front back : List String} {alternatives : List Alternative} {pick : Int}
    (hleft : g.leftmost? form = some (front, symbol, back))
    (hrule : g.alternatives? symbol = some alternatives)
    (hpick : ¬ (0 ≤ pick ∧ pick < alternatives.length)) (picks : List Int) :
    g.StopsAt form (pick :: picks) (.ofIndex pick alternatives.length symbol)
      [alternatives.length] picks := by
  rw [DerivationError.ofIndex]
  split
  · exact .outOfRange (.refl form) hleft hrule hpick ‹_›
  · exact .unwritable (.refl form) hleft hrule hpick (Bool.eq_false_iff.mpr ‹_›)

/-- Rewriting by a script that fails has come to a stop. -/
theorem exists_stopsAt_of_rewrite {asked : List Nat} (h : g.rewrite picks form asked = .error e s) :
    ∃ counts left, s = (.script left, asked ++ counts) ∧ g.StopsAt form picks e counts left := by
  induction picks generalizing form asked with
  | nil =>
    cases hleft : g.leftmost? form with
    | none =>
      rw [rewrite_of_allTerminal (leftmost?_eq_none_iff.mp hleft)] at h
      cases h
    | some found =>
      obtain ⟨front, symbol, back⟩ := found
      obtain ⟨alternatives, hrule⟩ := exists_rule_of_leftmost? hleft
      rw [rewrite_nil hleft hrule] at h
      obtain ⟨rfl, rfl⟩ := EStateM.Result.error.inj h
      exact ⟨[alternatives.length], [], rfl, .exhausted (.refl form) hleft hrule⟩
  | cons pick picks ih =>
    cases hleft : g.leftmost? form with
    | none =>
      rw [rewrite_of_allTerminal (leftmost?_eq_none_iff.mp hleft)] at h
      cases h
    | some found =>
      obtain ⟨front, symbol, back⟩ := found
      obtain ⟨alternatives, hrule⟩ := exists_rule_of_leftmost? hleft
      rw [rewrite_cons hleft hrule] at h
      cases hpick : select? alternatives pick with
      | none =>
        rw [hpick] at h
        obtain ⟨rfl, rfl⟩ := EStateM.Result.error.inj h
        exact ⟨[alternatives.length], picks, rfl,
          .ofIndex hleft hrule (select?_eq_none_iff.mp hpick) picks⟩
      | some tokens =>
        rw [hpick] at h
        obtain ⟨counts, left, rfl, hstops⟩ := ih h
        refine ⟨alternatives.length :: counts, left, ?_, hstops.step hleft hrule hpick⟩
        rw [List.append_assoc, List.singleton_append]

/-- **Rewriting by a script fails exactly where it stops.** -/
theorem rewrite_eq_error_iff {asked : List Nat} :
    g.rewrite picks form asked = .error e s ↔
      ∃ counts left, s = (.script left, asked ++ counts) ∧ g.StopsAt form picks e counts left := by
  refine ⟨exists_stopsAt_of_rewrite, ?_⟩
  rintro ⟨counts, left, rfl, hstops⟩
  cases hstops with
  | outOfRange hrewriting hleft hrule hpick hdigits
  | unwritable hrewriting hleft hrule hpick hdigits =>
    rw [hrewriting.rewrite_eq, rewrite_cons hleft hrule, select?_eq_none_iff.mpr hpick,
      List.append_assoc]
    simp [DerivationError.ofIndex, hdigits]
  | exhausted hrewriting hleft hrule =>
    have hstop := hrewriting.rewrite_eq [] asked
    rw [List.append_nil, rewrite_nil hleft hrule, List.append_assoc] at hstop
    exact hstop

/-- **A derivation by a script fails where leftmost rewriting stops.** For every grammar that was
read and every script of picks, whatever their values:

* from a symbol that the grammar defines, and within the depth that is allowed, for which one more
  than the number of picks always suffices, a tree and a sentence are refused with an error exactly
  if leftmost rewriting of the symbol alone stops with this error. Up to there the same numbers of
  alternatives were asked for, the last one for the nonterminal at which it stopped, and the picks
  behind are left over. A pick of at most `Text.maxDigits` digits that is out of range is named by
  the error, with the number of alternatives and the nonterminal;
* from any other symbol they are refused for the symbol, and nothing is asked. -/
theorem derive_error_iff_stopsAt {lines : List String} (h : ofLines lines = .ok g)
    (symbol : String) :
    (g.defines symbol = true → ∀ picks : List Int,
      (∀ depth, picks.length < depth →
        Outcome.WithinDepth
          (g.derive Source.chooser.recording depth symbol (.script picks, []))) ∧
      ∀ depth, Outcome.WithinDepth
          (g.derive Source.chooser.recording depth symbol (.script picks, [])) →
        ∀ e s,
          (g.derive Source.chooser.recording depth symbol (.script picks, []) = .error e s ↔
            ∃ asked left, s = (.script left, asked) ∧ g.StopsAt [symbol] picks e asked left) ∧
          (g.generate Source.chooser.recording depth symbol (.script picks, []) = .error e s ↔
            ∃ asked left, s = (.script left, asked) ∧ g.StopsAt [symbol] picks e asked left)) ∧
    (g.defines symbol = false → ∀ {σ ε : Type} (c : Chooser σ ε) (depth : Nat) (s : σ),
      g.derive c.recording depth symbol (s, []) = .error (.unknownSymbol symbol) (s, []) ∧
        g.generate c.recording depth symbol (s, []) =
          .error (.unknownSymbol symbol) (s, [])) := by
  have hg := wellFormed_of_ofLines h
  refine ⟨fun hsymbol picks => ⟨fun depth hdepth => ?_, fun depth hwithin e s => ?_⟩,
    fun hsymbol _ _ c depth s => ?_⟩
  · have hgenerate := withinDepth_generate hg hsymbol hdepth []
    rwa [generate_eq_map, Outcome.withinDepth_map] at hgenerate
  · have hgenerate : g.generate Source.chooser.recording depth symbol (.script picks, []) =
        .error e s ↔
          ∃ asked left, s = (.script left, asked) ∧ g.StopsAt [symbol] picks e asked left := by
      rw [← Outcome.withinDepth_map (f := Tree.sentence), ← generate_eq_map] at hwithin
      rw [generate_eq_rewrite hg hsymbol hwithin, Outcome.map_eq_error_iff, rewrite_eq_error_iff]
      simp only [List.nil_append]
    -- a tree and its sentence fail alike
    refine ⟨?_, hgenerate⟩
    rw [← hgenerate, generate_eq_map, Outcome.map_eq_error_iff]
  · have hderive := derive_of_not_defines g c.recording depth hsymbol (s, [])
    rw [generate_eq_map, hderive]
    exact ⟨rfl, rfl⟩

/-- A pick that is out of range for the second of two nonterminals, below the first of which one
recursed, a pick that is left over, and a symbol that is not defined. -/
theorem derive_error_iff_stopsAt_sibling :
    ∃ g : Grammar, ofLines ["s::=n x n|", "n::=a|n b"] = .ok g ∧ g.defines "s" = true ∧
      Outcome.WithinDepth
        (g.derive Source.chooser.recording 6 "s" (.script [0, 1, 0, -3, 7], [])) ∧
      g.StopsAt ["s"] [0, 1, 0, -3, 7] (.outOfRange (-3) 2 "n") [2, 2, 2, 2] [7] ∧
      g.derive Source.chooser.recording 6 "s" (.script [0, 1, 0, -3, 7], []) =
        .error (.outOfRange (-3) 2 "n") (.script [7], [2, 2, 2, 2]) ∧
      g.StopsAt ["s"] [0, 1] (.choice .exhausted) [2, 2, 2] [] ∧
      g.defines "x" = false ∧
      g.derive Source.chooser.recording 6 "x" (.script [0], []) =
        .error (.unknownSymbol "x") (.script [0], []) := by
  have hg : ofLines ["s::=n x n|", "n::=a|n b"] =
      .ok ⟨[⟨"s", [["n", "x", "n"], []]⟩, ⟨"n", [["a"], ["n", "b"]]⟩]⟩ := by decide +kernel
  have hsymbol :
      defines ⟨[⟨"s", [["n", "x", "n"], []]⟩, ⟨"n", [["a"], ["n", "b"]]⟩]⟩ "s" = true := by
    decide +kernel
  have hterminal :
      defines ⟨[⟨"s", [["n", "x", "n"], []]⟩, ⟨"n", [["a"], ["n", "b"]]⟩]⟩ "x" = false := by
    decide +kernel
  obtain ⟨hsuffices, hfails⟩ := (derive_error_iff_stopsAt hg "s").1 hsymbol [0, 1, 0, -3, 7]
  have hwithin := hsuffices 6 (by decide)
  obtain ⟨asked, left, heq, hstops⟩ :=
    (hfails 6 hwithin (.outOfRange (-3) 2 "n") (.script [7], [2, 2, 2, 2])).1.mp rfl
  obtain ⟨hsource, rfl⟩ := Prod.mk.inj heq
  obtain rfl := Source.script.inj hsource
  obtain ⟨hsuffices', hfails'⟩ := (derive_error_iff_stopsAt hg "s").1 hsymbol [0, 1]
  obtain ⟨asked, left, heq, hstops'⟩ :=
    (hfails' 6 (hsuffices' 6 (by decide)) (.choice .exhausted) (.script [], [2, 2, 2])).1.mp rfl
  obtain ⟨hsource, rfl⟩ := Prod.mk.inj heq
  obtain rfl := Source.script.inj hsource
  exact ⟨_, hg, hsymbol, hwithin, hstops, rfl, hstops', hterminal,
    ((derive_error_iff_stopsAt hg "x").2 hterminal Source.chooser 6 (.script [0])).1⟩

/-- **A pick with too many digits is out of range and not named.** With one alternative to choose
from, the least number of 4301 digits is refused after the one question, whatever the depth, by an
error that is not the one which names the pick. -/
theorem huge_pick_not_named :
    ∃ (g : Grammar) (pick : Int), ofLines ["s::=a"] = .ok g ∧ pick = 10 ^ Text.maxDigits ∧
      g.alternatives? "s" = some [["a"]] ∧ ¬ (0 ≤ pick ∧ pick < 1) ∧
      ∀ depth,
        g.derive Source.chooser.recording (depth + 1) "s" (.script [pick], []) =
          .error .unwritableIndex (.script [], [1]) ∧
        g.generate Source.chooser.recording (depth + 1) "s" (.script [pick], []) =
          .error .unwritableIndex (.script [], [1]) ∧
        (.unwritableIndex : DerivationError SourceError) ≠ .outOfRange pick 1 "s" := by
  have hg : ofLines ["s::=a"] = .ok ⟨[⟨"s", [["a"]]⟩]⟩ := by decide +kernel
  have hrule : alternatives? ⟨[⟨"s", [["a"]]⟩]⟩ "s" = some [["a"]] := by decide +kernel
  obtain ⟨pick, hpick⟩ : ∃ pick : Int, pick = 10 ^ Text.maxDigits := ⟨_, rfl⟩
  have hpositive : 0 < pick := hpick ▸ Int.pow_pos (by decide)
  have hdigits : Text.isWritable pick = false := by
    rw [Bool.eq_false_iff, Ne, Text.isWritable_iff, hpick, Int.natAbs_pow]
    simp only [Int.reduceAbs, lt_irrefl, not_false_eq_true]
  have hout : ¬ (0 ≤ pick ∧ pick < ([["a"]] : List Alternative).length) := by
    rw [List.length_singleton]
    omega
  refine ⟨_, pick, hg, hpick, hrule, hout, fun depth => ?_⟩
  have hdraw : draw ⟨[⟨"s", [["a"]]⟩]⟩ Source.chooser.recording "s" (.script [pick], []) =
      .error .unwritableIndex (.script [], [1]) := by
    rw [draw_of_ask_ok hrule rfl, select?_eq_none_iff.mpr hout]
    simp [DerivationError.ofIndex, hdigits]
  have hderive := expand_succ_of_error _ _ depth hdraw
  rw [← derive_of_defines _ _ _ (defines_of_alternatives? hrule)] at hderive
  refine ⟨hderive, ?_, by simp⟩
  rw [generate_eq_map, hderive, Outcome.map_error]

end SentenceGen.Grammar
