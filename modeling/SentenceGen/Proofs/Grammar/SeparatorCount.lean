import Mathlib.Data.List.Infix
import SentenceGen.Proofs.Grammar.RuleLine

/-!
# Counting separators

The separators of a line can be counted in two ways: one behind the end of the other, or at every
place where one starts. As the separator overlaps with nothing, least of all with itself, the two
counts are the same (`separatorCount_eq_countP`), and a text with the count zero holds no separator.

So a line that is refused unless the count is one, and otherwise cut at the first separator, is
taken apart in the only way there is (`splitRule_lossless`), and the count and the start of the line
tell why one is refused (`splitRule_eq_error_iff_count`).
-/

namespace SentenceGen

/-- How many separators a text holds, each one looked for behind the end of the one before. -/
def separatorCount : List Char → Nat
  | [] => 0
  | ':' :: ':' :: '=' :: rest => separatorCount rest + 1
  | _ :: rest => separatorCount rest

/-- **No separator is missed** by going on behind the end of the one before. -/
theorem separatorCount_eq_countP (s : List Char) :
    separatorCount s = s.tails.countP (separator.isPrefixOf ·) := by
  fun_induction separatorCount s with
  | case1 => rfl
  | case2 rest ih => simp [ih]
  | case3 c rest hother ih =>
    have hpre : ¬ separator <+: c :: rest := by
      rintro ⟨back, hback⟩
      obtain ⟨rfl, hrest⟩ := List.cons.inj hback
      exact hother back rfl hrest.symm
    rw [List.tails, List.countP_cons_of_neg (by simpa using hpre), ih]

theorem separatorCount_eq_zero_iff {s : List Char} :
    separatorCount s = 0 ↔ ¬ separator <:+: s := by
  rw [separatorCount_eq_countP, List.countP_eq_zero, List.infix_iff_prefix_suffix]
  simp only [List.mem_tails, List.isPrefixOf_iff_prefix, not_exists, not_and]
  exact forall_congr' fun t => forall_comm

section Cut

variable {s front back : List Char}

/-- The separator at the cut is the first one that is counted. -/
theorem separatorCount_of_cut (h : cutAtSeparator s = some (front, back)) :
    separatorCount s = separatorCount back + 1 := by
  fun_induction cutAtSeparator s generalizing front with
  | case1 => cases h
  | case2 rest =>
    obtain ⟨rfl, rfl⟩ := Prod.mk.inj (Option.some.inj h)
    rfl
  | case3 c rest hother ih =>
    obtain ⟨⟨front', back'⟩, hcut, heq⟩ := Option.map_eq_some_iff.mp h
    obtain ⟨rfl, rfl⟩ := Prod.mk.inj heq
    rw [separatorCount, ih hcut]
    exact hother

/-- Nothing stands in front of the cut exactly if the text starts with a separator. -/
theorem eq_nil_iff_of_cut (h : cutAtSeparator s = some (front, back)) :
    front = [] ↔ separator <+: s := by
  constructor
  · rintro rfl
    obtain ⟨rfl, -⟩ := cutAtSeparator_eq_some_iff.mp h
    exact ⟨back, rfl⟩
  · rintro ⟨rest, rfl⟩
    have hfirst : cutAtSeparator (separator ++ rest) = some ([], rest) :=
      cutAtSeparator_eq_some_iff.mpr ⟨rfl, by simp⟩
    rw [hfirst] at h
    exact (Prod.mk.inj (Option.some.inj h)).1.symm

/-- There is a second cut exactly if there is more than the one separator. -/
theorem isSome_cut_iff_of_cut (h : cutAtSeparator s = some (front, back)) :
    (cutAtSeparator back).isSome = true ↔ separatorCount s ≠ 1 := by
  rw [separatorCount_of_cut h, Option.isSome_iff_ne_none, Ne, cutAtSeparator_eq_none_iff,
    ← separatorCount_eq_zero_iff]
  omega

end Cut

/-- **Why a line is refused**: the count of its separators comes before what stands in front. -/
theorem splitRule_eq_error_iff_count {line : String} {e : GrammarError} :
    splitRule line = .error e ↔
      (separatorCount line.toList ≠ 1 ∧ e = .expectedOneSeparator line) ∨
        (separatorCount line.toList = 1 ∧ separator <+: line.toList ∧
          e = .missingNonterminal line) := by
  rw [splitRule]
  cases hcut : cutAtSeparator line.toList with
  | none =>
    have hzero : separatorCount line.toList = 0 :=
      separatorCount_eq_zero_iff.mpr (cutAtSeparator_eq_none_iff.mp hcut)
    simp [hzero, eq_comm]
  | some parts =>
    obtain ⟨front, back⟩ := parts
    simp only [isSome_cut_iff_of_cut hcut, List.isEmpty_iff, eq_nil_iff_of_cut hcut]
    split_ifs with hcount hstart
    · simp [hcount, eq_comm]
    · simp [not_not.mp hcount, hstart, eq_comm]
    · simp [not_not.mp hcount, hstart]

/-- **A rule line is taken apart in the only way there is, and nothing of it is lost.** For every
line:

* a symbol and a right-hand side come out of it exactly if the line is the symbol, `::=` and the
  right-hand side, the symbol is not empty, and neither of the two holds `::=`;
* it is refused exactly if there are no such two texts;
* then it is told to have not exactly one `::=`, if that is so by the count, and to lack a symbol
  otherwise, since it starts with its only `::=`. -/
theorem splitRule_lossless (line : String) :
    (∀ symbol expansions, splitRule line = .ok (symbol, expansions) ↔
        line = symbol ++ "::=" ++ expansions ∧ symbol ≠ "" ∧
          ¬ separator <:+: symbol.toList ∧ ¬ separator <:+: expansions.toList) ∧
      ((∃ e, splitRule line = .error e) ↔ ¬ ∃ symbol expansions,
        line = symbol ++ "::=" ++ expansions ∧ symbol ≠ "" ∧
          ¬ separator <:+: symbol.toList ∧ ¬ separator <:+: expansions.toList) ∧
      ∀ e, splitRule line = .error e ↔
        (separatorCount line.toList ≠ 1 ∧ e = .expectedOneSeparator line) ∨
          (separatorCount line.toList = 1 ∧ separator <+: line.toList ∧
            e = .missingNonterminal line) := by
  refine ⟨fun symbol expansions => splitRule_eq_ok_iff, ?_, fun e => splitRule_eq_error_iff_count⟩
  simp only [← splitRule_eq_ok_iff]
  cases splitRule line with
  | error e => simp
  | ok parts => exact iff_of_false (fun ⟨e, h⟩ => nomatch h) (not_not.mpr ⟨parts.1, parts.2, rfl⟩)

/-- Neither the colons in front of a separator nor the equals sign behind it move the cut. -/
example : splitRule "s::::==:" = .ok ("s::", "=:") := by
  decide +kernel

end SentenceGen
