import Mathlib.Data.List.Sort
import SentenceGen.Grammar.Basic
import SentenceGen.Proofs.Text.Joins

/-!
# Listings of symbols

A listing is written from the symbols in ascending order of code points. As this order is total and
no two symbols are alike in it, there is only one way to put symbols in order, and a listing depends
on which symbols there are, not on the order in which they came (`symbolListing_perm`).

Conversely a listing tells which symbols there are and how often each comes, as long as none is
empty and none holds the comma and the space that stand between them (`perm_of_symbolListing_eq`).
Commas, spaces and brackets at the ends of symbols do no harm.
-/

namespace SentenceGen

/-! ### The order of symbols -/

/-- The code points of a text. -/
def codePoints (s : String) : List Nat :=
  s.toList.map Char.toNat

/-- Every symbol comes before the ones behind it by its code points, the first of them counting
most, or is the same. -/
def Ascending (symbols : List String) : Prop :=
  symbols.Pairwise fun a b => a = b ∨ codePoints a < codePoints b

/-- **Symbols are compared by code points.** -/
theorem codePoints_lt_iff {a b : String} : codePoints a < codePoints b ↔ a < b := by
  have hmap {a b : String} (h : a < b) : codePoints a < codePoints b :=
    List.map_lt (fun _ _ hlt => hlt) (String.lt_iff.mp h)
  refine ⟨fun h => ?_, hmap⟩
  by_contra hlt
  by_cases heq : a = b
  · exact List.lt_irrefl _ (heq ▸ h)
  · have hle : b ≤ a := String.not_lt.mp hlt
    have hgt : b < a := String.not_le.mp fun hge => heq (String.le_antisymm hge hle)
    exact List.lt_asymm h (hmap hgt)

theorem ascending_iff {symbols : List String} : Ascending symbols ↔ symbols.Pairwise (· ≤ ·) := by
  refine List.Pairwise.iff fun a b => ?_
  rw [codePoints_lt_iff]
  constructor
  · rintro (rfl | hlt)
    · exact String.le_refl a
    · exact String.not_lt.mp (String.lt_asymm hlt)
  · intro hle
    by_contra! hother
    exact hother.1 (String.le_antisymm hle (String.not_lt.mp hother.2))

/-- The same symbols ascend in one way only. -/
theorem Ascending.eq_of_perm {symbols others : List String} (h : Ascending symbols)
    (hothers : Ascending others) (hperm : symbols.Perm others) : symbols = others :=
  hperm.eq_of_pairwise (fun _ _ _ _ => String.le_antisymm) (ascending_iff.mp h)
    (ascending_iff.mp hothers)

/-- Symbols that were sorted ascend. -/
theorem ascending_mergeSort (symbols : List String) :
    Ascending (symbols.mergeSort fun a b => decide (a ≤ b)) := by
  have htrans : ∀ a b c : String,
      decide (a ≤ b) = true → decide (b ≤ c) = true → decide (a ≤ c) = true := by
    intro a b c hab hbc
    exact decide_eq_true (String.le_trans (of_decide_eq_true hab) (of_decide_eq_true hbc))
  have htotal : ∀ a b : String, (decide (a ≤ b) || decide (b ≤ a)) = true := by
    intro a b
    rw [Bool.or_eq_true, decide_eq_true_iff, decide_eq_true_iff]
    exact String.le_total a b
  exact ascending_iff.mpr
    ((List.pairwise_mergeSort htrans htotal symbols).imp of_decide_eq_true)

/-! ### Listings -/

/-- However the symbols were sorted, their listing is written from the outcome. -/
theorem symbolListing_eq_of_ascending {symbols sorted : List String} (h : Ascending sorted)
    (hperm : sorted.Perm symbols) :
    symbolListing symbols = "[" ++ ", ".intercalate sorted ++ "]" := by
  have hsame : (symbols.mergeSort fun a b => decide (a ≤ b)).Perm sorted :=
    (List.mergeSort_perm symbols _).trans hperm.symm
  rw [symbolListing, (ascending_mergeSort symbols).eq_of_perm h hsame]

/-- **A listing does not depend on the order of its symbols.** -/
theorem symbolListing_perm {symbols others : List String} (h : symbols.Perm others) :
    symbolListing symbols = symbolListing others :=
  symbolListing_eq_of_ascending (ascending_mergeSort others)
    ((List.mergeSort_perm others _).trans h.symm)

/-- **A listing tells which symbols there are.** -/
theorem perm_of_symbolListing_eq {symbols others : List String}
    (hsymbols : ∀ symbol ∈ symbols, Text.IsPiece ", ".toList symbol.toList)
    (hothers : ∀ symbol ∈ others, Text.IsPiece ", ".toList symbol.toList)
    (h : symbolListing symbols = symbolListing others) : symbols.Perm others := by
  have hpieces {symbols : List String}
      (hsymbols : ∀ symbol ∈ symbols, Text.IsPiece ", ".toList symbol.toList) :
      ∀ piece ∈ (symbols.mergeSort fun a b => decide (a ≤ b)).map String.toList,
        Text.IsPiece ", ".toList piece :=
    List.forall_mem_map.mpr fun symbol hmem => hsymbols symbol (List.mem_mergeSort.mp hmem)
  have hjoined : ", ".intercalate (symbols.mergeSort fun a b => decide (a ≤ b)) =
      ", ".intercalate (others.mergeSort fun a b => decide (a ≤ b)) := by
    simpa [symbolListing] using h
  rw [← String.toList_inj, String.toList_intercalate, String.toList_intercalate] at hjoined
  have hunbordered : Text.Unbordered ", ".toList := by decide
  have hsorted := hunbordered.intercalate_inj (hpieces hsymbols) (hpieces hothers) hjoined
  rw [List.map_inj_right fun _ _ => String.toList_inj.mp] at hsorted
  exact (List.mergeSort_perm symbols _).symm.trans (hsorted ▸ List.mergeSort_perm others _)

/-- **A listing is written from the symbols in order, and from nothing else.** For all symbols:

* there is exactly one way to put them in ascending order of code points, and the listing is these
  symbols with `, ` between them, in brackets;
* the same symbols in another order have the same listing;
* where no symbol is empty or holds `, `, only the same symbols have this listing. -/
theorem symbolListing_faithful (symbols : List String) :
    (∃ sorted, (sorted.Perm symbols ∧ Ascending sorted ∧
        symbolListing symbols = "[" ++ ", ".intercalate sorted ++ "]") ∧
        ∀ other, other.Perm symbols → Ascending other → other = sorted) ∧
      (∀ others, others.Perm symbols → symbolListing others = symbolListing symbols) ∧
      ∀ others, (∀ symbol ∈ symbols ++ others, symbol ≠ "" ∧ ¬ ", ".toList <:+: symbol.toList) →
        symbolListing symbols = symbolListing others → symbols.Perm others := by
  let sorted := symbols.mergeSort fun a b => decide (a ≤ b)
  have hperm : sorted.Perm symbols := List.mergeSort_perm symbols _
  have hascending : Ascending sorted := ascending_mergeSort symbols
  refine ⟨⟨sorted, ⟨hperm, hascending, symbolListing_eq_of_ascending hascending hperm⟩,
    fun other hother hascends => hascends.eq_of_perm hascending (hother.trans hperm.symm)⟩,
    fun others => symbolListing_perm, fun others hpieces hlisting => ?_⟩
  have hall : ∀ symbol ∈ symbols ++ others, Text.IsPiece ", ".toList symbol.toList := by
    intro symbol hmem
    obtain ⟨hne, hno⟩ := hpieces symbol hmem
    exact ⟨by simpa using hne, hno⟩
  obtain ⟨hsymbols, hothers⟩ := List.forall_mem_append.mp hall
  exact perm_of_symbolListing_eq hsymbols hothers hlisting

/-- Symbols that end in a comma, or start with a space and end in a bracket. -/
theorem symbolListing_faithful_awkward :
    let symbols := ["b,", " [", "b,"]
    let others := ["b,", "b,", " ["]
    let sorted := [" [", "b,", "b,"]
    (∀ symbol ∈ symbols ++ others, symbol ≠ "" ∧ ¬ ", ".toList <:+: symbol.toList) ∧
      symbolListing symbols = "[ [, b,, b,]" ∧ symbolListing others = "[ [, b,, b,]" ∧
      symbols.Perm others ∧ sorted.Perm symbols ∧ Ascending sorted ∧
      ∀ other, other.Perm symbols → Ascending other → other = sorted := by
  intro symbols others sorted
  obtain ⟨⟨_, -, hunique⟩, horder, hperm⟩ := symbolListing_faithful symbols
  have hpieces : ∀ symbol ∈ symbols ++ others,
      symbol ≠ "" ∧ ¬ ", ".toList <:+: symbol.toList := by decide
  have hascending : Ascending sorted := by unfold Ascending; decide
  have hsorted : sorted.Perm symbols := by decide
  have hlisting : symbolListing symbols = "[ [, b,, b,]" := by
    rw [symbolListing_eq_of_ascending hascending hsorted]
    decide
  have hothers : symbolListing others = "[ [, b,, b,]" := by
    rw [symbolListing_eq_of_ascending hascending (by decide)]
    decide
  have hsame := hperm others hpieces (hlisting.trans hothers.symm)
  refine ⟨hpieces, hlisting, (horder others hsame.symm).trans hlisting, hsame, hsorted, hascending,
    fun other hother hascends => ?_⟩
  rw [hunique other hother hascends, hunique sorted hsorted hascending]

end SentenceGen
