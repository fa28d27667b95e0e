import Mathlib.Data.List.Basic
import SentenceGen.Grammar.Rule
import SentenceGen.Proofs.Text.Joins

/-!
# Rule lines read back

A rule line is cut at the first `::=`, and it is a rule line only if there is no other. Two things
make this exact:

* **The separator overlaps with nothing.** No start of `::=` is an end of it, so a symbol that ends
  in colons does not move the cut (`cutAtSeparator_eq_some_iff`), and an occurrence in a text that
  is joined from pieces lies in one of the pieces (`exists_infix_of_infix_intercalate`).
* **A rule that was read is in normal form** (`Rule.WellFormed`): its tokens are words without bars
  and without `::=`, and its symbol holds no `::=`. Conversely the line of such a rule is read back
  as this rule (`Rule.ofLine_line`), so the normal form is exactly what lines write.
-/

namespace SentenceGen

/-- The separator between a symbol and its alternatives. -/
abbrev separator : List Char :=
  [':', ':', '=']

/-! ### The separator -/

theorem unbordered_separator : Text.Unbordered separator := by
  decide

/-- A separator at the start of a text is found there. -/
private theorem cutAtSeparator_append (s : List Char) :
    cutAtSeparator (separator ++ s) = some ([], s) := by
  simp [cutAtSeparator]

/-- A character that starts no separator goes to the front. -/
private theorem cutAtSeparator_cons {c : Char} {s : List Char} (h : ¬ separator <+: c :: s) :
    cutAtSeparator (c :: s) = (cutAtSeparator s).map fun (front, back) => (c :: front, back) := by
  rw [cutAtSeparator]
  rintro rest rfl rfl
  exact h ⟨rest, rfl⟩

theorem cutAtSeparator_eq_none_iff {s : List Char} :
    cutAtSeparator s = none ↔ ¬ separator <:+: s := by
  induction s with
  | nil => simp [cutAtSeparator]
  | cons c s ih =>
    by_cases hpre : separator <+: c :: s
    · obtain ⟨rest, hrest⟩ := hpre
      rw [← hrest, cutAtSeparator_append]
      exact iff_of_false (by simp) fun h => h ⟨[], rest, rfl⟩
    · rw [cutAtSeparator_cons hpre, Option.map_eq_none_iff, ih, List.infix_cons_iff]
      simp [hpre]

/-- No part of a separator at the end of a text is completed by another separator. -/
private theorem not_isPrefix_of_not_isInfix {c : Char} {front back : List Char}
    (h : ¬ separator <:+: c :: front) : ¬ separator <+: c :: (front ++ (separator ++ back)) := by
  rintro ⟨rest, hrest⟩
  exact List.cons_ne_nil c front (unbordered_separator.eq_nil_of_append_eq h hrest)

/-- **The cut is at the first separator.** The front may end in colons. -/
theorem cutAtSeparator_eq_some_iff {s front back : List Char} :
    cutAtSeparator s = some (front, back) ↔
      s = front ++ (separator ++ back) ∧ ¬ separator <:+: front := by
  constructor
  · intro h
    induction s generalizing front with
    | nil => simp [cutAtSeparator] at h
    | cons c s ih =>
      by_cases hpre : separator <+: c :: s
      · obtain ⟨rest, hrest⟩ := hpre
        rw [← hrest, cutAtSeparator_append] at h
        obtain ⟨rfl, rfl⟩ := Prod.mk.inj (Option.some.inj h)
        exact ⟨hrest.symm, by simp⟩
      · rw [cutAtSeparator_cons hpre, Option.map_eq_some_iff] at h
        obtain ⟨⟨front', back'⟩, hcut, heq⟩ := h
        obtain ⟨rfl, rfl⟩ := Prod.mk.inj heq
        obtain ⟨rfl, hfront⟩ := ih hcut
        refine ⟨rfl, fun hpart => ?_⟩
        rcases List.infix_cons_iff.mp hpart with hstart | hlater
        · obtain ⟨rest, hrest⟩ := hstart
          exact hpre ⟨rest ++ (separator ++ back'), by
            rw [← List.append_assoc, hrest, List.cons_append]⟩
        · exact hfront hlater
  · rintro ⟨rfl, hfront⟩
    induction front with
    | nil => rw [List.nil_append, cutAtSeparator_append]
    | cons c front ih =>
      have hlater : ¬ separator <:+: front := fun h => hfront (List.infix_cons h)
      rw [List.cons_append, cutAtSeparator_cons (not_isPrefix_of_not_isInfix hfront), ih hlater]
      rfl

/-- An occurrence in a join that does not hold the glue lies in one of the pieces. -/
theorem exists_infix_of_infix_intercalate {w : List Char} {c : Char} (hw : w ≠ []) (hc : c ∉ w)
    {pieces : List (List Char)} (h : w <:+: [c].intercalate pieces) :
    ∃ piece ∈ pieces, w <:+: piece := by
  induction pieces with
  | nil => simp [hw] at h
  | cons v vs ih =>
    by_cases hne : vs = []
    · rw [hne, List.intercalate_singleton] at h
      exact ⟨v, List.mem_cons_self, h⟩
    · rw [List.intercalate_cons_of_ne_nil hne, List.append_assoc, List.singleton_append] at h
      rcases List.infix_append_iff.mp h with hv | hrest | ⟨w₁, w₂, rfl, hsuf, hpre⟩
      · exact ⟨v, List.mem_cons_self, hv⟩
      · rcases List.infix_cons_iff.mp hrest with hstart | hlater
        · -- it would start with the glue
          obtain ⟨d, w', rfl⟩ := List.exists_cons_of_ne_nil hw
          obtain rfl := (List.cons_prefix_cons.mp hstart).1
          exact absurd List.mem_cons_self hc
        · obtain ⟨piece, hmem, hpiece⟩ := ih hlater
          exact ⟨piece, List.mem_cons_of_mem _ hmem, hpiece⟩
      · -- what reaches over the end of the first piece would hold the glue
        cases w₂ with
        | nil => exact ⟨v, List.mem_cons_self, by simpa using hsuf.isInfix⟩
        | cons d w₂ =>
          obtain rfl := (List.cons_prefix_cons.mp hpre).1
          simp at hc

theorem eq_append_separator_iff {line front back : String} :
    line = front ++ "::=" ++ back ↔
      line.toList = front.toList ++ (separator ++ back.toList) := by
  rw [← String.toList_inj]
  simp

/-- **Reading a rule line accepts exactly what it should and loses nothing.** -/
theorem splitRule_eq_ok_iff {line symbol expansions : String} :
    splitRule line = .ok (symbol, expansions) ↔
      line = symbol ++ "::=" ++ expansions ∧ symbol ≠ "" ∧
        ¬ separator <:+: symbol.toList ∧ ¬ separator <:+: expansions.toList := by
  rw [eq_append_separator_iff, splitRule]
  constructor
  · intro h
    split at h
    · cases h
    · rename_i front back hcut
      obtain ⟨hsplit, hfront⟩ := cutAtSeparator_eq_some_iff.mp hcut
      split_ifs at h with hsecond hempty
      obtain ⟨rfl, rfl⟩ := Prod.mk.inj (Except.ok.inj h)
      simp only [String.toList_ofList]
      refine ⟨hsplit, ?_, hfront, ?_⟩
      · simpa using hempty
      · rw [← cutAtSeparator_eq_none_iff]
        simpa using hsecond
  · rintro ⟨hsplit, hne, hfront, hback⟩
    have hcut := cutAtSeparator_eq_some_iff.mpr ⟨hsplit, hfront⟩
    have hsecond := cutAtSeparator_eq_none_iff.mpr hback
    simp [hcut, hsecond, hne]

/-! ### Alternatives -/

/-- A text that can stand as a token in a rule line. -/
structure IsToken (token : String) : Prop where
  isWord : Text.IsWord token.toList
  no_bar : '|' ∉ token.toList
  no_separator : ¬ separator <:+: token.toList

theorem IsToken.ne_empty {token : String} (h : IsToken token) : token ≠ "" := by
  rintro rfl
  exact h.isWord.ne_nil rfl

theorem toList_alternativesText (alternatives : List Alternative) :
    (alternativesText alternatives).toList =
      ['|'].intercalate
        (alternatives.map fun tokens => [' '].intercalate (tokens.map String.toList)) := by
  simp [alternativesText, Function.comp_def]

theorem alternativesOf_ne_nil (text : String) : alternativesOf text ≠ [] := by
  simp [alternativesOf, Text.cut_ne_nil]

/-- The tokens that a text writes are words of it without bars. -/
theorem of_mem_alternativesOf {text : String} {tokens : Alternative}
    (htokens : tokens ∈ alternativesOf text) {token : String} (htoken : token ∈ tokens) :
    Text.IsWord token.toList ∧ '|' ∉ token.toList ∧ token.toList <:+: text.toList := by
  obtain ⟨piece, hpiece, rfl⟩ := List.mem_map.mp htokens
  obtain ⟨w, hw, rfl⟩ := List.mem_map.mp htoken
  rw [String.toList_ofList]
  have hpart := Text.infix_of_mem_words hw
  refine ⟨Text.isWord_of_mem_words hw, fun hbar => ?_,
    hpart.trans (Text.infix_of_mem_cut hpiece)⟩
  simpa using Text.not_of_mem_cut hpiece (hpart.subset hbar)

/-- **Alternatives are read back from their text**, if there is one and all tokens are words
without bars. An alternative without tokens is an empty piece between the bars. -/
theorem alternativesOf_alternativesText {alternatives : List Alternative}
    (hne : alternatives ≠ [])
    (h : ∀ tokens ∈ alternatives, ∀ token ∈ tokens,
      Text.IsWord token.toList ∧ '|' ∉ token.toList) :
    alternativesOf (alternativesText alternatives) = alternatives := by
  have hbar : ∀ piece ∈ alternatives.map fun tokens => [' '].intercalate (tokens.map String.toList),
      '|' ∉ piece := by
    intro piece hpiece hmem
    obtain ⟨tokens, htokens, rfl⟩ := List.mem_map.mp hpiece
    rcases Text.mem_of_mem_intercalate hmem with hspace | ⟨w, hw, hin⟩
    · simp at hspace
    · obtain ⟨token, htoken, rfl⟩ := List.mem_map.mp hw
      exact (h tokens htokens token htoken).2 hin
  have hwords : ∀ tokens ∈ alternatives,
      (Text.words ([' '].intercalate (tokens.map String.toList))).map String.ofList = tokens := by
    intro tokens htokens
    rw [Text.words_intercalate, List.map_map]
    · simp [Function.comp_def]
    · exact List.forall_mem_map.mpr fun token htoken => (h tokens htokens token htoken).1
  rw [alternativesOf, toList_alternativesText, Text.cut_intercalate (by simpa using hne) hbar,
    List.map_map]
  exact (List.map_congr_left hwords).trans (List.map_id _)

/-! ### Rules -/

/-- The **normal form** of a rule: the symbol is not empty, there is an alternative, all tokens can
stand in a line, and no part of the line but its separator holds `::=`. -/
structure Rule.WellFormed (r : Rule) : Prop where
  symbol_ne_empty : r.symbol ≠ ""
  symbol_no_separator : ¬ separator <:+: r.symbol.toList
  alternatives_ne_nil : r.alternatives ≠ []
  isToken : ∀ tokens ∈ r.alternatives, ∀ token ∈ tokens, IsToken token

theorem Rule.ofLine_eq_ok_iff {line : String} {r : Rule} :
    Rule.ofLine line = .ok r ↔
      ∃ expansions, splitRule line = .ok (r.symbol, expansions) ∧
        r.alternatives = alternativesOf expansions := by
  rw [Rule.ofLine]
  cases h : splitRule line with
  | error e => simp [Except.map]
  | ok parts =>
    obtain ⟨symbol, expansions⟩ := parts
    simp only [Except.map, Except.ok.injEq, Prod.mk.injEq]
    constructor
    · rintro rfl
      exact ⟨expansions, ⟨rfl, rfl⟩, rfl⟩
    · rintro ⟨_, ⟨hsymbol, rfl⟩, halternatives⟩
      cases r
      simp_all

/-- A rule that was read is in normal form. -/
theorem Rule.wellFormed_of_ofLine {line : String} {r : Rule} (h : Rule.ofLine line = .ok r) :
    r.WellFormed := by
  obtain ⟨expansions, hsplit, halternatives⟩ := Rule.ofLine_eq_ok_iff.mp h
  obtain ⟨-, hne, hsymbol, hexpansions⟩ := splitRule_eq_ok_iff.mp hsplit
  refine ⟨hne, hsymbol, halternatives ▸ alternativesOf_ne_nil expansions, ?_⟩
  intro tokens htokens token htoken
  rw [halternatives] at htokens
  obtain ⟨hword, hbar, hpart⟩ := of_mem_alternativesOf htokens htoken
  exact ⟨hword, hbar, fun h => hexpansions (h.trans hpart)⟩

/-- No separator comes up when alternatives are written: it would have to lie in one token. -/
theorem no_separator_alternativesText {alternatives : List Alternative}
    (h : ∀ tokens ∈ alternatives, ∀ token ∈ tokens, IsToken token) :
    ¬ separator <:+: (alternativesText alternatives).toList := by
  rw [toList_alternativesText]
  intro hpart
  obtain ⟨piece, hpiece, hin⟩ := exists_infix_of_infix_intercalate (by simp) (by simp) hpart
  obtain ⟨tokens, htokens, rfl⟩ := List.mem_map.mp hpiece
  obtain ⟨w, hw, hin⟩ := exists_infix_of_infix_intercalate (by simp) (by simp) hin
  obtain ⟨token, htoken, rfl⟩ := List.mem_map.mp hw
  exact (h tokens htokens token htoken).no_separator hin

/-- **A rule in normal form is read back from its line.** -/
theorem Rule.ofLine_line {r : Rule} (h : r.WellFormed) : Rule.ofLine r.line = .ok r := by
  rw [Rule.ofLine_eq_ok_iff]
  refine ⟨alternativesText r.alternatives, ?_, ?_⟩
  · rw [splitRule_eq_ok_iff]
    exact ⟨rfl, h.symbol_ne_empty, h.symbol_no_separator, no_separator_alternativesText h.isToken⟩
  · refine (alternativesOf_alternativesText h.alternatives_ne_nil ?_).symm
    intro tokens htokens token htoken
    have := h.isToken tokens htokens token htoken
    exact ⟨this.isWord, this.no_bar⟩

end SentenceGen
