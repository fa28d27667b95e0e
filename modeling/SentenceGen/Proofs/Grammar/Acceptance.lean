import Mathlib.Data.List.Forall2
import SentenceGen.Proofs.Grammar.WellFormed
import SentenceGen.Proofs.Results

/-!
# Which lines are a grammar

Lines are read as a grammar exactly if there is one, each of them is well-formed and their symbols
differ. A line is well-formed (`IsRuleLine`) if it holds `::=` at exactly one place and something in
front of it. Here this is said by the ways to take the line apart, not by counting or cutting: there
is only one (`SeparatedInto`), which cutting finds since the separator overlaps with nothing
(`separatedInto_iff`).

All other lines are refused for the first line that is not well-formed or whose symbol is that of a
line in front of it (`LineFault`). `ofGivenLines_eq_iff` states both halves.
-/

namespace SentenceGen

/-! ### One separator -/

/-- The line holds `::=` at exactly one place, between these two texts. -/
def SeparatedInto (line front back : String) : Prop :=
  ∀ s e, line = s ++ "::=" ++ e ↔ s = front ∧ e = back

theorem SeparatedInto.line_eq {line front back : String} (h : SeparatedInto line front back) :
    line = front ++ "::=" ++ back :=
  (h front back).mpr ⟨rfl, rfl⟩

/-- Where neither text holds a separator, there is no other way to take the line apart. -/
private theorem eq_of_append_separator {front back s e : List Char}
    (hfront : ¬ separator <:+: front) (hback : ¬ separator <:+: back)
    (h : front ++ (separator ++ back) = s ++ (separator ++ e)) : s = front ∧ e = back := by
  have hcut : cutAtSeparator (front ++ (separator ++ back)) = some (front, back) :=
    cutAtSeparator_eq_some_iff.mpr ⟨rfl, hfront⟩
  -- a separator in `s` would be the first one, and the one behind `s` would lie in `back`
  have hs : ¬ separator <:+: s := by
    rw [← cutAtSeparator_eq_none_iff]
    by_contra hsome
    obtain ⟨⟨a, b⟩, hab⟩ := Option.ne_none_iff_exists'.mp hsome
    obtain ⟨rfl, ha⟩ := cutAtSeparator_eq_some_iff.mp hab
    have hfirst : cutAtSeparator (front ++ (separator ++ back)) =
        some (a, b ++ (separator ++ e)) :=
      cutAtSeparator_eq_some_iff.mpr ⟨by rw [h]; simp only [List.append_assoc], ha⟩
    rw [hcut] at hfirst
    obtain ⟨-, rfl⟩ := Prod.mk.inj (Option.some.inj hfirst)
    exact hback ⟨b, e, by simp only [List.append_assoc]⟩
  have hcut' := cutAtSeparator_eq_some_iff.mpr ⟨h, hs⟩
  rw [hcut] at hcut'
  obtain ⟨rfl, rfl⟩ := Prod.mk.inj (Option.some.inj hcut')
  exact ⟨rfl, rfl⟩

/-- **A separator at one place only** is one that stands between texts without separators. -/
theorem separatedInto_iff {line front back : String} :
    SeparatedInto line front back ↔ line = front ++ "::=" ++ back ∧
      ¬ separator <:+: front.toList ∧ ¬ separator <:+: back.toList := by
  constructor
  · intro h
    refine ⟨h.line_eq, ?_, ?_⟩
    · rintro ⟨a, b, hab⟩
      -- the line could also be taken apart inside `front`
      have hother : line = String.ofList a ++ "::=" ++ (String.ofList b ++ "::=" ++ back) := by
        rw [eq_append_separator_iff, eq_append_separator_iff.mp h.line_eq, ← hab]
        simp
      have hlength := congrArg (fun s : String => s.toList.length) ((h _ _).mp hother).1
      simp only [String.toList_ofList, ← hab, List.length_append, List.length_cons] at hlength
      omega
    · rintro ⟨a, b, hab⟩
      have hother : line = (front ++ "::=" ++ String.ofList a) ++ "::=" ++ String.ofList b := by
        rw [eq_append_separator_iff, eq_append_separator_iff.mp h.line_eq, ← hab]
        simp
      have hlength := congrArg (fun s : String => s.toList.length) ((h _ _).mp hother).2
      simp only [String.toList_ofList, ← hab, List.length_append, List.length_cons] at hlength
      omega
  · rintro ⟨hline, hfront, hback⟩ s e
    constructor
    · intro hother
      rw [eq_append_separator_iff] at hline hother
      obtain ⟨hs, he⟩ := eq_of_append_separator hfront hback (hline.symm.trans hother)
      exact ⟨String.toList_inj.mp hs, String.toList_inj.mp he⟩
    · rintro ⟨rfl, rfl⟩
      exact hline

/-- Cutting a line twice finds out whether there is only one separator. -/
theorem separatedInto_iff_cut {line front back : String} :
    SeparatedInto line front back ↔
      cutAtSeparator line.toList = some (front.toList, back.toList) ∧
        cutAtSeparator back.toList = none := by
  rw [separatedInto_iff, cutAtSeparator_eq_some_iff, cutAtSeparator_eq_none_iff,
    eq_append_separator_iff, and_assoc]

/-! ### Lines by themselves -/

/-- The line is well-formed: it holds `::=` at exactly one place, with a symbol in front of it. -/
structure IsRuleLine (line symbol expansions : String) : Prop where
  symbol_ne_empty : symbol ≠ ""
  separatedInto : SeparatedInto line symbol expansions

/-- The error for a line that is not well-formed. -/
inductive Malformed (line : String) : GrammarError → Prop
  | separator (h : ∀ front back, ¬ SeparatedInto line front back) :
      Malformed line (.expectedOneSeparator line)
  | symbol {back : String} (h : SeparatedInto line "" back) :
      Malformed line (.missingNonterminal line)

theorem splitRule_eq_ok_iff_isRuleLine {line symbol expansions : String} :
    splitRule line = .ok (symbol, expansions) ↔ IsRuleLine line symbol expansions := by
  rw [splitRule_eq_ok_iff]
  constructor
  · rintro ⟨hline, hne, hsymbol, hexpansions⟩
    exact ⟨hne, separatedInto_iff.mpr ⟨hline, hsymbol, hexpansions⟩⟩
  · rintro ⟨hne, hseparated⟩
    obtain ⟨hline, hsymbol, hexpansions⟩ := separatedInto_iff.mp hseparated
    exact ⟨hline, hne, hsymbol, hexpansions⟩

/-- What is refused is not well-formed. -/
private theorem malformed_of_splitRule {line : String} {e : GrammarError}
    (h : splitRule line = .error e) : Malformed line e := by
  rw [splitRule] at h
  split at h
  · rename_i hcut
    cases h
    refine .separator fun front back hseparated => ?_
    cases hcut.symm.trans (separatedInto_iff_cut.mp hseparated).1
  · rename_i front back hcut
    split_ifs at h with hsecond hempty
    · cases h
      refine .separator fun front' back' hseparated => ?_
      obtain ⟨hcut', hnone⟩ := separatedInto_iff_cut.mp hseparated
      cases hcut.symm.trans hcut'
      simp [hnone] at hsecond
    · cases h
      obtain rfl := List.isEmpty_iff.mp hempty
      have hseparated : SeparatedInto line "" (String.ofList back) :=
        separatedInto_iff_cut.mpr ⟨by simp [hcut], by simpa using hsecond⟩
      exact .symbol hseparated

theorem Malformed.not_isRuleLine {line symbol expansions : String} {e : GrammarError}
    (h : Malformed line e) : ¬ IsRuleLine line symbol expansions := by
  rintro ⟨hne, hseparated⟩
  cases h with
  | separator hnone => exact hnone _ _ hseparated
  | symbol hempty => exact hne ((hseparated _ _).mp hempty.line_eq).1.symm

private theorem Malformed.unique {line : String} {e e' : GrammarError} (h : Malformed line e)
    (h' : Malformed line e') : e = e' := by
  cases h with
  | separator hnone =>
    cases h' with
    | separator _ => rfl
    | symbol hempty => exact absurd hempty (hnone _ _)
  | symbol hempty =>
    cases h' with
    | separator hnone => exact absurd hempty (hnone _ _)
    | symbol _ => rfl

/-- **A line is refused for what is wrong with it.** -/
theorem splitRule_eq_error_iff {line : String} {e : GrammarError} :
    splitRule line = .error e ↔ Malformed line e := by
  refine ⟨malformed_of_splitRule, fun h => ?_⟩
  cases hsplit : splitRule line with
  | ok parts => exact absurd (splitRule_eq_ok_iff_isRuleLine.mp hsplit) h.not_isRuleLine
  | error e' => rw [(malformed_of_splitRule hsplit).unique h]

/-! ### Lines behind other lines -/

/-- The error for a line behind lines with the symbols `known`. That it is not well-formed comes
before its symbol being known. -/
inductive LineFault (known : List String) (line : String) : GrammarError → Prop
  | malformed {e : GrammarError} (h : Malformed line e) : LineFault known line e
  | duplicate {symbol expansions : String} (h : IsRuleLine line symbol expansions)
      (hknown : symbol ∈ known) : LineFault known line (.duplicateNonterminal symbol)

/-- The rule with the given texts in front of the separator and behind it. -/
def Rule.ofParts (part : String × String) : Rule :=
  ⟨part.1, alternativesOf part.2⟩

theorem Rule.ofLine_eq_ok_iff_isRuleLine {line : String} {r : Rule} :
    Rule.ofLine line = .ok r ↔ ∃ part, IsRuleLine line part.1 part.2 ∧ Rule.ofParts part = r := by
  rw [Rule.ofLine_eq_ok_iff]
  constructor
  · rintro ⟨expansions, hsplit, halternatives⟩
    refine ⟨(r.symbol, expansions), splitRule_eq_ok_iff_isRuleLine.mp hsplit, ?_⟩
    rw [Rule.ofParts, ← halternatives]
  · rintro ⟨⟨symbol, expansions⟩, hline, rfl⟩
    exact ⟨expansions, splitRule_eq_ok_iff_isRuleLine.mpr hline, rfl⟩

theorem Rule.ofLine_eq_error_iff {line : String} {e : GrammarError} :
    Rule.ofLine line = .error e ↔ Malformed line e := by
  rw [← splitRule_eq_error_iff, Rule.ofLine]
  cases splitRule line <;> simp [Except.map]

/-- **One more line is refused for its fault** behind the lines of the known rules. -/
theorem Rule.addLine_eq_error_iff {known : List Rule} {line : String} {e : GrammarError} :
    Rule.addLine known line = .error e ↔ LineFault (known.map (·.symbol)) line e := by
  cases hline : Rule.ofLine line with
  | error e' =>
    have hmalformed := Rule.ofLine_eq_error_iff.mp hline
    have hadd : Rule.addLine known line = .error e' := by
      simp [Rule.addLine, hline, bind, Except.bind]
    rw [hadd, Except.error.injEq]
    constructor
    · rintro rfl
      exact .malformed hmalformed
    · rintro (h | ⟨hrule, -⟩)
      · exact hmalformed.unique h
      · exact absurd hrule hmalformed.not_isRuleLine
  | ok r =>
    obtain ⟨part, hrule, rfl⟩ := Rule.ofLine_eq_ok_iff_isRuleLine.mp hline
    rw [Rule.addLine_of_ofLine hline]
    constructor
    · intro h
      split_ifs at h with hknown
      cases h
      exact .duplicate hrule hknown
    · rintro (h | ⟨hrule', hknown⟩)
      · exact absurd hrule h.not_isRuleLine
      · obtain ⟨rfl, rfl⟩ := (hrule'.separatedInto _ _).mp hrule.separatedInto.line_eq
        exact if_pos hknown

/-! ### All lines -/

/-- The lines are well-formed, with these texts in front of their separators and behind them, and
the texts in front differ. -/
structure ReadInto (lines : List String) (parts : List (String × String)) : Prop where
  isRuleLine : List.Forall₂ (fun line part => IsRuleLine line part.1 part.2) lines parts
  symbols_nodup : (parts.map Prod.fst).Nodup

/-- Rules that lines write are those of their parts. -/
private theorem forall₂_ofLine_iff {lines : List String} {rules : List Rule} :
    List.Forall₂ (fun line r => Rule.ofLine line = .ok r) lines rules ↔
      ∃ parts, List.Forall₂ (fun line part => IsRuleLine line part.1 part.2) lines parts ∧
        parts.map Rule.ofParts = rules := by
  constructor
  · intro h
    induction h with
    | nil => exact ⟨[], .nil, rfl⟩
    | cons hline _ ih =>
      obtain ⟨part, hpart, rfl⟩ := Rule.ofLine_eq_ok_iff_isRuleLine.mp hline
      obtain ⟨parts, hparts, rfl⟩ := ih
      exact ⟨part :: parts, .cons hpart hparts, rfl⟩
  · rintro ⟨parts, hparts, rfl⟩
    rw [List.forall₂_map_right_iff]
    exact hparts.imp fun line part hpart => Rule.ofLine_eq_ok_iff_isRuleLine.mpr ⟨part, hpart, rfl⟩

theorem Rule.ofLines_eq_ok_iff_readInto {lines : List String} {rules : List Rule} :
    Rule.ofLines lines = .ok rules ↔
      ∃ parts, ReadInto lines parts ∧ parts.map Rule.ofParts = rules := by
  rw [Rule.ofLines_eq_ok_iff, forall₂_ofLine_iff]
  constructor
  · rintro ⟨⟨parts, hparts, rfl⟩, hnodup⟩
    rw [List.map_map] at hnodup
    exact ⟨parts, ⟨hparts, hnodup⟩, rfl⟩
  · rintro ⟨parts, ⟨hparts, hnodup⟩, rfl⟩
    refine ⟨⟨parts, hparts, rfl⟩, ?_⟩
    rw [List.map_map]
    exact hnodup

/-- **Lines are refused for the first fault** among them. -/
theorem Rule.ofLines_eq_error_iff {lines : List String} {e : GrammarError} :
    Rule.ofLines lines = .error e ↔ ∃ before line after parts,
      lines = before ++ line :: after ∧ ReadInto before parts ∧
        LineFault (parts.map Prod.fst) line e := by
  rw [Rule.ofLines, foldlM_eq_error_iff]
  constructor
  · rintro ⟨before, line, after, known, rfl, hknown, hline⟩
    obtain ⟨parts, hparts, rfl⟩ := Rule.ofLines_eq_ok_iff_readInto.mp hknown
    rw [Rule.addLine_eq_error_iff, List.map_map] at hline
    exact ⟨before, line, after, parts, rfl, hparts, hline⟩
  · rintro ⟨before, line, after, parts, rfl, hparts, hline⟩
    refine ⟨before, line, after, parts.map Rule.ofParts, rfl,
      Rule.ofLines_eq_ok_iff_readInto.mpr ⟨parts, hparts, rfl⟩, ?_⟩
    rw [Rule.addLine_eq_error_iff, List.map_map]
    exact hline

namespace Grammar

private theorem ofLines_eq_ok_iff_readInto {lines : List String} {g : Grammar} :
    ofLines lines = .ok g ↔
      lines ≠ [] ∧ ∃ parts, ReadInto lines parts ∧ g.rules = parts.map Rule.ofParts := by
  rw [ofLines_eq_ok_iff, symbols, ← Rule.ofLines_eq_ok_iff, Rule.ofLines_eq_ok_iff_readInto]
  simp only [eq_comm]

private theorem ofLines_eq_error_iff {lines : List String} {e : GrammarError} :
    ofLines lines = .error e ↔ (lines = [] ∧ e = .emptyGrammar) ∨
      ∃ before line after parts, lines = before ++ line :: after ∧ ReadInto before parts ∧
        LineFault (parts.map Prod.fst) line e := by
  rw [← Rule.ofLines_eq_error_iff, ofLines]
  cases lines with
  | nil =>
    have hnone : Rule.ofLines [] ≠ .error e := fun h => by cases h
    simp [hnone, eq_comm]
  | cons line lines => cases Rule.ofLines (line :: lines) <;> simp [Functor.map, Except.map]

/-- **Exactly the well-formed lines are a grammar.** For all lines that may be given:

* a grammar is read exactly if there is a line, every line holds `::=` at exactly one place with
  something in front of it, and the texts in front of these places differ. It has one rule for each
  line, in their order: the text in front of `::=`, as it stands, is the symbol, and the text behind
  it writes the alternatives;
* an error is reported in all other cases: that the grammar is empty, if no lines are given or none
  is among them; or else the fault of the first line that is not well-formed or has the symbol of a
  line in front of it. -/
theorem ofGivenLines_eq_iff (given : Option (List String)) :
    (∀ g, ofGivenLines given = .ok g ↔ ∃ lines parts, given = some lines ∧ lines ≠ [] ∧
        ReadInto lines parts ∧ g.rules = parts.map Rule.ofParts) ∧
      (∀ e, ofGivenLines given = .error e ↔
        ((given = none ∨ given = some []) ∧ e = .emptyGrammar) ∨
          ∃ before line after parts, given = some (before ++ line :: after) ∧
            ReadInto before parts ∧ LineFault (parts.map Prod.fst) line e) ∧
      GrammarError.emptyGrammar.message = "empty grammar" := by
  refine ⟨fun g => ?_, fun e => ?_, rfl⟩
  · rw [ofGivenLines, ofLines_eq_ok_iff_readInto]
    cases given with
    | none => simp
    | some lines => simp
  · rw [ofGivenLines, ofLines_eq_error_iff]
    cases given with
    | none => simp
    | some lines => simp

/-- The first line at fault is told of, and what is wrong with it by itself before its symbol. -/
example : ofGivenLines (some ["s::=a", "s::=b::=c", "::=d", "s::=e"]) =
    .error (.expectedOneSeparator "s::=b::=c") := by
  decide +kernel

end Grammar

end SentenceGen
