import SentenceGen.Proofs.Grammar.RuleLine
import SentenceGen.Proofs.Text.Gaps

/-!
# Alternatives and the texts that write them

The right-hand side of a rule is a text, cut into alternatives at its bars and these into tokens at
their blanks. Two questions about this are answered here.

* **Which alternatives can be written?** Those that are `Writable`: there is one, and every token is
  a word without bars. No others come out of a text, and no others are read back from their text
  (`alternativesOf_alternativesText_iff`).
* **Which texts write the same alternatives?** A bar between two texts puts their alternatives one
  behind the other, and blanks matter only inside of a token: put in anywhere else they change
  nothing (`alternativesOf_layout`). The end of a text where no token is cut in two is **loose**
  (`EndsLoose`, `StartsLoose`).
-/

namespace SentenceGen

/-! ### What can be written -/

/-- Alternatives that a text can write: there is one, and every token is a word without bars. -/
structure Writable (alternatives : List Alternative) : Prop where
  ne_nil : alternatives ≠ []
  isWord : ∀ tokens ∈ alternatives, ∀ token ∈ tokens, Text.IsWord token.toList
  no_bar : ∀ tokens ∈ alternatives, ∀ token ∈ tokens, '|' ∉ token.toList

/-- What a text writes can be written. -/
theorem writable_alternativesOf (text : String) : Writable (alternativesOf text) where
  ne_nil := alternativesOf_ne_nil text
  isWord _ htokens _ htoken := (of_mem_alternativesOf htokens htoken).1
  no_bar _ htokens _ htoken := (of_mem_alternativesOf htokens htoken).2.1

theorem Writable.alternativesOf_alternativesText {alternatives : List Alternative}
    (h : Writable alternatives) : alternativesOf (alternativesText alternatives) = alternatives :=
  SentenceGen.alternativesOf_alternativesText h.ne_nil fun tokens htokens token htoken =>
    ⟨h.isWord tokens htokens token htoken, h.no_bar tokens htokens token htoken⟩

/-- **Reading and writing alternatives are inverse exactly where alternatives can be written.**

* Alternatives are read back from their text iff there is one and none of their tokens is empty or
  holds a blank or a bar;
* all alternatives that are read from a text are such ones;
* so a text and the one that is written from its alternatives have the same alternatives, and what
  is written is written again when it is read. -/
theorem alternativesOf_alternativesText_iff :
    (∀ alternatives, alternativesOf (alternativesText alternatives) = alternatives ↔
        Writable alternatives) ∧
      (∀ text, Writable (alternativesOf text)) ∧
      ∀ text, alternativesOf (alternativesText (alternativesOf text)) = alternativesOf text ∧
        alternativesText (alternativesOf (alternativesText (alternativesOf text))) =
          alternativesText (alternativesOf text) := by
  refine ⟨fun alternatives => ⟨fun h => ?_, Writable.alternativesOf_alternativesText⟩,
    writable_alternativesOf, fun text => ?_⟩
  · rw [← h]
    exact writable_alternativesOf _
  · have hback := (writable_alternativesOf text).alternativesOf_alternativesText
    exact ⟨hback, congrArg alternativesText hback⟩

/-- A token that is empty or holds a blank, and no alternative at all, are lost in the text. -/
example : alternativesOf (alternativesText [["a", ""], ["b\u2003c"]]) = [["a"], ["b", "c"]] ∧
    alternativesOf (alternativesText []) = [[]] := by
  decide +kernel

/-! ### Layout -/

/-- No token goes on behind the text: it is empty or ends in a blank or a bar. -/
def EndsLoose (text : String) : Prop :=
  ∀ c ∈ text.toList.getLast?, Text.isBlank c = true ∨ c = '|'

/-- No token goes on in front of the text: it is empty or starts with a blank or a bar. -/
def StartsLoose (text : String) : Prop :=
  ∀ c ∈ text.toList.head?, Text.isBlank c = true ∨ c = '|'

/-- Bars go between alternatives. -/
theorem alternativesOf_append_bar (a b : String) :
    alternativesOf (a ++ "|" ++ b) = alternativesOf a ++ alternativesOf b := by
  have htext : (a ++ "|" ++ b).toList = a.toList ++ '|' :: b.toList := by simp
  rw [alternativesOf, htext, Text.cut_append_cons (by decide), List.map_append]
  rfl

/-- Where the piece at the end of a text is loose, the text is, and the same holds of its start: the
character at the end is that of the piece, or a bar if the piece is empty. -/
private theorem forall_isBlank_iff {piece rest : Option Char} (hpiece : ∀ c ∈ piece, c ≠ '|')
    (hrest : ∀ c ∈ rest, c = '|') :
    (∀ c ∈ piece, Text.isBlank c = true) ↔
      ∀ c ∈ piece.or rest, Text.isBlank c = true ∨ c = '|' := by
  cases piece with
  | none => simpa using fun c hc => Or.inr (hrest c hc)
  | some c => simp [hpiece c rfl]

/-- Blanks put into a text matter only inside of a token. -/
theorem alternativesOf_append_blanks_iff {a b w : String}
    (hw : ∀ c ∈ w.toList, Text.isBlank c = true) :
    alternativesOf (a ++ w ++ b) = alternativesOf (a ++ b) ↔
      w = "" ∨ EndsLoose a ∨ StartsLoose b := by
  obtain ⟨front, u, v, back, ⟨ha, hfront, hu⟩, ⟨hb, hv, hback⟩, before, after, hcut⟩ :=
    Text.exists_cut_append (· == '|') a.toList b.toList
  simp only [beq_iff_eq, beq_eq_false_iff_ne] at hfront hback hu hv
  have hends : Text.EndsBlank u ↔ EndsLoose a := by
    rw [EndsLoose, ha, List.getLast?_append]
    exact forall_isBlank_iff (fun c hc => hu c (List.mem_of_getLast? hc)) hfront
  have hstarts : Text.StartsBlank v ↔ StartsLoose b := by
    rw [StartsLoose, hb, List.head?_append]
    exact forall_isBlank_iff (fun c hc => hv c (List.mem_of_head? hc)) hback
  have hbar : ∀ c ∈ w.toList, (c == '|') = false := by
    intro c hc
    rw [beq_eq_false_iff_ne]
    rintro rfl
    exact absurd (hw _ hc) (by decide)
  have hwith : (a ++ w ++ b).toList = a.toList ++ (w.toList ++ b.toList) := by simp
  have hwithout : (a ++ b).toList = a.toList ++ ([] ++ b.toList) := by simp
  have hinj : Function.Injective (List.map String.ofList) :=
    List.map_injective_iff.mpr fun _ _ => String.ofList_inj.mp
  -- only the piece in which the blanks are differs
  rw [alternativesOf, alternativesOf, hwith, hwithout, hcut _ hbar, hcut _ (by simp),
    List.map_append, List.map_append, List.append_cancel_left_eq, List.map_cons, List.map_cons,
    List.cons_eq_cons, and_iff_left rfl, hinj.eq_iff, List.nil_append,
    Text.words_append_blanks_eq_iff hw, hends, hstarts, String.toList_eq_nil_iff]

/-- **The layout of a right-hand side does not matter.** A text with a bar in it writes the
alternatives of the part in front of the bar, followed by those of the part behind it. Blanks can be
put into a text without changing its alternatives wherever the part in front of them is empty or
ends in a blank or a bar, or the part behind them is empty or starts with a blank or a bar, and
nowhere else. -/
theorem alternativesOf_layout (a b : String) :
    alternativesOf (a ++ "|" ++ b) = alternativesOf a ++ alternativesOf b ∧
      ∀ w : String, (∀ c ∈ w.toList, Text.isBlank c = true) →
        (alternativesOf (a ++ w ++ b) = alternativesOf (a ++ b) ↔
          w = "" ∨ EndsLoose a ∨ StartsLoose b) :=
  ⟨alternativesOf_append_bar a b, fun _ hw => alternativesOf_append_blanks_iff hw⟩

/-- An em space and a unit separator between a token and a bar change nothing. -/
theorem alternativesOf_layout_em_space :
    alternativesOf ("<a>|<b> <c>" ++ "|" ++ "| d\t") =
        alternativesOf "<a>|<b> <c>" ++ alternativesOf "| d\t" ∧
      (∀ c ∈ "\u2003\x1f".toList, Text.isBlank c = true) ∧ StartsLoose "| d\t" ∧
      alternativesOf ("<a>|<b> <c>" ++ "\u2003\x1f" ++ "| d\t") =
        alternativesOf ("<a>|<b> <c>" ++ "| d\t") := by
  have hw : ∀ c ∈ "\u2003\x1f".toList, Text.isBlank c = true := by
    simp [Text.isBlank]
  have hstarts : StartsLoose "| d\t" := by simp [StartsLoose]
  obtain ⟨hbar, hblanks⟩ := alternativesOf_layout "<a>|<b> <c>" "| d\t"
  exact ⟨hbar, hw, hstarts, (hblanks _ hw).mpr (Or.inr (Or.inr hstarts))⟩

end SentenceGen
