import SentenceGen.Proofs.Grammar.Reload

/-!
# The rule lines of a text

A text has lines, of which a `\r\n` ends only one (`Text.splitLines`). Where a text is joined from
two others, this depends on what stands at the seam: a `\r` at the end of the first one and a `\n`
behind it end one line together. But what is more or less then are blank lines, and these are no
rule lines (`Text.trimmedLines_eq_splitLines`). So the rule lines of two texts with a terminator
between them are those of the one and then those of the other, and rule lines that are joined by a
terminator come back (`ruleLines_homomorphism`).
-/

namespace SentenceGen

namespace Text

/-! ### Lines as they stand -/

/-- The lines of a text without their terminators, of which `\r\n` is one. Behind the last
terminator there is a line only if something stands there. -/
def splitLines : List Char → List (List Char)
  | [] => []
  | '\r' :: '\n' :: cs => [] :: splitLines cs
  | c :: cs =>
    if isLineEnd c then [] :: splitLines cs
    else match splitLines cs with
      | [] => [[c]]
      | l :: ls => (c :: l) :: ls

/-- The lines that are not blank, trimmed. -/
def trimmedOf (ls : List (List Char)) : List (List Char) :=
  (ls.map trim).filter (!·.isEmpty)

/-- An empty line is blank. -/
private theorem trimmedOf_cons_nil (ls : List (List Char)) : trimmedOf ([] :: ls) = trimmedOf ls :=
  rfl

private theorem trimmedOf_cons_congr {ls ls' : List (List Char)} (h : trimmedOf ls = trimmedOf ls')
    (l : List Char) : trimmedOf (l :: ls) = trimmedOf (l :: ls') := by
  simp only [trimmedOf, List.map_cons, List.filter_cons] at h ⊢
  rw [h]

/-- Where there is no first line, an empty one in its place changes nothing. -/
private theorem trimmedOf_headD_cons_tail (ls : List (List Char)) :
    trimmedOf (ls.headD [] :: ls.tail) = trimmedOf ls := by
  cases ls <;> rfl

/-- The pieces between line ends start with the first line of the text, and the others differ from
the other lines in empty ones only. -/
private theorem exists_cut_eq_cons (s : List Char) :
    ∃ ps, cut isLineEnd s = (splitLines s).headD [] :: ps ∧
      trimmedOf ps = trimmedOf (splitLines s).tail := by
  fun_induction splitLines s with
  | case1 => exact ⟨[], rfl, rfl⟩
  | case2 cs ih =>
    obtain ⟨ps, hcut, hps⟩ := ih
    -- there is an empty piece between the two characters
    refine ⟨[] :: cut isLineEnd cs, ?_, ?_⟩
    · rw [cut_cons_of_pos (by decide), cut_cons_of_pos (by decide), List.headD_cons]
    · rw [trimmedOf_cons_nil, hcut, trimmedOf_cons_congr hps, trimmedOf_headD_cons_tail,
        List.tail_cons]
  | case3 c cs _ hc ih =>
    obtain ⟨ps, hcut, hps⟩ := ih
    refine ⟨cut isLineEnd cs, ?_, ?_⟩
    · rw [cut_cons_of_pos hc, List.headD_cons]
    · rw [hcut, trimmedOf_cons_congr hps, trimmedOf_headD_cons_tail, List.tail_cons]
  | case4 c cs _ hc hnone ih =>
    obtain ⟨ps, hcut, hps⟩ := ih
    rw [hnone] at hcut hps
    exact ⟨ps, by simp [cut, hc, hcut], hps⟩
  | case5 c cs _ hc l ls hlines ih =>
    obtain ⟨ps, hcut, hps⟩ := ih
    rw [hlines] at hcut hps
    exact ⟨ps, by simp [cut, hc, hcut], hps⟩

/-- **Cutting at every line end finds the lines**, as far as they are not blank. -/
theorem trimmedLines_eq_splitLines (s : List Char) : trimmedLines s = trimmedOf (splitLines s) := by
  obtain ⟨ps, hcut, hps⟩ := exists_cut_eq_cons s
  rw [trimmedLines, hcut]
  change trimmedOf (_ :: ps) = _
  rw [trimmedOf_cons_congr hps, trimmedOf_headD_cons_tail]

/-- No terminator stands in a line. -/
theorem IsLine.not_isInfix {s : List Char} (h : IsLine s) {nl : String}
    (hnl : nl ∈ lineTerminators) : ¬ nl.toList <:+: s := by
  intro hin
  obtain ⟨c, hend, hc⟩ : ∃ c, isLineEnd c = true ∧ c ∈ nl.toList := by
    rcases eq_of_mem_lineTerminators hnl with ⟨c, hend, heq⟩ | heq
    · exact ⟨c, hend, by simp [heq]⟩
    · exact ⟨'\r', by decide, by simp [heq]⟩
  rw [h.no_end c (hin.subset hc)] at hend
  cases hend

end Text

/-! ### Rule lines -/

theorem ruleLines_append {nl : String} (hnl : nl ∈ Text.lineTerminators) (a b : String) :
    ruleLines (a ++ nl ++ b) = ruleLines a ++ ruleLines b := by
  simp only [ruleLines, String.toList_append, List.append_assoc]
  rw [Text.trimmedLines_append hnl, List.map_append]

/-- **The rule lines of a text follow its lines, wherever it is cut.** For every line terminator and
all texts:

* the rule lines of two texts with the terminator between them are those of the first text and then
  those of the second one, even where the terminator and a character next to it are one terminator;
* the rule lines of a text are its lines without the blanks around them, blank lines left out;
* each of them is a text that is not empty, does not change when it is trimmed, and holds no line
  terminator;
* when they are joined by the terminator, the text has the same rule lines again. -/
theorem ruleLines_homomorphism {nl : String} (hnl : nl ∈ Text.lineTerminators) (a b : String) :
    ruleLines (a ++ nl ++ b) = ruleLines a ++ ruleLines b ∧
      ruleLines a = (Text.trimmedOf (Text.splitLines a.toList)).map String.ofList ∧
      (∀ line ∈ ruleLines a, line ≠ "" ∧ Text.trimString line = line ∧
        ∀ terminator ∈ Text.lineTerminators, ¬ terminator.toList <:+: line.toList) ∧
      ruleLines (nl.intercalate (ruleLines a)) = ruleLines a := by
  have hlines : ∀ line ∈ ruleLines a, Text.IsLine line.toList := fun _ => isLine_of_mem_ruleLines
  refine ⟨ruleLines_append hnl a b, ?_, fun line hline => ?_, ?_⟩
  · rw [ruleLines, Text.trimmedLines_eq_splitLines]
  · have h := hlines line hline
    exact ⟨by simpa using h.ne_nil, Text.trimString_eq_self_iff.mpr h.trimmed,
      fun _ => h.not_isInfix⟩
  · have hjoined := Grammar.ruleLines_intercalate hnl hlines (List.mem_cons_self : "" ∈ ["", nl])
    rwa [String.append_empty] at hjoined

/-- The `\n` between the two texts ends a line together with the `\r` in front of it, and another
`\n` follows. The unit separator U+001F is blank and ends no line. -/
theorem ruleLines_homomorphism_seam :
    "\n" ∈ Text.lineTerminators ∧
      Text.splitLines "s::=a \r\n\n t::=\x1fb\x1f".toList =
        ["s::=a ".toList, [], " t::=\x1fb\x1f".toList] ∧
      ruleLines ("s::=a \r" ++ "\n" ++ "\n t::=\x1fb\x1f") = ["s::=a"] ++ ["t::=\x1fb"] ∧
      "t::=\x1fb" ∈ ruleLines "\n t::=\x1fb\x1f" ∧
      Text.trimString "t::=\x1fb" = "t::=\x1fb" ∧
      ruleLines ("\n".intercalate (ruleLines "\n t::=\x1fb\x1f")) = ["t::=\x1fb"] := by
  have hnl : "\n" ∈ Text.lineTerminators := by decide
  have hfirst : ruleLines "s::=a \r" = ["s::=a"] := by decide +kernel
  have hsecond : ruleLines "\n t::=\x1fb\x1f" = ["t::=\x1fb"] := by decide +kernel
  have hmem : "t::=\x1fb" ∈ ruleLines "\n t::=\x1fb\x1f" := by rw [hsecond]; decide
  obtain ⟨happend, -, -, -⟩ := ruleLines_homomorphism hnl "s::=a \r" "\n t::=\x1fb\x1f"
  obtain ⟨-, -, hlines, hagain⟩ := ruleLines_homomorphism hnl "\n t::=\x1fb\x1f" ""
  rw [hfirst, hsecond] at happend
  exact ⟨hnl, by decide +kernel, happend, hmem, (hlines _ hmem).2.1, hagain.trans hsecond⟩

end SentenceGen
