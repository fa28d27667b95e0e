import SentenceGen.Grammar.Load
import SentenceGen.Proofs.Grammar.WellFormed
import SentenceGen.Proofs.Results
import SentenceGen.Proofs.Text.Lines
import SentenceGen.Proofs.Text.Utf8

/-!
# Saving a grammar and loading it again

A grammar from a text knows more about its symbols than one from a list of lines: they were cut out
of trimmed lines, so none starts with a blank or holds a line end. Therefore its own lines, one
below the other in a text, are found again by cutting the text into lines and trimming these
(`isLine_line`): no line is cut in two, and no blank of a line is trimmed away. Both depend on every
line end being blank, and on no blank standing at the end of a line that a rule writes.

Reading the text from the bytes of a file changes nothing about it (`Grammar.ofBytes_encode`).
-/

namespace SentenceGen

/-! ### The rules of a text -/

theorem isLine_of_mem_ruleLines {text line : String} (h : line ∈ ruleLines text) :
    Text.IsLine line.toList := by
  obtain ⟨l, hl, rfl⟩ := List.mem_map.mp h
  rw [String.toList_ofList]
  exact Text.isLine_of_mem_trimmedLines hl

/-- The symbol of a rule that a trimmed line writes starts the line and is a part of it. -/
theorem Rule.symbol_of_ofLine {line : String} {r : Rule} (h : Rule.ofLine line = .ok r)
    (hline : Text.IsLine line.toList) :
    Text.StartsSolid r.symbol.toList ∧ ∀ c ∈ r.symbol.toList, Text.isLineEnd c = false := by
  obtain ⟨expansions, hsplit, -⟩ := Rule.ofLine_eq_ok_iff.mp h
  obtain ⟨rfl, -⟩ := splitRule_eq_ok_iff.mp hsplit
  have hstart : r.symbol.toList <+: (r.symbol ++ "::=" ++ expansions).toList :=
    ⟨"::=".toList ++ expansions.toList, by simp⟩
  exact ⟨hline.trimmed.starts.of_isPrefix hstart, fun c hc => hline.no_end c (hstart.subset hc)⟩

/-! ### What alternatives look like at their end -/

private theorem isWord_of_mem_map {tokens : Alternative} (h : ∀ token ∈ tokens, IsToken token) :
    ∀ w ∈ tokens.map String.toList, Text.IsWord w := by
  exact List.forall_mem_map.mpr fun token htoken => (h token htoken).isWord

theorem endsSolid_alternativesText {alternatives : List Alternative}
    (h : ∀ tokens ∈ alternatives, ∀ token ∈ tokens, IsToken token) :
    Text.EndsSolid (alternativesText alternatives).toList := by
  rw [toList_alternativesText]
  refine Text.endsSolid_intercalate_of_solid (by decide) fun piece hpiece => ?_
  obtain ⟨tokens, htokens, rfl⟩ := List.mem_map.mp hpiece
  have hwords := isWord_of_mem_map (h tokens htokens)
  exact (Text.isTrimmed_intercalate fun w hw => (hwords w hw).isPhrase).ends

theorem isLineEnd_of_mem_alternativesText {alternatives : List Alternative}
    (h : ∀ tokens ∈ alternatives, ∀ token ∈ tokens, IsToken token) {c : Char}
    (hc : c ∈ (alternativesText alternatives).toList) : Text.isLineEnd c = false := by
  rw [toList_alternativesText] at hc
  rcases Text.mem_of_mem_intercalate hc with hbar | ⟨piece, hpiece, hc⟩
  · obtain rfl := List.mem_singleton.mp hbar
    decide
  · obtain ⟨tokens, htokens, rfl⟩ := List.mem_map.mp hpiece
    rcases Text.mem_of_mem_intercalate hc with hspace | ⟨w, hw, hc⟩
    · obtain rfl := List.mem_singleton.mp hspace
      decide
    · exact (isWord_of_mem_map (h tokens htokens) w hw).isLineEnd_eq_false c hc

/-! ### The lines of a grammar in a text -/

/-- **The line of a rule from a text is a line of a text.** -/
theorem Rule.isLine_line {line : String} {r : Rule} (h : Rule.ofLine line = .ok r)
    (hline : Text.IsLine line.toList) : Text.IsLine r.line.toList := by
  have hr := Rule.wellFormed_of_ofLine h
  obtain ⟨hstarts, hsymbol⟩ := Rule.symbol_of_ofLine h hline
  have hne : r.symbol.toList ≠ [] := by
    simpa using hr.symbol_ne_empty
  have heq : r.line.toList =
      r.symbol.toList ++ (separator ++ (alternativesText r.alternatives).toList) := by
    simp [Rule.line]
  rw [heq]
  refine ⟨by simp [hne], ⟨hstarts.append_left hne _, ?_⟩, fun c hc => ?_⟩
  · -- behind the separator there may be nothing, when the last alternative is empty
    have hseparator : Text.EndsSolid separator := by
      simp [Text.EndsSolid, Text.isBlank]
    exact (hseparator.append (endsSolid_alternativesText hr.isToken)).append_right (by simp) _
  · rcases List.mem_append.mp hc with hc | hc
    · exact hsymbol c hc
    · rcases List.mem_append.mp hc with hc | hc
      · simp only [List.mem_cons, List.not_mem_nil, or_false] at hc
        rcases hc with rfl | rfl | rfl <;> decide
      · exact isLineEnd_of_mem_alternativesText hr.isToken hc

namespace Grammar

theorem isLine_of_mem_lines {text : String} {g : Grammar} (h : ofText text = .ok g) :
    ∀ line ∈ g.lines, Text.IsLine line.toList := by
  obtain ⟨-, hall, -⟩ := ofLines_eq_ok_iff.mp h
  have hlines : ∀ line ∈ ruleLines text, Text.IsLine line.toList :=
    fun _ => isLine_of_mem_ruleLines
  rw [lines]
  generalize ruleLines text = ls at hall hlines
  generalize g.rules = rules at hall ⊢
  -- line by line, each with the rule that it writes
  induction hall with
  | nil => simp
  | cons hr _ ih =>
    rw [List.map_cons, List.forall_mem_cons]
    rw [List.forall_mem_cons] at hlines
    exact ⟨Rule.isLine_line hr hlines.1, ih hlines.2⟩

/-- A symbol of a grammar from a text stands at the start of a line of a text. -/
theorem exists_line_of_defines {text : String} {g : Grammar} (h : ofText text = .ok g)
    {symbol : String} (hsymbol : g.defines symbol = true) :
    ∃ line : List Char, Text.IsLine line ∧ symbol.toList <+: line := by
  obtain ⟨r, hr, rfl⟩ := List.mem_map.mp (defines_iff_mem_symbols.mp hsymbol)
  have hline := isLine_of_mem_lines h r.line (List.mem_map_of_mem hr)
  refine ⟨r.line.toList, hline, separator ++ (alternativesText r.alternatives).toList, ?_⟩
  simp [Rule.line]

/-- No symbol of a grammar from a text starts with a blank. -/
theorem startsSolid_of_defines {text : String} {g : Grammar} (h : ofText text = .ok g)
    {symbol : String} (hsymbol : g.defines symbol = true) : Text.StartsSolid symbol.toList := by
  obtain ⟨line, hline, hprefix⟩ := exists_line_of_defines h hsymbol
  exact hline.trimmed.starts.of_isPrefix hprefix

/-- No symbol of a grammar from a text holds a line end. -/
theorem isLineEnd_of_defines {text : String} {g : Grammar} (h : ofText text = .ok g)
    {symbol : String} (hsymbol : g.defines symbol = true) :
    ∀ c ∈ symbol.toList, Text.isLineEnd c = false := by
  obtain ⟨line, hline, hprefix⟩ := exists_line_of_defines h hsymbol
  exact fun c hc => hline.no_end c (List.IsPrefix.subset hprefix hc)

/-- Nor does the listing of its symbols. -/
theorem isLineEnd_of_mem_listing {text : String} {g : Grammar} (h : ofText text = .ok g) {c : Char}
    (hc : c ∈ g.listing.toList) : Text.isLineEnd c = false := by
  have hframe : ∀ text ∈ ["[", ", ", "]"], text.toList.any Text.isLineEnd = false := by
    decide
  have hfree {text : String} (htext : text ∈ ["[", ", ", "]"]) (hmem : c ∈ text.toList) :
      Text.isLineEnd c = false :=
    Bool.eq_false_iff.mpr (List.any_eq_false.mp (hframe text htext) c hmem)
  rw [listing, symbolListing, String.toList_append, String.toList_append, List.mem_append,
    List.mem_append, String.toList_intercalate] at hc
  rcases hc with (hopen | hbetween) | hclose
  · exact hfree (by decide : "[" ∈ _) hopen
  · rcases Text.mem_of_mem_intercalate hbetween with hcomma | ⟨symbol, hsymbol, hmem⟩
    · exact hfree (by decide : ", " ∈ _) hcomma
    · obtain ⟨symbol, hsorted, rfl⟩ := List.mem_map.mp hsymbol
      have hdefined := defines_iff_mem_symbols.mpr (List.mem_mergeSort.mp hsorted)
      exact isLineEnd_of_defines h hdefined c hmem
  · exact hfree (by decide : "]" ∈ _) hclose

/-- Lines that are joined by a terminator, with or without one at the end, are read back. -/
theorem ruleLines_intercalate {nl : String} (hnl : nl ∈ Text.lineTerminators) {ls : List String}
    (h : ∀ l ∈ ls, Text.IsLine l.toList) {final : String} (hfinal : final ∈ ["", nl]) :
    ruleLines (nl.intercalate ls ++ final) = ls := by
  have hls : ∀ l ∈ ls.map String.toList, Text.IsLine l := List.forall_mem_map.mpr h
  have hjoin := Text.trimmedLines_intercalate hnl hls
  have htrimmed : Text.trimmedLines (nl.intercalate ls ++ final).toList = ls.map String.toList := by
    rw [String.toList_append, String.toList_intercalate]
    rcases List.mem_pair.mp hfinal with rfl | rfl
    · rw [String.toList_empty, List.append_nil, hjoin]
    · have := Text.trimmedLines_append hnl (final.toList.intercalate (ls.map String.toList)) []
      rw [List.append_nil] at this
      rw [this, hjoin, Text.trimmedLines_nil, List.append_nil]
  rw [ruleLines, htrimmed, List.map_map]
  simp [Function.comp_def]

/-! ### Files -/

/-- **A text is loaded from the bytes that write it** as it stands. -/
theorem ofBytes_encode (text : String) :
    ofBytes (Text.Utf8.encode text.toList) = (ofText text).mapError .malformed := by
  have hsame : ofText (String.ofList (Text.unifyLineEnds text.toList)) = ofText text := by
    rw [ofText, ruleLines, String.toList_ofList, Text.trimmedLines_unifyLineEnds, ← ruleLines,
      ← ofText]
  have htext : textOfBytes (Text.Utf8.encode text.toList) =
      .ok (String.ofList (Text.unifyLineEnds text.toList)) := by
    rw [textOfBytes, Text.Utf8.decode_encode, Except.map]
  rw [ofBytes, htext, ← hsame]
  simp only [Except.mapError, bind, Except.bind]

/-- **A grammar that was loaded is the grammar of a text.** -/
theorem exists_ofText_of_load {store : Store} {path : String} {g : Grammar}
    (h : load store path = .ok g) : ∃ text, ofText text = .ok g := by
  rw [load] at h
  split at h
  · cases h
  · obtain ⟨bytes, -, hbytes⟩ := exists_of_bind_eq_ok h
    obtain ⟨text, -, htext⟩ := exists_of_bind_eq_ok hbytes
    exact ⟨text, eq_ok_of_mapError htext⟩

theorem wellFormed_of_load {store : Store} {path : String} {g : Grammar}
    (h : load store path = .ok g) : g.WellFormed := by
  obtain ⟨text, htext⟩ := exists_ofText_of_load h
  exact wellFormed_of_ofLines htext

/-- **A grammar that was loaded, saved and loaded again is the same.** For every text that is read
as a grammar and every line terminator: the lines of the grammar, joined by the terminator and with
or without a last one, are read back as exactly these lines, so as the same rules in the same order;
and so they are from the bytes of a file. -/
theorem reload_lines {text : String} {g : Grammar} (h : ofText text = .ok g) {nl : String}
    (hnl : nl ∈ Text.lineTerminators) :
    ∀ final ∈ ["", nl],
      ruleLines (nl.intercalate g.lines ++ final) = g.lines ∧
        ofText (nl.intercalate g.lines ++ final) = .ok g ∧
        ofBytes (Text.Utf8.encode (nl.intercalate g.lines ++ final).toList) = .ok g := by
  intro final hfinal
  have hlines := ruleLines_intercalate hnl (isLine_of_mem_lines h) hfinal
  have htext : ofText (nl.intercalate g.lines ++ final) = .ok g := by
    rw [ofText, hlines]
    exact ofLines_lines (wellFormed_of_ofLines h)
  refine ⟨hlines, htext, ?_⟩
  rw [ofBytes_encode, htext, Except.mapError]

/-- Padded lines with `\r\n` between them, saved with a line separator at the end. The unit
separator U+001F is blank and ends no line. -/
theorem reload_lines_padded :
    ∃ g : Grammar,
      ofText "  a ::=b |\x1fc \r\n\n\x1f<x>::=a\u0085" = .ok g ∧
        g.lines = ["a ::=b|c", "<x>::=a"] ∧ "\u2028" ∈ Text.lineTerminators ∧
        ruleLines ("\u2028".intercalate g.lines ++ "\u2028") = g.lines ∧
        ofText ("\u2028".intercalate g.lines ++ "\u2028") = .ok g ∧
        ofBytes (Text.Utf8.encode ("\u2028".intercalate g.lines ++ "\u2028").toList) = .ok g := by
  have hg : ofText "  a ::=b |\x1fc \r\n\n\x1f<x>::=a\u0085" =
      .ok ⟨[⟨"a ", [["b"], ["c"]]⟩, ⟨"<x>", [["a"]]⟩]⟩ := by decide +kernel
  have hnl : "\u2028" ∈ Text.lineTerminators := by decide
  exact ⟨_, hg, by decide +kernel, hnl, reload_lines hg hnl "\u2028" (by decide)⟩

end Grammar

end SentenceGen
