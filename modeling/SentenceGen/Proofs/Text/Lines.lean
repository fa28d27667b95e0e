import Mathlib.Data.List.Basic
import SentenceGen.Proofs.Text.Pieces
import SentenceGen.Text.Lines

/-!
# Lines of a text

A text is cut into lines at eleven terminators, of which `\r\n` is the only one of two characters
(`lineTerminators`). The trimmed lines of a text that are not blank do not depend on where it was
cut already (`trimmedLines_append`), nor on the spelling of line ends
(`trimmedLines_unifyLineEnds`, `trimmedLines_respellFrom`), and lines of the form that they have
(`IsLine`) come back from any text that they are joined to.
-/

namespace SentenceGen.Text

/-- The terminators of a line of a grammar text. -/
def lineTerminators : List String :=
  ["\n", "\r\n", "\r", "\x0b", "\x0c", "\x1c", "\x1d", "\x1e", "\u0085", "\u2028", "\u2029"]

/-- A terminator is one character that ends a line, or `\r\n`. -/
theorem eq_of_mem_lineTerminators {nl : String} (h : nl ∈ lineTerminators) :
    (∃ c, isLineEnd c = true ∧ nl.toList = [c]) ∨ nl.toList = ['\r', '\n'] := by
  simp only [lineTerminators, List.mem_cons, List.not_mem_nil, or_false] at h
  rcases h with rfl | rfl | rfl | rfl | rfl | rfl | rfl | rfl | rfl | rfl | rfl
  case inr.inl => exact Or.inr rfl
  all_goals exact Or.inl ⟨_, by decide, rfl⟩

/-- No line ends in a word, since every line end is blank. -/
theorem IsWord.isLineEnd_eq_false {w : List Char} (h : IsWord w) :
    ∀ c ∈ w, isLineEnd c = false := by
  intro c hc
  have hsolid := h.solid c hc
  rw [Bool.eq_false_iff] at hsolid ⊢
  exact fun hend => hsolid (isBlank_of_isLineEnd hend)

/-! ### Cutting a text into lines -/

variable {s t : List Char}

theorem trimmedLines_append_cons {c : Char} (hc : isLineEnd c = true) (s t : List Char) :
    trimmedLines (s ++ c :: t) = trimmedLines s ++ trimmedLines t := by
  rw [trimmedLines, cut_append_cons hc, List.map_append, List.filter_append]
  rfl

@[simp] theorem trimmedLines_nil : trimmedLines [] = [] :=
  rfl

/-- A line end at the start of a text ends an empty line. -/
theorem trimmedLines_cons {c : Char} (hc : isLineEnd c = true) (t : List Char) :
    trimmedLines (c :: t) = trimmedLines t :=
  trimmedLines_append_cons hc [] t

/-- **The lines of a text fall into those in front of a terminator and those behind it.** -/
theorem trimmedLines_append {nl : String} (hnl : nl ∈ lineTerminators) (s t : List Char) :
    trimmedLines (s ++ (nl.toList ++ t)) = trimmedLines s ++ trimmedLines t := by
  rcases eq_of_mem_lineTerminators hnl with ⟨c, hc, heq⟩ | heq
  · rw [heq, List.singleton_append, trimmedLines_append_cons hc]
  · rw [heq, List.cons_append, List.singleton_append, trimmedLines_append_cons (by decide),
      trimmedLines_cons (by decide)]

/-- The spelling of line ends does not matter, whatever stands in front of them. -/
private theorem trimmedLines_append_unifyLineEnds (s t : List Char) :
    trimmedLines (s ++ unifyLineEnds t) = trimmedLines (s ++ t) := by
  fun_induction unifyLineEnds t generalizing s with
  | case1 => rfl
  | case2 cs ih =>
    -- between the two characters of `\r\n` there is an empty line, which is dropped
    have hrest := ih []
    rw [List.nil_append, List.nil_append] at hrest
    rw [trimmedLines_append_cons (by decide), trimmedLines_append_cons (by decide),
      trimmedLines_cons (by decide), hrest]
  | case3 cs _ ih =>
    have hrest := ih []
    rw [List.nil_append, List.nil_append] at hrest
    rw [trimmedLines_append_cons (by decide), trimmedLines_append_cons (by decide), hrest]
  | case4 c cs _ _ ih =>
    rw [List.append_cons, ih, ← List.append_cons]

/-- **The lines of a text do not depend on the spelling of its line ends.** -/
theorem trimmedLines_unifyLineEnds (s : List Char) :
    trimmedLines (unifyLineEnds s) = trimmedLines s :=
  trimmedLines_append_unifyLineEnds [] s

/-- The text in which its terminators are written anew, the one with the number `i` as `spelling i`.
They are numbered from `n` on, and a `\r\n` is one of them. -/
def respellFrom (spelling : Nat → String) : (n : Nat) → List Char → List Char
  | _, [] => []
  | n, '\r' :: '\n' :: cs => (spelling n).toList ++ respellFrom spelling (n + 1) cs
  | n, c :: cs =>
    if isLineEnd c then (spelling n).toList ++ respellFrom spelling (n + 1) cs
    else c :: respellFrom spelling n cs

/-- The string in which the terminator with the number `i` is written as `spelling i`. -/
def respell (spelling : Nat → String) (text : String) : String :=
  String.ofList (respellFrom spelling 0 text.toList)

private theorem trimmedLines_append_respellFrom {spelling : Nat → String}
    (h : ∀ n, spelling n ∈ lineTerminators) (n : Nat) (s t : List Char) :
    trimmedLines (s ++ respellFrom spelling n t) = trimmedLines (s ++ t) := by
  fun_induction respellFrom spelling n t generalizing s with
  | case1 => rfl
  | case2 n cs ih =>
    rw [trimmedLines_append (h n), trimmedLines_append_cons (by decide),
      trimmedLines_cons (by decide)]
    exact congrArg (trimmedLines s ++ ·) (ih [])
  | case3 n c cs _ hc ih =>
    rw [trimmedLines_append (h n), trimmedLines_append_cons hc]
    exact congrArg (trimmedLines s ++ ·) (ih [])
  | case4 n c cs _ _ ih =>
    rw [List.append_cons, ih, ← List.append_cons]

/-- **The lines of a text do not depend on what its terminators are**, even where a new one and the
character behind it are one terminator together. -/
theorem trimmedLines_respellFrom {spelling : Nat → String} (h : ∀ n, spelling n ∈ lineTerminators)
    (n : Nat) (s : List Char) : trimmedLines (respellFrom spelling n s) = trimmedLines s :=
  trimmedLines_append_respellFrom h n [] s

/-- The third terminator is the `\r` behind `\n`, and `\x1f` is none. -/
example : respell (["\n", "\r\n", "\u2028"].getD · "\n") "a\r\nb\n\rc\x1f" =
    "a\nb\r\n\u2028c\x1f" := by
  decide +kernel

/-! ### The form of a line -/

/-- A line as it is left over when a text was cut into lines: neither empty nor padded, and without
line ends. -/
structure IsLine (s : List Char) : Prop where
  ne_nil : s ≠ []
  trimmed : IsTrimmed s
  no_end : ∀ c ∈ s, isLineEnd c = false

theorem isLine_of_mem_trimmedLines (h : s ∈ trimmedLines t) : IsLine s := by
  obtain ⟨hmem, hne⟩ := List.mem_filter.mp h
  obtain ⟨piece, hpiece, rfl⟩ := List.mem_map.mp hmem
  refine ⟨by simpa using hne, isTrimmed_trim piece, fun c hc => ?_⟩
  exact not_of_mem_cut hpiece ((trim_isInfix piece).subset hc)

theorem IsLine.trimmedLines_eq (h : IsLine s) : trimmedLines s = [s] := by
  rw [trimmedLines, cut_eq_singleton h.no_end, List.map_singleton, trim_eq_self_iff.mpr h.trimmed]
  simp [h.ne_nil]

/-- **Lines that are joined by a terminator come back**, however many there are. -/
theorem trimmedLines_intercalate {nl : String} (hnl : nl ∈ lineTerminators)
    {ls : List (List Char)} (h : ∀ l ∈ ls, IsLine l) :
    trimmedLines (nl.toList.intercalate ls) = ls := by
  induction ls with
  | nil => rfl
  | cons l ls ih =>
    have hl := (h l List.mem_cons_self).trimmedLines_eq
    by_cases hne : ls = []
    · rw [hne, List.intercalate_singleton, hl]
    · rw [List.intercalate_cons_of_ne_nil hne, List.append_assoc, trimmedLines_append hnl, hl,
        ih fun l hl => h l (List.mem_cons_of_mem _ hl), List.singleton_append]

/-! ### Lines that are typed -/

/-- A text that can be typed as one line. -/
structure IsTyped (l : String) : Prop where
  no_newline : '\n' ∉ l.toList
  no_return : '\r' ∉ l.toList

/-- No line that was typed holds a line feed. -/
theorem newline_not_mem_of_mem_typedLines {input l : String} (h : l ∈ typedLines input) :
    '\n' ∉ l.toList := by
  obtain ⟨piece, hpiece, rfl⟩ := List.mem_map.mp h
  intro hc
  rw [String.toList_ofList] at hc
  exact absurd (not_of_mem_cut hpiece hc) (by decide)

theorem unifyLineEnds_eq_self (h : '\r' ∉ s) : unifyLineEnds s = s := by
  fun_induction unifyLineEnds s with
  | case1 => rfl
  | case2 => simp at h
  | case3 => simp at h
  | case4 c cs _ _ ih => rw [ih fun hcs => h (List.mem_cons_of_mem c hcs)]

end SentenceGen.Text
