import SentenceGen.Text.Blank

/-!
# Cutting a text into pieces

`cut p s` is the list of pieces of `s` between the characters that satisfy `p`. There is one piece
more than there are such characters, so a cut is never empty and adjacent separators leave an empty
piece between them. The **words** of a text are the pieces between blanks that are not empty.
-/

namespace SentenceGen.Text

/-- The pieces of a text between the characters that satisfy `p`. -/
def cut (p : Char → Bool) : List Char → List (List Char)
  | [] => [[]]
  | c :: cs =>
    if p c then [] :: cut p cs
    else match cut p cs with
      | [] => [[c]]
      | w :: ws => (c :: w) :: ws

theorem cut_ne_nil (p : Char → Bool) (s : List Char) : cut p s ≠ [] := by
  cases s with
  | nil => simp [cut]
  | cons c cs =>
    by_cases h : p c
    · simp [cut, h]
    · simp only [cut, h]
      cases cut p cs <;> simp

@[simp] theorem cut_nil (p : Char → Bool) : cut p [] = [[]] := rfl

theorem cut_cons_of_pos {p : Char → Bool} {c : Char} (h : p c = true) (s : List Char) :
    cut p (c :: s) = [] :: cut p s := by
  simp [cut, h]

/-- The words of a text: its pieces between blanks that are not empty. -/
def words (s : List Char) : List (List Char) :=
  (cut isBlank s).filter (!·.isEmpty)

/-- No word is empty. -/
theorem ne_nil_of_mem_words {s w : List Char} (h : w ∈ words s) : w ≠ [] := by
  simp only [words, List.mem_filter, Bool.not_eq_true', List.isEmpty_eq_false_iff] at h
  exact h.2

end SentenceGen.Text
