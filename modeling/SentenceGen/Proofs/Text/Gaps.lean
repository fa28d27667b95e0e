import Mathlib.Data.List.Induction
import SentenceGen.Proofs.Text.Pieces

/-!
# Gaps between pieces and between words

Where a text is put together from two parts, the last piece of the first part and the first piece of
the second part become one piece, and all other pieces stay (`exists_cut_append`).

Between two parts there is a **gap** if the first one ends in a blank or the second one starts with
one; an empty part leaves a gap as well. A gap is exactly what the words of the two parts need to
stay apart (`words_append_eq_iff`). Hence blanks that are put in between matter only where there is
no gap yet (`words_append_blanks_eq_iff`).
-/

namespace SentenceGen.Text

variable {p : Char → Bool} {s t w : List Char}

/-! ### The piece at the end and the piece at the start -/

/-- The part of a text behind its last separator. -/
theorem exists_append_last (p : Char → Bool) (s : List Char) :
    ∃ front u, s = front ++ u ∧ (∀ c ∈ front.getLast?, p c = true) ∧ ∀ c ∈ u, p c = false := by
  induction s using List.reverseRecOn with
  | nil => exact ⟨[], [], rfl, by simp, by simp⟩
  | append_singleton s c ih =>
    cases hc : p c with
    | true => exact ⟨s ++ [c], [], by simp, by simp [hc], by simp⟩
    | false =>
      obtain ⟨front, u, rfl, hfront, hu⟩ := ih
      refine ⟨front, u ++ [c], by simp, hfront, ?_⟩
      exact List.forall_mem_append.mpr ⟨hu, List.forall_mem_singleton.mpr hc⟩

/-- The part of a text in front of its first separator. -/
theorem exists_append_first (p : Char → Bool) (t : List Char) :
    ∃ v back, t = v ++ back ∧ (∀ c ∈ v, p c = false) ∧ ∀ c ∈ back.head?, p c = true := by
  induction t with
  | nil => exact ⟨[], [], rfl, by simp, by simp⟩
  | cons c t ih =>
    cases hc : p c with
    | true => exact ⟨[], c :: t, rfl, by simp, by simp [hc]⟩
    | false =>
      obtain ⟨v, back, rfl, hv, hback⟩ := ih
      exact ⟨c :: v, back, rfl, List.forall_mem_cons.mpr ⟨hc, hv⟩, hback⟩

/-- A text that ends in a separator is cut by itself. -/
private theorem exists_cut_of_getLast? (h : ∀ c ∈ s.getLast?, p c = true) :
    ∃ pieces, ∀ t, cut p (s ++ t) = pieces ++ cut p t := by
  cases s using List.reverseRecOn with
  | nil => exact ⟨[], fun t => rfl⟩
  | append_singleton s c =>
    have hc : p c = true := h c (by simp)
    exact ⟨cut p s, fun t => by rw [List.append_assoc, List.singleton_append, cut_append_cons hc]⟩

/-- A text that starts with a separator ends the piece in front of it. -/
private theorem exists_cut_of_head? (h : ∀ c ∈ t.head?, p c = true) :
    ∃ pieces, ∀ v, (∀ c ∈ v, p c = false) → cut p (v ++ t) = v :: pieces := by
  cases t with
  | nil => exact ⟨[], fun v hv => by rw [List.append_nil, cut_eq_singleton hv]⟩
  | cons c t =>
    have hc : p c = true := h c rfl
    exact ⟨cut p t, fun v hv => by
      rw [cut_append_cons hc, cut_eq_singleton hv, List.singleton_append]⟩

/-- **Two parts share one piece**: the rest of the first part behind its last separator, whatever is
put in between, and the second part up to its first separator. -/
theorem exists_cut_append (p : Char → Bool) (s t : List Char) :
    ∃ front u v back,
      (s = front ++ u ∧ (∀ c ∈ front.getLast?, p c = true) ∧ ∀ c ∈ u, p c = false) ∧
      (t = v ++ back ∧ (∀ c ∈ v, p c = false) ∧ ∀ c ∈ back.head?, p c = true) ∧
      ∃ before after, ∀ m, (∀ c ∈ m, p c = false) →
        cut p (s ++ (m ++ t)) = before ++ (u ++ (m ++ v)) :: after := by
  obtain ⟨front, u, rfl, hfront, hu⟩ := exists_append_last p s
  obtain ⟨v, back, rfl, hv, hback⟩ := exists_append_first p t
  obtain ⟨before, hbefore⟩ := exists_cut_of_getLast? hfront
  obtain ⟨after, hafter⟩ := exists_cut_of_head? hback
  refine ⟨front, u, v, back, ⟨rfl, hfront, hu⟩, ⟨rfl, hv, hback⟩, before, after, fun m hm => ?_⟩
  have hpiece : ∀ c ∈ u ++ (m ++ v), p c = false :=
    List.forall_mem_append.mpr ⟨hu, List.forall_mem_append.mpr ⟨hm, hv⟩⟩
  rw [List.append_assoc, hbefore, ← hafter _ hpiece]
  simp only [List.append_assoc]

/-! ### Gaps between words -/

/-- The last character, if there is one, is blank. -/
def EndsBlank (s : List Char) : Prop :=
  ∀ c ∈ s.getLast?, isBlank c = true

/-- The first character, if there is one, is blank. -/
def StartsBlank (s : List Char) : Prop :=
  ∀ c ∈ s.head?, isBlank c = true

@[simp] theorem words_nil : words [] = [] :=
  rfl

theorem words_cons_of_blank {c : Char} (hc : isBlank c = true) (t : List Char) :
    words (c :: t) = words t :=
  words_append_cons hc [] t

theorem words_eq_nil (h : ∀ c ∈ w, isBlank c = true) : words w = [] := by
  induction w with
  | nil => rw [words_nil]
  | cons c w ih =>
    obtain ⟨hc, hw⟩ := List.forall_mem_cons.mp h
    rw [words_cons_of_blank hc, ih hw]

theorem EndsBlank.words_append (h : EndsBlank s) (t : List Char) :
    words (s ++ t) = words s ++ words t := by
  cases s using List.reverseRecOn with
  | nil => rfl
  | append_singleton s c =>
    have hc : isBlank c = true := h c (by simp)
    have hs : words (s ++ [c]) = words s := by
      rw [words_append_cons hc, words_nil, List.append_nil]
    rw [hs, List.append_assoc, List.singleton_append, words_append_cons hc]

theorem StartsBlank.words_append (h : StartsBlank t) (s : List Char) :
    words (s ++ t) = words s ++ words t := by
  cases t with
  | nil => rw [List.append_nil, words_nil, List.append_nil]
  | cons c t =>
    have hc : isBlank c = true := h c rfl
    rw [words_append_cons hc, words_cons_of_blank hc]

/-- Where there is no gap, a word of each part makes one word of the whole. -/
private theorem length_words_append (hs : ¬ EndsBlank s) (ht : ¬ StartsBlank t) :
    (words (s ++ t)).length + 1 = (words s).length + (words t).length := by
  obtain ⟨front, u, rfl, hfront, hu⟩ := exists_append_last isBlank s
  obtain ⟨v, back, rfl, hv, hback⟩ := exists_append_first isBlank t
  have hune : u ≠ [] := by
    rintro rfl
    exact hs (by rwa [List.append_nil])
  have hvne : v ≠ [] := by
    rintro rfl
    exact ht hback
  -- what the first part ends in and what the second part starts with is a single word
  have huv : IsWord (u ++ v) := ⟨by simp [hune], List.forall_mem_append.mpr ⟨hu, hv⟩⟩
  have hwhole : front ++ u ++ (v ++ back) = front ++ ((u ++ v) ++ back) := by
    simp only [List.append_assoc]
  rw [hwhole, EndsBlank.words_append hfront, EndsBlank.words_append hfront,
    StartsBlank.words_append hback, StartsBlank.words_append hback, huv.words_eq,
    IsWord.words_eq ⟨hune, hu⟩, IsWord.words_eq ⟨hvne, hv⟩]
  simp only [List.length_append, List.length_singleton]
  omega

/-- **Words stay apart exactly at a gap.** -/
theorem words_append_eq_iff :
    words (s ++ t) = words s ++ words t ↔ EndsBlank s ∨ StartsBlank t := by
  constructor
  · intro h
    by_contra hgap
    rw [not_or] at hgap
    have hlength := length_words_append hgap.1 hgap.2
    rw [h, List.length_append] at hlength
    omega
  · rintro (hs | ht)
    · exact hs.words_append t
    · exact ht.words_append s

/-- **Blanks put in between change the words exactly where there was no gap.** -/
theorem words_append_blanks_eq_iff (hw : ∀ c ∈ w, isBlank c = true) :
    words (s ++ (w ++ t)) = words (s ++ t) ↔ w = [] ∨ EndsBlank s ∨ StartsBlank t := by
  cases w with
  | nil => simp
  | cons c w =>
    have hstarts : StartsBlank (c :: w ++ t) := by
      rintro d hd
      obtain rfl := Option.some.inj hd
      exact hw _ List.mem_cons_self
    have hends : EndsBlank (c :: w) := fun d hd => hw d (List.mem_of_getLast? hd)
    have happart : words (s ++ (c :: w ++ t)) = words s ++ words t := by
      rw [hstarts.words_append, hends.words_append, words_eq_nil hw, List.nil_append]
    rw [happart, eq_comm, words_append_eq_iff]
    simp

end SentenceGen.Text
