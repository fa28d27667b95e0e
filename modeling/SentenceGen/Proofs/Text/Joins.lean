import Mathlib.Data.List.Infix
import SentenceGen.Proofs.Text.Pieces

/-!
# Joins that can be taken apart

A separator of several characters that stands in no piece may still come up in a join where it
should not, half in a piece and half in the separator next to it. This does not happen when no end
of the separator is also a start of it (`Unbordered`). Then the first separator of a join is the one
behind the first piece (`Unbordered.append_inj`), and pieces that are not empty are known from their
join (`Unbordered.intercalate_inj`).
-/

namespace SentenceGen.Text

/-- No end of the text is a start of it, but the empty one and the whole text. -/
def Unbordered (sep : List Char) : Prop :=
  ∀ u ∈ sep.tails, u <+: sep → u = [] ∨ u = sep

instance (sep : List Char) : Decidable (Unbordered sep) :=
  inferInstanceAs (Decidable (∀ u ∈ sep.tails, u <+: sep → u = [] ∨ u = sep))

/-- A text that can stand as a piece in a join with this separator. -/
structure IsPiece (sep w : List Char) : Prop where
  ne_nil : w ≠ []
  no_separator : ¬ sep <:+: w

namespace Unbordered

variable {sep v w s t : List Char} {vs ws : List (List Char)}

/-- In front of a separator that is at the same time the first thing in the text there is nothing,
or something that holds a separator itself. -/
theorem eq_nil_of_append_eq (h : Unbordered sep) (hv : ¬ sep <:+: v)
    (heq : sep ++ s = v ++ (sep ++ t)) : v = [] := by
  rcases List.append_eq_append_iff.mp heq with ⟨u, rfl, -⟩ | ⟨u, hsep, hrest⟩
  · exact absurd (List.prefix_append sep u).isInfix hv
  · -- `u` is where the two separators overlap
    have hsuffix : u <:+ sep := ⟨v, hsep.symm⟩
    have hstart : u <+: sep ++ t := hrest ▸ List.prefix_append u s
    have hprefix : u <+: sep :=
      List.prefix_of_prefix_length_le hstart (List.prefix_append sep t) hsuffix.length_le
    rcases h u ((List.mem_tails u sep).mpr hsuffix) hprefix with rfl | rfl
    · rw [List.append_nil] at hsep
      exact absurd (hsep ▸ List.infix_rfl) hv
    · exact List.self_eq_append_left.mp hsep

/-- **The first separator ends the first piece.** -/
theorem append_inj (h : Unbordered sep) (hv : ¬ sep <:+: v) (hw : ¬ sep <:+: w)
    (heq : v ++ (sep ++ s) = w ++ (sep ++ t)) : v = w ∧ s = t := by
  have hsame : v = w := by
    rcases List.append_eq_append_iff.mp heq with ⟨u, rfl, hrest⟩ | ⟨u, rfl, hrest⟩
    · have hu : ¬ sep <:+: u := fun hin => hw (hin.trans (List.suffix_append v u).isInfix)
      rw [h.eq_nil_of_append_eq hu hrest, List.append_nil]
    · have hu : ¬ sep <:+: u := fun hin => hv (hin.trans (List.suffix_append w u).isInfix)
      rw [h.eq_nil_of_append_eq hu hrest, List.append_nil]
  subst hsame
  exact ⟨rfl, List.append_cancel_left (List.append_cancel_left heq)⟩

/-- A piece alone is not the join of several pieces. -/
private theorem ne_intercalate_cons_cons (hv : ¬ sep <:+: v) (w w' : List Char)
    (ws : List (List Char)) : v ≠ sep.intercalate (w :: w' :: ws) := by
  rintro rfl
  rw [List.intercalate_cons_cons] at hv
  exact hv ⟨w, sep.intercalate (w' :: ws), rfl⟩

/-- **Pieces are known from their join**, how many they are included. -/
theorem intercalate_inj (h : Unbordered sep) (hvs : ∀ v ∈ vs, IsPiece sep v)
    (hws : ∀ w ∈ ws, IsPiece sep w) (heq : sep.intercalate vs = sep.intercalate ws) : vs = ws := by
  induction vs generalizing ws with
  | nil =>
    by_contra hne
    exact intercalate_ne_nil (Ne.symm hne) (fun w hw => (hws w hw).ne_nil) heq.symm
  | cons v vs ih =>
    cases ws with
    | nil =>
      exact absurd heq (intercalate_ne_nil (List.cons_ne_nil v vs) fun u hu => (hvs u hu).ne_nil)
    | cons w ws =>
      obtain ⟨hv, hvs⟩ := List.forall_mem_cons.mp hvs
      obtain ⟨hw, hws⟩ := List.forall_mem_cons.mp hws
      match vs, ws with
      | [], [] => simpa using heq
      | [], w' :: ws =>
        rw [List.intercalate_singleton] at heq
        exact absurd heq (ne_intercalate_cons_cons hv.no_separator w w' ws)
      | v' :: vs, [] =>
        rw [List.intercalate_singleton] at heq
        exact absurd heq.symm (ne_intercalate_cons_cons hw.no_separator v v' vs)
      | v' :: vs, w' :: ws =>
        rw [List.intercalate_cons_cons, List.intercalate_cons_cons, List.append_assoc,
          List.append_assoc] at heq
        obtain ⟨rfl, hrest⟩ := h.append_inj hv.no_separator hw.no_separator heq
        rw [ih hvs hws hrest]

end Unbordered

end SentenceGen.Text
