import Mathlib.Data.List.Forall2

/-!
# Results and errors

Where several steps can each fail, a result at the end means that every step had one, and an error
at the end is that of one of them.
-/

namespace SentenceGen

variable {ε ε' α β : Type}

theorem exists_of_map_eq_ok {f : α → β} {r : Except ε α} {b : β} (h : r.map f = .ok b) :
    ∃ a, r = .ok a ∧ f a = b := by
  cases r with
  | error e => cases h
  | ok a => exact ⟨a, rfl, Except.ok.inj h⟩

theorem exists_of_bind_eq_ok {r : Except ε α} {f : α → Except ε β} {b : β}
    (h : r.bind f = .ok b) : ∃ a, r = .ok a ∧ f a = .ok b := by
  cases r with
  | error e => cases h
  | ok a => exact ⟨a, rfl, h⟩

theorem mapError_eq_ok_iff {f : ε → ε'} {r : Except ε α} {a : α} :
    r.mapError f = .ok a ↔ r = .ok a := by
  cases r <;> simp [Except.mapError]

theorem eq_ok_of_mapError {f : ε → ε'} {r : Except ε α} {a : α} (h : r.mapError f = .ok a) :
    r = .ok a :=
  mapError_eq_ok_iff.mp h

theorem of_bind_eq_error {r : Except ε α} {f : α → Except ε β} {e : ε}
    (h : r.bind f = .error e) : r = .error e ∨ ∃ a, r = .ok a ∧ f a = .error e := by
  cases r with
  | error e' => exact Or.inl (congrArg Except.error (Except.error.inj h))
  | ok a => exact Or.inr ⟨a, rfl, h⟩

theorem exists_of_mapError_eq_error {f : ε → ε'} {r : Except ε α} {e' : ε'}
    (h : r.mapError f = .error e') : ∃ e, r = .error e ∧ f e = e' := by
  cases r with
  | error e => exact ⟨e, rfl, Except.error.inj h⟩
  | ok a => cases h

section MapM

variable {f : α → Except ε β} {as : List α} {bs : List β} {e : ε}

/-- **Where there are results of all elements**, they are the results of one after the other. -/
theorem mapM_eq_ok_iff : as.mapM f = .ok bs ↔ List.Forall₂ (fun a b => f a = .ok b) as bs := by
  constructor
  · intro h
    induction as generalizing bs with
    | nil =>
      obtain rfl := Except.ok.inj h
      exact .nil
    | cons a as ih =>
      rw [List.mapM_cons] at h
      obtain ⟨b, hfirst, h⟩ := exists_of_bind_eq_ok h
      obtain ⟨rest, hrest, h⟩ := exists_of_bind_eq_ok h
      obtain rfl := Except.ok.inj h
      exact .cons hfirst (ih hrest)
  · intro h
    induction h with
    | nil => rfl
    | cons hfirst _ ih =>
      rw [List.mapM_cons, hfirst, ih]
      rfl

/-- So each of the elements has one. -/
theorem exists_of_mem_of_mapM_ok (h : as.mapM f = .ok bs) : ∀ a ∈ as, ∃ b, f a = .ok b := by
  rw [mapM_eq_ok_iff] at h
  induction h with
  | nil => exact fun _ hmem => absurd hmem List.not_mem_nil
  | cons hfirst _ ih => exact List.forall_mem_cons.mpr ⟨⟨_, hfirst⟩, ih⟩

/-- Otherwise the error is that of the first element that has no result. -/
theorem mapM_eq_error_iff :
    as.mapM f = .error e ↔ ∃ front a back, as = front ++ a :: back ∧
      (∀ x ∈ front, ∃ b, f x = .ok b) ∧ f a = .error e := by
  induction as with
  | nil => exact iff_of_false (fun h => by cases h) (by simp)
  | cons a as ih =>
    rw [List.mapM_cons]
    constructor
    · intro h
      rcases of_bind_eq_error h with hfirst | ⟨b, hfirst, hlater⟩
      · exact ⟨[], a, as, rfl, fun _ hmem => absurd hmem List.not_mem_nil, hfirst⟩
      · rcases of_bind_eq_error hlater with hrest | ⟨bs, -, hnone⟩
        · obtain ⟨front, a', back, rfl, hfront, hfails⟩ := ih.mp hrest
          exact ⟨a :: front, a', back, rfl,
            List.forall_mem_cons.mpr ⟨⟨b, hfirst⟩, hfront⟩, hfails⟩
        · cases hnone
    · rintro ⟨front, a', back, heq, hfront, hfails⟩
      cases front with
      | nil =>
        obtain ⟨rfl, rfl⟩ := List.cons.inj heq
        rw [hfails]
        rfl
      | cons c front =>
        obtain ⟨rfl, rfl⟩ := List.cons.inj heq
        obtain ⟨⟨b, hfirst⟩, hfront⟩ := List.forall_mem_cons.mp hfront
        rw [hfirst, ih.mpr ⟨front, a', back, rfl, hfront, hfails⟩]
        rfl

end MapM

/-- **A fold fails at one element**: it goes through the elements in front of it, and fails from
what they have given. -/
theorem foldlM_eq_error_iff {f : β → α → Except ε β} {as : List α} {b : β} {e : ε} :
    as.foldlM f b = .error e ↔ ∃ front a back b',
      as = front ++ a :: back ∧ front.foldlM f b = .ok b' ∧ f b' a = .error e := by
  induction as generalizing b with
  | nil => exact iff_of_false (fun h => by cases h) (by simp)
  | cons a as ih =>
    rw [List.foldlM_cons]
    constructor
    · intro h
      rcases of_bind_eq_error h with hfirst | ⟨b', hfirst, hlater⟩
      · exact ⟨[], a, as, b, rfl, rfl, hfirst⟩
      · obtain ⟨front, a', back, b'', rfl, hfront, hfails⟩ := ih.mp hlater
        refine ⟨a :: front, a', back, b'', rfl, ?_, hfails⟩
        rw [List.foldlM_cons, hfirst]
        exact hfront
    · rintro ⟨front, a', back, b'', heq, hfront, hfails⟩
      cases front with
      | nil =>
        obtain ⟨rfl, rfl⟩ := List.cons.inj heq
        cases hfront
        rw [hfails]
        rfl
      | cons c front =>
        obtain ⟨rfl, rfl⟩ := List.cons.inj heq
        rw [List.foldlM_cons] at hfront
        obtain ⟨b', hfirst, hfront⟩ := exists_of_bind_eq_ok hfront
        rw [hfirst]
        exact ih.mpr ⟨front, a', back, b'', rfl, hfront, hfails⟩

end SentenceGen
