import Mathlib.Data.List.Nodup

/-!
# Looking up in lists of pairs

A list of pairs answers to a key with the first value behind it. Where no key stands twice, the
pairs in the list are the answers it gives.
-/

namespace SentenceGen

variable {α β γ : Type} {entries : List (α × β)} {key : α} {value : β}

section Keys

variable [BEq α] [LawfulBEq α]

theorem lookup_cons_of_ne {other : α} (h : key ≠ other) (value : β) (entries : List (α × β)) :
    ((other, value) :: entries).lookup key = entries.lookup key := by
  rw [List.lookup_cons, beq_false_of_ne h]

theorem mem_of_lookup_eq_some (h : entries.lookup key = some value) : (key, value) ∈ entries := by
  obtain ⟨front, back, rfl, -⟩ := List.lookup_eq_some_iff.mp h
  exact List.mem_append_right _ List.mem_cons_self

theorem lookup_eq_none_iff_not_mem :
    entries.lookup key = none ↔ key ∉ entries.map Prod.fst := by
  rw [List.lookup_eq_none_iff, List.mem_map]
  constructor
  · rintro h ⟨e, he, rfl⟩
    simpa using h e he
  · intro h e he
    rw [bne_iff_ne]
    rintro rfl
    exact h ⟨e, he, rfl⟩

/-- **Where no key stands twice, every pair is found.** -/
theorem lookup_eq_some_iff_mem (hnodup : (entries.map Prod.fst).Nodup) :
    entries.lookup key = some value ↔ (key, value) ∈ entries := by
  refine ⟨mem_of_lookup_eq_some, fun hmem => ?_⟩
  cases hlookup : entries.lookup key with
  | none => exact absurd (List.mem_map_of_mem hmem) (lookup_eq_none_iff_not_mem.mp hlookup)
  | some other =>
    have hother := mem_of_lookup_eq_some hlookup
    rw [(Prod.mk.inj (List.inj_on_of_nodup_map hnodup hother hmem rfl)).2]

end Keys

/-! ### Values that are read one by one -/

variable {f : β → Option γ} {result : List (α × γ)}

/-- One value that cannot be read is enough. -/
theorem mapM_eq_none_iff {values : List β} :
    values.mapM f = none ↔ ∃ value ∈ values, f value = none := by
  induction values with
  | nil => simp
  | cons value values ih =>
    rw [List.mapM_cons, List.exists_mem_cons_iff, ← ih]
    cases f value with
    | none => simp
    | some c => cases values.mapM f <;> simp

/-- What was read comes from the values that it was read from. -/
theorem exists_of_mem_mapM {values : List β} {read : List γ} (h : values.mapM f = some read) :
    ∀ c ∈ read, ∃ value ∈ values, f value = some c := by
  induction values generalizing read with
  | nil =>
    obtain rfl := Option.some.inj h
    exact fun _ hc => absurd hc List.not_mem_nil
  | cons value values ih =>
    rw [List.mapM_cons] at h
    obtain ⟨first, hfirst, h⟩ := Option.bind_eq_some_iff.mp h
    obtain ⟨rest, hrest, h⟩ := Option.bind_eq_some_iff.mp h
    obtain rfl := Option.some.inj h
    intro c hc
    rcases List.mem_cons.mp hc with rfl | hmem
    · exact ⟨value, List.mem_cons_self, hfirst⟩
    · obtain ⟨value', hvalue', hread⟩ := ih hrest c hmem
      exact ⟨value', List.mem_cons_of_mem value hvalue', hread⟩

/-- Values that can all be read, under the same keys. -/
theorem exists_mapM_of_forall (h : ∀ e ∈ entries, (f e.2).isSome) :
    ∃ result, entries.mapM (fun e => (f e.2).map (e.1, ·)) = some result := by
  refine Option.ne_none_iff_exists'.mp fun hnone => ?_
  obtain ⟨e, he, hunread⟩ := mapM_eq_none_iff.mp hnone
  have hsome := h e he
  rw [Option.map_eq_none_iff.mp hunread] at hsome
  cases hsome

theorem isSome_of_mapM (h : entries.mapM (fun e => (f e.2).map (e.1, ·)) = some result) :
    ∀ e ∈ entries, (f e.2).isSome := by
  intro e he
  rw [Option.isSome_iff_ne_none]
  intro hunread
  have hnone : entries.mapM (fun e => (f e.2).map (e.1, ·)) = none :=
    mapM_eq_none_iff.mpr ⟨e, he, Option.map_eq_none_iff.mpr hunread⟩
  rw [h] at hnone
  cases hnone

/-- **What was read under a key** is what its value reads as. -/
theorem lookup_of_mapM [BEq α] (h : entries.mapM (fun e => (f e.2).map (e.1, ·)) = some result) :
    result.map Prod.fst = entries.map Prod.fst ∧
      ∀ key, result.lookup key = (entries.lookup key).bind f := by
  induction entries generalizing result with
  | nil =>
    obtain rfl := Option.some.inj h
    exact ⟨rfl, fun _ => rfl⟩
  | cons e entries ih =>
    rw [List.mapM_cons] at h
    obtain ⟨first, hfirst, h⟩ := Option.bind_eq_some_iff.mp h
    obtain ⟨rest, hrest, h⟩ := Option.bind_eq_some_iff.mp h
    obtain rfl := Option.some.inj h
    obtain ⟨c, hc, rfl⟩ := Option.map_eq_some_iff.mp hfirst
    obtain ⟨hkeys, hlookup⟩ := ih hrest
    refine ⟨by rw [List.map_cons, List.map_cons, hkeys], fun key => ?_⟩
    rw [List.lookup_cons, List.lookup_cons]
    cases key == e.1 with
    | true => exact hc.symm
    | false => exact hlookup key

end SentenceGen
