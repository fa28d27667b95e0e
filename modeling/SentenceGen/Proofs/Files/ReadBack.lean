import SentenceGen.Proofs.Files.ConfigFiles

/-!
# Files read back

What is written at a path is read at this path (`Store.read_of_write`). The path is followed twice,
when the file is written and when it is read, and has to lead to the same location. A file that is
new there is no obstacle on the way: the way leads through directories, and the location of a file
is never a directory without a file (`Store.isSome_or_of_follow`).
-/

namespace SentenceGen.Store

variable {s s' : Store} {location start names : List String} {place : Place} {bytes : List UInt8}

/-- Where a file is or can be, if the place is not that of a directory. -/
def Place.location? : Place → Option (List String)
  | directory => none
  | file location _ => some location
  | absent location => some location

/-- Names lead to the location of a file only if there is one or no directory. -/
theorem isSome_or_of_follow (h : s.follow start names = .ok place)
    (hplace : place.location? = some location) :
    (s.bytes? location).isSome = true ∨ s.isDirectory location = false := by
  fun_induction follow s start names with
  | case1 => cases h; cases hplace
  | case2 start name names hskip ih => exact ih h
  | case3 start name names hskip hparent ih => exact ih h
  | case4 => cases h
  | case5 start name names hskip hparent hlong next bytes hbytes hlast =>
    cases h
    have hlocation : next = location := Option.some.inj hplace
    exact Or.inl (by rw [← hlocation, hbytes]; rfl)
  | case6 => cases h
  | case7 start name names hskip hparent hlong next hbytes hdirectory ih => exact ih h
  | case8 start name names hskip hparent hlong next hbytes hdirectory hlast =>
    cases h
    have hlocation : next = location := Option.some.inj hplace
    exact Or.inr (by rw [← hlocation, Bool.eq_false_iff]; exact hdirectory)
  | case9 => cases h

/-- A file that is put somewhere takes no directory away. -/
theorem isDirectory_put (h : s.isDirectory start = true) (location : List String)
    (bytes : List UInt8) : (s.put location bytes).isDirectory start = true := by
  rw [isDirectory_iff] at h ⊢
  refine h.imp_right (Or.imp_right (Or.imp_right (Or.imp_right ?_)))
  rintro ⟨f, hsome, hbelow⟩
  refine ⟨f, ?_, hbelow⟩
  by_cases hf : f = location
  · rw [hf, bytes?_put]
    rfl
  · rwa [bytes?_put_of_ne s hf]

/-- **A way to a location leads there when the file is put there.** -/
theorem follow_put (h : s.follow start names = .ok place)
    (hplace : place.location? = some location) (bytes : List UInt8) :
    (s.put location bytes).follow start names = .ok (.file location bytes) := by
  fun_induction follow s start names with
  | case1 => cases h; cases hplace
  | case2 start name names hskip ih => rw [follow, if_pos hskip, ih h]
  | case3 start name names hskip hparent ih => rw [follow, if_neg hskip, if_pos hparent, ih h]
  | case4 => cases h
  | case5 start name names hskip hparent hlong next bytes' hbytes hlast =>
    cases h
    have hlocation : start ++ [name] = location := Option.some.inj hplace
    rw [follow_cons hskip hparent hlong, hlocation, bytes?_put]
    exact if_pos hlast
  | case6 => cases h
  | case7 start name names hskip hparent hlong next hbytes hdirectory ih =>
    -- a directory on the way is not the location of the file
    have hne : next ≠ location := by
      rintro rfl
      rcases isSome_or_of_follow h hplace with hsome | hfree
      · rw [hbytes] at hsome
        cases hsome
      · rw [hdirectory] at hfree
        cases hfree
    rw [follow_cons hskip hparent hlong, bytes?_put_of_ne s hne, hbytes]
    exact (if_pos (isDirectory_put hdirectory location bytes)).trans (ih h)
  | case8 start name names hskip hparent hlong next hbytes hdirectory hlast =>
    cases h
    have hlocation : start ++ [name] = location := Option.some.inj hplace
    rw [follow_cons hskip hparent hlong, hlocation, bytes?_put]
    exact if_pos hlast
  | case9 => cases h

/-- **What is written at a path is read at this path.** -/
theorem read_of_write {path : String} (h : s.write path bytes = .ok s') :
    s'.read path = .ok bytes := by
  have hput : ∃ place location, s.find path = .ok place ∧ place.location? = some location ∧
      s' = s.put location bytes := by
    rw [write] at h
    -- a path with a slash at its end is refused, so the path is followed as it is
    split at h
    · cases h
    · cases h
    all_goals
      split_ifs at h with hslash
      rename_i hfind
      rw [if_neg hslash] at hfind
      exact ⟨_, _, hfind, rfl, (Except.ok.inj h).symm⟩
  obtain ⟨place, location, hfind, hplace, rfl⟩ := hput
  have hlong : ¬ maxPathBytes < path.utf8ByteSize := by
    intro hlong
    rw [find, if_pos hlong] at hfind
    cases hfind
  rw [find, if_neg hlong] at hfind
  have hagain : (s.put location bytes).find path = .ok (.file location bytes) := by
    rw [find, if_neg hlong]
    exact follow_put hfind hplace bytes
  rw [read, hagain]

end SentenceGen.Store
