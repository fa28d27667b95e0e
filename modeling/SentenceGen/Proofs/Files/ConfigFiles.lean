import Mathlib.Data.List.Infix
import SentenceGen.Config.Sources
import SentenceGen.Grammar.Load
import SentenceGen.Proofs.Lookup

/-!
# Stores that differ in their configuration files

Two stores may be the same but for their configuration files (`Store.SameBesidesConfig`). They have
the same directories then, since a configuration file lies in the working directory or in the home
directory, and a path leads to the same place in both of them if it **keeps clear** of the
configuration files (`SameBesidesConfig.find_eq`): it leads to none, and through none that only one
of the stores has. The latter matters because a path through a file is refused for another reason
than a path through nothing.
-/

namespace SentenceGen

namespace Store

variable {s s' : Store} {location start names : List String} {path : String}

/-- Where the configuration files of a store are. -/
def configLocations (s : Store) : List (List String) :=
  [s.workDir ++ [Config.fileName], s.homeDir ++ [Config.fileName]]

/-- The stores are the same but for their configuration files. -/
structure SameBesidesConfig (s s' : Store) : Prop where
  workDir : s'.workDir = s.workDir
  homeDir : s'.homeDir = s.homeDir
  directories : s'.directories = s.directories
  bytes? : ∀ location, location ∉ s.configLocations → s'.bytes? location = s.bytes? location

theorem SameBesidesConfig.configLocations_eq (h : s.SameBesidesConfig s') :
    s'.configLocations = s.configLocations := by
  rw [configLocations, configLocations, h.workDir, h.homeDir]

theorem SameBesidesConfig.symm (h : s.SameBesidesConfig s') : s'.SameBesidesConfig s where
  workDir := h.workDir.symm
  homeDir := h.homeDir.symm
  directories := h.directories.symm
  bytes? location hlocation := by
    rw [h.configLocations_eq] at hlocation
    exact (h.bytes? location hlocation).symm

/-- Writing a configuration file leaves everything else as it is. -/
theorem SameBesidesConfig.put (h : location ∈ s.configLocations) (bytes : List UInt8) :
    s.SameBesidesConfig (s.put location bytes) where
  workDir := rfl
  homeDir := rfl
  directories := rfl
  bytes? other hother := s.bytes?_put_of_ne (by rintro rfl; exact hother h) bytes

/-! ### Directories -/

private theorem take_eq_iff_isPrefix {d : List String} :
    (d.take location.length == location) = true ↔ location <+: d := by
  rw [beq_iff_eq, List.prefix_iff_eq_take, eq_comm]

/-- A file lies below a location. -/
private theorem exists_file_iff :
    (∃ e ∈ s.files, (decide (e.1.length > location.length) &&
        e.1.take location.length == location) = true) ↔
      ∃ f, (s.bytes? f).isSome ∧ location <+: f ∧ location ≠ f := by
  simp only [Bool.and_eq_true, decide_eq_true_eq, take_eq_iff_isPrefix]
  constructor
  · rintro ⟨⟨f, bytes⟩, hmem, hlength, hbelow⟩
    refine ⟨f, ?_, hbelow, fun heq => ?_⟩
    · rw [bytes?, Option.isSome_iff_ne_none, Ne, lookup_eq_none_iff_not_mem, not_not]
      exact List.mem_map_of_mem hmem
    · rw [heq] at hlength
      exact absurd hlength (Nat.lt_irrefl _)
  · rintro ⟨f, hsome, hbelow, hne⟩
    obtain ⟨bytes, hbytes⟩ := Option.isSome_iff_exists.mp hsome
    refine ⟨(f, bytes), mem_of_lookup_eq_some hbytes, ?_, hbelow⟩
    exact lt_of_le_of_ne hbelow.length_le fun heq => hne (hbelow.eq_of_length heq)

/-- A location is a directory if something lies below it, or the store says so. -/
theorem isDirectory_iff :
    s.isDirectory location = true ↔ location = [] ∨ location <+: s.workDir ∨
      location <+: s.homeDir ∨ (∃ d ∈ s.directories, location <+: d) ∨
      ∃ f, (s.bytes? f).isSome ∧ location <+: f ∧ location ≠ f := by
  simp only [isDirectory, Bool.or_eq_true, exists_file_iff, take_eq_iff_isPrefix,
    List.any_eq_true, List.isEmpty_iff, or_assoc]

/-- A directory on the way to a configuration file is one anyhow. -/
theorem SameBesidesConfig.isDirectory_of (h : s.SameBesidesConfig s')
    (hdirectory : s.isDirectory location = true) : s'.isDirectory location = true := by
  rw [isDirectory_iff] at hdirectory ⊢
  rw [h.workDir, h.homeDir, h.directories]
  rcases hdirectory with hnil | hwork | hhome | hmore | ⟨f, hsome, hbelow, hne⟩
  · exact Or.inl hnil
  · exact Or.inr (Or.inl hwork)
  · exact Or.inr (Or.inr (Or.inl hhome))
  · exact Or.inr (Or.inr (Or.inr (Or.inl hmore)))
  · by_cases hconfig : f ∈ s.configLocations
    · rcases List.mem_pair.mp hconfig with rfl | rfl
      · exact Or.inr (Or.inl ((List.prefix_concat_iff.mp hbelow).resolve_left hne))
      · exact Or.inr (Or.inr (Or.inl ((List.prefix_concat_iff.mp hbelow).resolve_left hne)))
    · rw [← h.bytes? f hconfig] at hsome
      exact Or.inr (Or.inr (Or.inr (Or.inr ⟨f, hsome, hbelow, hne⟩)))

theorem SameBesidesConfig.isDirectory_eq (h : s.SameBesidesConfig s') (location : List String) :
    s'.isDirectory location = s.isDirectory location :=
  Bool.eq_iff_iff.mpr ⟨h.symm.isDirectory_of, h.isDirectory_of⟩

/-- A configuration file that is written in the working directory is the one that is found there,
and what is found in the home directory stays the same. -/
theorem ofStore_put_workDir (hdirs : s.workDir ≠ s.homeDir) (bytes : List UInt8) :
    Config.Files.ofStore (s.put (s.workDir ++ [Config.fileName]) bytes) =
      ⟨some (.bytes bytes), s.inHomeDir? Config.fileName⟩ := by
  have hsame : s.SameBesidesConfig (s.put (s.workDir ++ [Config.fileName]) bytes) :=
    .put List.mem_cons_self bytes
  have hwork : (s.put (s.workDir ++ [Config.fileName]) bytes).inWorkDir? Config.fileName =
      some (.bytes bytes) := by
    rw [inWorkDir?, found?, show (s.put _ bytes).workDir = s.workDir from rfl, bytes?_put]
  have hhome : (s.put (s.workDir ++ [Config.fileName]) bytes).inHomeDir? Config.fileName =
      s.inHomeDir? Config.fileName := by
    have hne : s.homeDir ++ [Config.fileName] ≠ s.workDir ++ [Config.fileName] :=
      fun heq => hdirs (List.append_cancel_right heq).symm
    rw [inHomeDir?, inHomeDir?, found?, found?, hsame.homeDir, bytes?_put_of_ne s hne,
      hsame.isDirectory_eq]
  rw [Config.Files.ofStore, hwork, hhome]

/-! ### Paths -/

/-- Names lead from a directory to a configuration file. -/
def LeadsToConfig (s : Store) (start names : List String) : Prop :=
  ∃ location ∈ s.configLocations, ∃ bytes, s.follow start names = .ok (.file location bytes)

/-- The directory from which a path is followed. -/
def startOf (s : Store) (path : String) : List String :=
  if Path.isAbsolute path then [] else s.workDir

/-- In neither store is the path one of a configuration file, and every part in front of it leads to
a configuration file in both of them or in none. -/
structure KeepsClear (s s' : Store) (path : String) : Prop where
  not_config : ∀ location bytes, s.find path = .ok (.file location bytes) →
    location ∉ s.configLocations
  not_config' : ∀ location bytes, s'.find path = .ok (.file location bytes) →
    location ∉ s'.configLocations
  through : ∀ front back, Path.components path = front ++ back → back ≠ [] →
    (s.LeadsToConfig (s.startOf path) front ↔ s'.LeadsToConfig (s'.startOf path) front)

theorem follow_cons {name : String} (hskip : ¬ (name.isEmpty || name == ".") = true)
    (hparent : ¬ (name == "..") = true) (hlong : ¬ maxNameBytes < name.utf8ByteSize)
    (s : Store) (start names : List String) :
    s.follow start (name :: names) =
      match s.bytes? (start ++ [name]) with
      | some bytes =>
        if names.isEmpty then .ok (.file (start ++ [name]) bytes) else .error .notDirectory
      | none =>
        if s.isDirectory (start ++ [name]) then s.follow (start ++ [name]) names
        else if names.isEmpty then .ok (.absent (start ++ [name])) else .error .notFound :=
  (if_neg hskip).trans ((if_neg hparent).trans (if_neg hlong))

/-- A single name leads to a configuration file where there is one of this name. -/
theorem leadsToConfig_singleton_iff {name : String}
    (hskip : ¬ (name.isEmpty || name == ".") = true) (hparent : ¬ (name == "..") = true)
    (hlong : ¬ maxNameBytes < name.utf8ByteSize) (hconfig : start ++ [name] ∈ s.configLocations) :
    s.LeadsToConfig start [name] ↔ (s.bytes? (start ++ [name])).isSome = true := by
  rw [LeadsToConfig, follow_cons hskip hparent hlong]
  cases s.bytes? (start ++ [name]) with
  | some bytes => exact iff_of_true ⟨_, hconfig, bytes, rfl⟩ rfl
  | none =>
    refine iff_of_false ?_ Bool.false_ne_true
    rintro ⟨location, -, bytes, hfile⟩
    dsimp only at hfile
    split at hfile <;> cases hfile

/-- Names that keep clear of configuration files lead to the same place. -/
theorem SameBesidesConfig.follow_eq (h : s.SameBesidesConfig s')
    (hconfig : ¬ s.LeadsToConfig start names) (hconfig' : ¬ s'.LeadsToConfig start names)
    (hthrough : ∀ front back, names = front ++ back → back ≠ [] →
      (s.LeadsToConfig start front ↔ s'.LeadsToConfig start front)) :
    s'.follow start names = s.follow start names := by
  induction names generalizing start with
  | nil => rfl
  | cons name names ih =>
    -- where both stores go on from the same directory
    have hon : ∀ next, (∀ rest, s.follow start (name :: rest) = s.follow next rest) →
        (∀ rest, s'.follow start (name :: rest) = s'.follow next rest) →
        s'.follow start (name :: names) = s.follow start (name :: names) := by
      intro next hs hs'
      simp only [LeadsToConfig, hs, hs'] at hconfig hconfig' hthrough
      rw [hs, hs']
      refine ih hconfig hconfig' fun front back heq hne => ?_
      have hfront := hthrough (name :: front) back (congrArg (name :: ·) heq) hne
      rwa [hs, hs'] at hfront
    by_cases hskip : (name.isEmpty || name == ".") = true
    · exact hon start (fun rest => by rw [follow, if_pos hskip])
        fun rest => by rw [follow, if_pos hskip]
    by_cases hparent : (name == "..") = true
    · exact hon start.dropLast (fun rest => by rw [follow, if_neg hskip, if_pos hparent])
        fun rest => by rw [follow, if_neg hskip, if_pos hparent]
    by_cases hlong : maxNameBytes < name.utf8ByteSize
    · rw [follow, follow, if_neg hskip, if_neg hparent, if_pos hlong, if_neg hskip, if_neg hparent,
        if_pos hlong]
    have hstep := follow_cons hskip hparent hlong
    -- a configuration file is met in both stores or in none, and never at the end
    have hmet : start ++ [name] ∈ s.configLocations →
        ((s.bytes? (start ++ [name])).isSome ↔ (s'.bytes? (start ++ [name])).isSome) ∧
          (names = [] → s.bytes? (start ++ [name]) = none) := by
      intro hmem
      have hiff := leadsToConfig_singleton_iff hskip hparent hlong hmem
      have hiff' := leadsToConfig_singleton_iff hskip hparent hlong (s := s')
        (h.configLocations_eq ▸ hmem)
      cases names with
      | nil =>
        rw [hiff, Option.not_isSome_iff_eq_none] at hconfig
        rw [hiff', Option.not_isSome_iff_eq_none] at hconfig'
        exact ⟨by rw [hconfig, hconfig'], fun _ => hconfig⟩
      | cons second rest =>
        rw [← hiff, ← hiff']
        exact ⟨hthrough [name] (second :: rest) rfl (List.cons_ne_nil _ _), nofun⟩
    cases hbytes : s.bytes? (start ++ [name]) with
    | none =>
      have hbytes' : s'.bytes? (start ++ [name]) = none := by
        by_cases hmem : start ++ [name] ∈ s.configLocations
        · have hsome := (hmet hmem).1
          rw [hbytes] at hsome
          simpa using hsome
        · rw [h.bytes? _ hmem, hbytes]
      by_cases hdirectory : s.isDirectory (start ++ [name]) = true
      · have hdirectory' := h.isDirectory_of hdirectory
        exact hon (start ++ [name]) (fun rest => by simp only [hstep, hbytes, if_pos hdirectory])
          fun rest => by simp only [hstep, hbytes', if_pos hdirectory']
      · have hdirectory' : ¬ s'.isDirectory (start ++ [name]) = true := by
          rwa [h.isDirectory_eq]
        simp only [hstep, hbytes, hbytes', if_neg hdirectory, if_neg hdirectory']
    | some bytes =>
      by_cases hmem : start ++ [name] ∈ s.configLocations
      · obtain ⟨hsome, hnil⟩ := hmet hmem
        obtain ⟨bytes', hbytes'⟩ := Option.isSome_iff_exists.mp (hsome.mp (by rw [hbytes]; rfl))
        cases names with
        | nil => exact absurd (hnil rfl) (by simp [hbytes])
        | cons second rest => simp only [hstep, hbytes, hbytes', List.isEmpty_cons]; rfl
      · simp only [hstep, h.bytes? _ hmem, hbytes]

/-- **A path that keeps clear of configuration files leads to the same place.** -/
theorem SameBesidesConfig.find_eq (h : s.SameBesidesConfig s') (hclear : s.KeepsClear s' path) :
    s'.find path = s.find path := by
  by_cases hlong : maxPathBytes < path.utf8ByteSize
  · rw [find, find, if_pos hlong, if_pos hlong]
  have hfind : ∀ s : Store, s.find path = s.follow (s.startOf path) (Path.components path) :=
    fun s => by rw [find, if_neg hlong, startOf]
  have hstart : s'.startOf path = s.startOf path := by
    rw [startOf, startOf, h.workDir]
  rw [hfind, hfind, hstart]
  refine h.follow_eq ?_ ?_ fun front back heq hne => ?_
  · rintro ⟨location, hmem, bytes, hfile⟩
    exact hclear.not_config location bytes ((hfind s).trans hfile) hmem
  · rintro ⟨location, hmem, bytes, hfile⟩
    rw [← hstart] at hfile
    exact hclear.not_config' location bytes ((hfind s').trans hfile) hmem
  · rw [hclear.through front back heq hne, hstart]

/-- A file that names lead to has one of them for its own name. -/
theorem exists_of_follow {bytes : List UInt8}
    (h : s.follow start names = .ok (.file location bytes)) :
    ∃ directory, ∃ name ∈ names, location = directory ++ [name] := by
  induction names generalizing start with
  | nil => cases h
  | cons name names ih =>
    have hon : ∀ next, s.follow next names = .ok (.file location bytes) →
        ∃ directory, ∃ other ∈ name :: names, location = directory ++ [other] := by
      intro next hnext
      obtain ⟨directory, other, hmem, hlocation⟩ := ih hnext
      exact ⟨directory, other, List.mem_cons_of_mem name hmem, hlocation⟩
    by_cases hskip : (name.isEmpty || name == ".") = true
    · rw [follow, if_pos hskip] at h
      exact hon start h
    by_cases hparent : (name == "..") = true
    · rw [follow, if_neg hskip, if_pos hparent] at h
      exact hon start.dropLast h
    by_cases hlong : maxNameBytes < name.utf8ByteSize
    · rw [follow, if_neg hskip, if_neg hparent, if_pos hlong] at h
      cases h
    rw [follow_cons hskip hparent hlong] at h
    split at h
    · split at h
      · cases h
        exact ⟨start, name, List.mem_cons_self, rfl⟩
      · cases h
    · split at h
      · exact hon (start ++ [name]) h
      · split at h <;> cases h

/-- **A path without the name of configuration files keeps clear of them**, whatever the stores. -/
theorem KeepsClear.of_not_mem (h : Config.fileName ∉ Path.components path) :
    s.KeepsClear s' path := by
  -- no part of the path leads to a configuration file in any store
  have hfollow : ∀ (s : Store) start front, front <+: Path.components path →
      ∀ location bytes, s.follow start front = .ok (.file location bytes) →
        location ∉ s.configLocations := by
    intro s start front hfront location bytes hfile hconfig
    obtain ⟨directory, name, hname, rfl⟩ := exists_of_follow hfile
    refine h (hfront.subset ?_)
    rcases List.mem_pair.mp hconfig with heq | heq
    all_goals
      obtain ⟨-, hlast⟩ := List.append_inj' heq rfl
      exact List.singleton_inj.mp hlast ▸ hname
  have hleads : ∀ (s : Store) start front, front <+: Path.components path →
      ¬ s.LeadsToConfig start front := by
    rintro s start front hfront ⟨location, hmem, bytes, hfile⟩
    exact hfollow s start front hfront location bytes hfile hmem
  have hfind : ∀ (s : Store) location bytes, s.find path = .ok (.file location bytes) →
      location ∉ s.configLocations := by
    intro s location bytes hfile
    rw [find] at hfile
    split at hfile
    · cases hfile
    · exact hfollow s _ _ List.prefix_rfl location bytes hfile
  refine ⟨hfind s, hfind s', fun front back heq _ => ?_⟩
  have hfront : front <+: Path.components path := ⟨back, heq.symm⟩
  exact iff_of_false (hleads s _ front hfront) (hleads s' _ front hfront)

theorem SameBesidesConfig.read_eq (h : s.SameBesidesConfig s') (hclear : s.KeepsClear s' path) :
    s'.read path = s.read path := by
  rw [read, read, h.find_eq hclear]

end Store

/-- So the grammar in the file is the same. -/
theorem Grammar.load_eq {s s' : Store} {path : String} (h : s.SameBesidesConfig s')
    (hclear : s.KeepsClear s' (Path.tidy path)) : Grammar.load s' path = Grammar.load s path := by
  rw [Grammar.load, Grammar.load, h.read_eq hclear]

end SentenceGen
