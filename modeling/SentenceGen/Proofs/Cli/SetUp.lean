import SentenceGen.Cli.SetUp
import SentenceGen.Proofs.Cli.DebugLines
import SentenceGen.Proofs.Config.Rejection
import SentenceGen.Proofs.Files.ConfigFiles

/-!
# Runs with a bad configuration

A run looks up eight default values before it reads its arguments. A configuration that is read is
known from then on, and one that is refused leaves nothing in the cache. So all look-ups find the
same configuration, or the first one is refused and there is no other (`setUp_of_ok`,
`setUp_of_error`), and a run that looks up one value after the other is a run that reads the
configuration once (`Environment.runBySteps_eq_run`).

A refusal therefore comes before anything is known of the arguments, what is typed or any other
file, and it is the same for all of them (`run_of_refused_configuration`).
-/

namespace SentenceGen

/-! ### Reading again -/

namespace ConfigCache

variable {loads : Toml.Loader} {cache : ConfigCache} {files : Config.Files}
  {given : Option String}

private theorem lookup_use (cache : ConfigCache) (given : Option String) (config : Config) :
    (cache.use given config).known.lookup given = some config := by
  rw [use, capacity, List.take_succ_cons, List.lookup_cons_self]

/-- A configuration that was read is read again, whatever the files are by then. -/
theorem read_again {config : Config} (h : (cache.read loads files given).1 = .ok config)
    (later : Config.Files) :
    ((cache.read loads files given).2.read loads later given).1 = .ok config := by
  have hknown : (cache.read loads files given).2.known.lookup given = some config := by
    unfold read at h ⊢
    split at h
    · obtain rfl := Except.ok.inj h
      exact lookup_use _ _ _
    · split at h
      · obtain rfl := Except.ok.inj h
        exact lookup_use _ _ _
      · cases h
  rw [read, hknown]

/-- An error is not kept. -/
theorem read_snd_of_error {e : ConfigError} (h : (cache.read loads files given).1 = .error e) :
    (cache.read loads files given).2 = cache := by
  unfold read at h ⊢
  split at h
  · cases h
  · split at h
    · cases h
    · rfl

theorem read_empty (loads : Toml.Loader) (files : Config.Files) (given : Option String) :
    (empty.read loads files given).1 = Config.read loads files given := by
  simp only [read, empty, List.lookup_nil]
  cases Config.read loads files given <;> rfl

end ConfigCache

namespace Cli

/-! ### Look-ups -/

variable {loads : Toml.Loader} {s : Config.State} {config : Config} {e : ConfigError}

/-- What a look-up finds, where there is a configuration. -/
def Lookup.valueIn (config : Config) (l : Lookup) : Option OptionValue :=
  config.default? l.command.name l.option

theorem Lookup.run_of_ok (h : (s.cache.read loads s.files none).1 = .ok config) (l : Lookup) :
    l.run loads s = .ok (l.valueIn config) ⟨s.files, (s.cache.read loads s.files none).2⟩ := by
  rw [run]
  generalize s.cache.read loads s.files none = r at h ⊢
  obtain ⟨result, cache⟩ := r
  obtain rfl : result = .ok config := h
  rfl

theorem Lookup.run_of_error (h : (s.cache.read loads s.files none).1 = .error e) (l : Lookup) :
    l.run loads s = .error ⟨l, e⟩ s := by
  have hcache := ConfigCache.read_snd_of_error h
  rw [run]
  generalize s.cache.read loads s.files none = r at h hcache ⊢
  obtain ⟨result, cache⟩ := r
  obtain rfl : result = .error e := h
  obtain rfl : cache = s.cache := hcache
  rfl

/-- **All look-ups find the same configuration**, and it is known when they are done. -/
theorem mapM_run_of_ok (h : (s.cache.read loads s.files none).1 = .ok config)
    (ls : List Lookup) :
    ∃ s', ls.mapM (Lookup.run loads) s = .ok (ls.map (Lookup.valueIn config)) s' ∧
      (s'.cache.read loads s'.files none).1 = .ok config := by
  induction ls generalizing s with
  | nil => exact ⟨s, rfl, h⟩
  | cons l ls ih =>
    obtain ⟨s', hls, hknown⟩ :=
      ih (s := ⟨s.files, (s.cache.read loads s.files none).2⟩) (ConfigCache.read_again h s.files)
    refine ⟨s', ?_, hknown⟩
    rw [List.mapM_cons]
    simp only [bind, EStateM.bind, Lookup.run_of_ok h, hls]
    rfl

/-- **Without a configuration the first look-up is the last one.** -/
theorem mapM_run_of_error (h : (s.cache.read loads s.files none).1 = .error e) (l : Lookup)
    (ls : List Lookup) : (l :: ls).mapM (Lookup.run loads) s = .error ⟨l, e⟩ s := by
  rw [List.mapM_cons]
  simp only [bind, EStateM.bind, Lookup.run_of_error h]

/-! ### Setting up -/

/-- The look-up that comes first. -/
def firstLookup : Lookup :=
  ⟨.generate, "--symbol", .ofRun⟩

theorem setupLookups_eq_cons : setupLookups = firstLookup :: setupLookups.tail :=
  rfl

variable {files : Config.Files}

theorem setUp_of_ok (h : Config.read loads files none = .ok config) :
    ∃ s, setUp loads ⟨files, .empty⟩ = .ok (setupLookups.map (Lookup.valueIn config)) s ∧
      (s.cache.read loads s.files none).1 = .ok config :=
  mapM_run_of_ok ((ConfigCache.read_empty loads files none).trans h) setupLookups

theorem setUp_of_error (h : Config.read loads files none = .error e) :
    setUp loads ⟨files, .empty⟩ = .error ⟨firstLookup, e⟩ ⟨files, .empty⟩ := by
  rw [setUp, setupLookups_eq_cons]
  exact mapM_run_of_error ((ConfigCache.read_empty loads files none).trans h) _ _

/-- What the first look-up says is said before the arguments are looked at. -/
theorem prepare_of_error (e : ConfigError) (args : List String) :
    prepare (.error e) args = .error (LookupError.shown ⟨firstLookup, e⟩) := by
  cases e <;> rfl

/-- **Looking up one value after the other is reading the configuration once.** -/
theorem Environment.runBySteps_eq_run (env : Environment) (args : List String) :
    env.runBySteps args = env.run args := by
  rw [runBySteps, run]
  cases hread : Config.read env.loads (.ofStore env.store) none with
  | error e =>
    rw [setUp_of_error hread, prepare_of_error]
  | ok config =>
    obtain ⟨s, hsetUp, hknown⟩ := setUp_of_ok hread
    have hagain : prepare (s.cache.read env.loads s.files none).1 args =
        prepare (.ok config) args := by
      rw [hknown]
    rw [hsetUp]
    cases hprepared : prepare (.ok config) args with
    | error refusal => simp only [hagain, hprepared]
    | ok accepted => simp only [hagain, hprepared]

/-! ### Refusals -/

theorem run_of_error {env : Environment}
    (h : Config.read env.loads (.ofStore env.store) none = .error e) (args : List String) :
    env.run args = ⟨(LookupError.shown ⟨firstLookup, e⟩).1, false,
      (LookupError.shown ⟨firstLookup, e⟩).2, env.store⟩ := by
  rw [← Environment.runBySteps_eq_run, Environment.runBySteps, setUp_of_error h]

end Cli

end SentenceGen
