import SentenceGen.Proofs.Cli.SeededRuns
import SentenceGen.Proofs.Config.Absorption
import SentenceGen.Proofs.Files.ConfigFiles

/-!
# Writing the bundled configuration where it is read

The command `config` can write the bundled text to the configuration file in the working directory.
What runs read from then on is fixed by the text that is given, the bundled text and the file in the
home directory, in this order: the file that was in the working directory before leaves no trace,
and where there was no file at all, nothing changes (`dump_pins_bundled`).
-/

namespace SentenceGen

/-- A file with the name of configuration files is written in the working directory, unless there is
a directory of this name. -/
theorem Store.write_fileName (s : Store) (bytes : List UInt8) :
    s.write Config.fileName bytes =
      if s.bytes? (s.workDir ++ [Config.fileName]) = none ∧
          s.isDirectory (s.workDir ++ [Config.fileName]) = true then
        .error ⟨.isDirectory, Config.fileName⟩
      else .ok (s.put (s.workDir ++ [Config.fileName]) bytes) := by
  have hslash : Path.endsInSlash Config.fileName = false := by decide
  have hshort : ¬ maxPathBytes < Config.fileName.utf8ByteSize := by decide
  have habsolute : Path.isAbsolute Config.fileName = false := by decide
  have hcomponents : Path.components Config.fileName = [Config.fileName] := by decide
  have hfind : s.find Config.fileName = s.follow s.workDir [Config.fileName] := by
    rw [find, if_neg hshort, habsolute, hcomponents]
    rfl
  rw [write, hslash, if_neg Bool.false_ne_true, hfind,
    follow_cons (by decide) (by decide) (by decide)]
  cases s.bytes? (s.workDir ++ [Config.fileName]) with
  | some bytes => rfl
  | none =>
    cases s.isDirectory (s.workDir ++ [Config.fileName]) <;> rfl

namespace Cli

/-- The arguments that write the bundled text to the configuration file in the working directory. -/
def dumpArgs : List String := Command.config.name :: ["-o", Config.fileName]

variable {env : Environment} {config : Config}

/-- Whatever the configuration, these arguments ask for the bundled text to be written. -/
theorem request_dumpArgs (config : Config) :
    request config dumpArgs =
      .ok ⟨.config (some Config.fileName), (Defaults.ofConfig config .config).level⟩ := by
  have hmain : mainInterface.findings dumpArgs = [.operands dumpArgs] := by decide +kernel
  have hwords : Command.config.interface.findings ["-o", Config.fileName] =
      [.given outputOption "-o" (some Config.fileName)] := by decide +kernel
  have hread : Command.config.read config ["-o", Config.fileName] =
      .ok (⟨.config (some Config.fileName), (Defaults.ofConfig config .config).level⟩, []) := by
    rw [Command.read, hwords]
    rfl
  have hcollect : collectMain config ⟨false, none, []⟩ [.operands dumpArgs] =
      .ok ⟨false, some ⟨.config (some Config.fileName),
        (Defaults.ofConfig config .config).level⟩, []⟩ := by
    rw [dumpArgs, collectMain, List.headD_cons, List.drop_succ_cons, List.drop_zero]
    simp only [Command.ofName?_name, hread]
    rfl
  rw [request, hmain, hcollect]
  rfl

theorem asks_dumpArgs {debug : Bool}
    (hconfig : Config.read env.loads (.ofStore env.store) none = .ok config)
    (hlevel : showsDebug? (Defaults.ofConfig config .config).level = some debug) :
    env.Asks dumpArgs (.config (some Config.fileName)) debug := by
  simp only [Environment.Asks, hconfig, prepare, request_dumpArgs, hlevel]

/-- What comes of it, whether or not there is such a file. -/
theorem perform_dump (env : Environment) :
    env.perform (.config (some Config.fileName)) =
      if env.store.bytes? (env.store.workDir ++ [Config.fileName]) = none ∧
          env.store.isDirectory (env.store.workDir ++ [Config.fileName]) = true then
        ([], .fault (.refusedOutput ⟨.isDirectory, Config.fileName⟩), env.store)
      else
        ([], .exit success, env.store.put (env.store.workDir ++ [Config.fileName])
          (Text.Utf8.encode Config.bundledText.toList)) := by
  have hperform : env.perform (.config (some Config.fileName)) =
      writeConfiguration env.store (some Config.fileName) := rfl
  have hempty : Config.fileName.isEmpty = false := by decide
  have hnul : Path.hasNul Config.fileName = false := by decide
  rw [hperform, writeConfiguration, hempty, if_neg Bool.false_ne_true, hnul,
    if_neg Bool.false_ne_true, Store.write_fileName]
  split_ifs <;> rfl

/-- **A run that ends well has put the bundled text in the working directory.** -/
theorem store_of_dump (hconfig : Config.read env.loads (.ofStore env.store) none = .ok config)
    (hending : (env.run dumpArgs).ending = .exit success) :
    (env.run dumpArgs).store = env.store.put (env.store.workDir ++ [Config.fileName])
      (Text.Utf8.encode Config.bundledText.toList) := by
  cases hlevel : showsDebug? (Defaults.ofConfig config .config).level with
  | none =>
    have hprepare : prepare (Config.read env.loads (.ofStore env.store) none) dumpArgs =
        .error ([], .fault (.unknownLevel (Defaults.ofConfig config .config).level)) := by
      simp only [hconfig, prepare, request_dumpArgs, hlevel]
    rw [Environment.run_of_prepare_eq_error hprepare] at hending
    cases hending
  | some debug =>
    rw [(asks_dumpArgs hconfig hlevel).run_eq, perform_dump] at hending ⊢
    split_ifs at hending ⊢ with hdirectory
    rfl

/-- **Writing the bundled configuration pins the bundled values and nothing else.** Let the
documents of the loader define no key twice, let the working directory and the home directory be
different, with configuration files that are accepted, and let a run end well that writes the
bundled text to the configuration file in the working directory. Then a text is accepted afterwards
if it writes a configuration by itself; and where a configuration is read, each option of each
command has the value that the given text defines, or else the one that the bundled text defines, or
else that from the file in the home directory, or else none. If there was no file before, then every
text is read or refused as before. Where the loader reads the bundled text as what it is, the
bundled values are those of its three sections. -/
theorem dump_pins_bundled (hunique : env.loads.Unique)
    (hdirs : env.store.workDir ≠ env.store.homeDir)
    (hconfig : Config.read env.loads (.ofStore env.store) none = .ok config)
    (hending : (env.run dumpArgs).ending = .exit success) :
    ∃ home : Option String,
      Option.Rel Config.Reads (Config.Files.ofStore env.store).home home ∧
      (∀ given : Option String,
        ((∃ config',
            Config.read env.loads (.ofStore (env.run dumpArgs).store) given = .ok config') ↔
          ∀ text ∈ given, ∃ document, Config.Writes env.loads text document) ∧
        ∀ config',
          Config.read env.loads (.ofStore (env.run dumpArgs).store) given = .ok config' →
          ∀ command option, config'.get? command option =
            ((given.bind (Config.valueFrom env.loads command option)).or
              (Config.valueFrom env.loads command option Config.bundledText)).or
                (home.bind (Config.valueFrom env.loads command option))) ∧
      (Config.Files.ofStore env.store = ⟨none, none⟩ → ∀ given : Option String,
        Config.read env.loads (.ofStore (env.run dumpArgs).store) given =
          Config.read env.loads (.ofStore env.store) given) ∧
      (Config.ReadsBundled env.loads → ∀ command option,
        Config.valueFrom env.loads command option Config.bundledText =
          Config.valueIn Config.bundledSections command option) := by
  have hbundled := Config.reads_bundledText
  have hfiles : Config.Files.ofStore (env.run dumpArgs).store =
      ⟨some (.bytes (Text.Utf8.encode Config.bundledText.toList)),
        (Config.Files.ofStore env.store).home⟩ := by
    rw [store_of_dump hconfig hending]
    exact Store.ofStore_put_workDir hdirs _
  -- the file in the home directory was accepted before
  obtain ⟨work, home, hworkBefore, hhome⟩ := Config.exists_reads_of_read hconfig
  rw [Config.read_of_reads hworkBefore hhome] at hconfig
  have hall := Config.exists_writes_of_ofTexts hunique hconfig
  have hwrites : ∀ text ∈ home, ∃ document, Config.Writes env.loads text document :=
    fun text htext => hall text (Config.mem_presentTexts.mpr (.inr (.inr (.inl htext))))
  have hdump : ∃ document, Config.Writes env.loads Config.bundledText document :=
    hall _ (Config.mem_presentTexts.mpr (.inr (.inr (.inr rfl))))
  generalize Config.Files.ofStore (env.run dumpArgs).store = files at hfiles ⊢
  generalize Found.bytes (Text.Utf8.encode Config.bundledText.toList) = found at hbundled hfiles
  have hwork : files.work = some found := congrArg Config.Files.work hfiles
  have hhomeAfter : Option.Rel Config.Reads files.home home := hfiles ▸ hhome
  refine ⟨home, hhome, fun given => ⟨⟨?_, fun hgiven => ?_⟩, fun config' hread => ?_⟩, ?_,
    fun hsections => Config.valueFrom_bundledText hunique hsections⟩
  · rintro ⟨config', hread⟩ text htext
    have hreads : Option.Rel Config.Reads files.work (some Config.bundledText) :=
      hwork ▸ .some hbundled
    rw [Config.read_of_reads hreads hhomeAfter] at hread
    exact Config.exists_writes_of_ofTexts hunique hread text
      (Config.mem_presentTexts.mpr (.inl htext))
  · exact Config.exists_read_of_bundled_work hunique hdump hbundled hwork hhomeAfter hwrites hgiven
  · exact Config.get?_of_bundled_work hunique hbundled hwork hhomeAfter hread
  · intro hnone given
    rw [hfiles, hnone]
    exact Config.read_of_bundled_work hunique hdump given hbundled

/-- The file in the working directory that is overwritten. -/
def overwrittenText : String :=
  "[[defaults.generate]]\n--symbol = 'w'\n"

/-- The file in the home directory that stays. -/
def homeText : String :=
  "[[defaults.generate]]\n--symbol = 'h'\n--seed = 7\n"

set_option maxRecDepth 100000 in
/-- The symbol in the working directory is forgotten, and that in the home directory is hidden; the
seed in the home directory stays, and what is given still comes first. -/
theorem dump_pins_bundled_between :
    let store : Store := ⟨[(["w", Config.fileName], Text.Utf8.encode overwrittenText.toList),
      (["h", Config.fileName], Text.Utf8.encode homeText.toList)], [], ["w"], ["h"]⟩
    let env : Environment := ⟨Toml.loads, .usual, store, "", 0⟩
    (∃ config, Config.read env.loads (.ofStore store) none = .ok config ∧
      config.get? "generate" "--symbol" = some (.text "w")) ∧
    (env.run dumpArgs).ending = .exit success ∧
    ∃ config, Config.read env.loads (.ofStore (env.run dumpArgs).store)
        (some "[[defaults.symbols]]\n--log-level = 'INFO'\n") = .ok config ∧
      config.get? "generate" "--symbol" = some (.text "<s>") ∧
      config.get? "generate" "--seed" = some (.whole 7) ∧
      config.get? "symbols" "--log-level" = some (.text "INFO") := by
  intro store env
  let given : String := "[[defaults.symbols]]\n--log-level = 'INFO'\n"
  obtain ⟨document₁, hwrites₁, hvalues₁⟩ := Config.exists_writes given
    [("symbols", [("--log-level", .text "INFO")])] ⟨_, rfl, by decide +kernel⟩
  obtain ⟨document₂, hwrites₂, hvalues₂⟩ := Config.exists_writes overwrittenText
    [("generate", [("--symbol", .text "w")])] ⟨_, rfl, by decide +kernel⟩
  obtain ⟨document₃, hwrites₃, hvalues₃⟩ := Config.exists_writes homeText
    [("generate", [("--symbol", .text "h"), ("--seed", .whole 7)])] ⟨_, rfl, by decide +kernel⟩
  obtain ⟨document₄, hwrites₄, hvalues₄⟩ := Config.exists_writes Config.bundledText
    Config.bundledSections ⟨_, rfl, by decide +kernel⟩
  have hunique : env.loads.Unique := Toml.unique_loads
  let files : Config.Files := .ofStore env.store
  have hwork : Option.Rel Config.Reads files.work (some overwrittenText) :=
    .some (Config.reads_encode (by decide))
  have hhomeReads : Config.Reads (.bytes (Text.Utf8.encode homeText.toList)) homeText :=
    Config.reads_encode (by decide)
  have hhome : Option.Rel Config.Reads files.home (some homeText) := .some hhomeReads
  have hdocuments : List.Forall₂ (Config.Writes Toml.loads)
      (Config.presentTexts none (some overwrittenText) (some homeText))
      [document₂, document₃, document₄] :=
    .cons hwrites₂ (.cons hwrites₃ (.cons hwrites₄ .nil))
  obtain ⟨config, hread, -, hget⟩ :=
    Config.exists_config_of_writes Toml.unique_loads hwork hhome hdocuments
  simp only [List.findSome?_cons, hvalues₂, hvalues₃, hvalues₄] at hget
  have hwarning : config.default? Command.config.name "--log-level" = some (.text "WARNING") :=
    congrArg₂ Option.or (hget Command.config.name "--log-level") (hget "default" "--log-level")
  have hlevel : (Defaults.ofConfig config .config).level = .text "WARNING" :=
    congrArg (fun level => level.getD (.text "WARNING")) hwarning
  have hasks : env.Asks dumpArgs (.config (some Config.fileName)) false :=
    asks_dumpArgs hread (hlevel ▸ by decide)
  have hending : (env.run dumpArgs).ending = .exit success := by
    rw [hasks.run_eq, perform_dump, if_neg fun h => by cases h.1]
  refine ⟨⟨config, hread, hget "generate" "--symbol"⟩, hending, ?_⟩
  have hdirs : env.store.workDir ≠ env.store.homeDir := by decide
  obtain ⟨home, hhomeAfter, hall, -, hbundled⟩ := dump_pins_bundled hunique hdirs hread hending
  obtain ⟨haccepted, hvalues⟩ := hall (some given)
  obtain ⟨config', hread'⟩ := haccepted.mpr fun text htext => by
    obtain rfl := Option.some.inj htext
    exact ⟨document₁, hwrites₁⟩
  have hsame : home = some homeText := by
    cases hhomeAfter with
    | some hreads => rw [Except.ok.inj (hreads.symm.trans hhomeReads)]
  have hget' := hvalues config' hread'
  simp only [hsame, Option.bind_some, env, hwrites₁.valueFrom_eq, hwrites₃.valueFrom_eq,
    hbundled Config.readsBundled_loads, hvalues₁, hvalues₃] at hget'
  exact ⟨config', hread', hget' "generate" "--symbol", hget' "generate" "--seed",
    hget' "symbols" "--log-level"⟩

end Cli

end SentenceGen
