import SentenceGen.Proofs.Cli.SeededRuns
import SentenceGen.Proofs.Config.Merge
import SentenceGen.Proofs.Files.ConfigFiles

/-!
# Options that mask the configuration

A configuration has default values for the symbol, the number of sentences, pretty printing, the
seed and the log level. A command line of `generate` that gives all of these is read in the same way
whatever the configuration (`read_generate_cases`), and what it asks for comes from the file that it
names. So two runs of it in stores that differ only in their configuration files have the same
outcome (`options_mask_configuration`), as long as the file is found in the same way in both: a path
that leads through a configuration file, as `.grammargenrc/x` does, tells the two stores apart
(`path_tells_configuration`).
-/

namespace SentenceGen.Cli

variable {i : Interface} {g g' : Given} {file : String} {ws : List WrittenOption}

/-! ### What is found on the command line -/

/-- Nothing but the options is found where options are written out, up to something wrong. -/
theorem mem_scan_written {options : List OptionSpec} {operands : Operands}
    (hws : ∀ w ∈ ws, w.Fits options) {arguments : List Argument}
    (harguments : classifyAll options (wordsOf ws) = .ok arguments) {f : Finding}
    (hf : f ∈ scan options operands arguments) :
    (∃ e, f = .wrong e) ∨ ∃ w ∈ ws, f = .given w.option w.spelling w.value := by
  induction ws generalizing arguments with
  | nil =>
    obtain rfl := Except.ok.inj harguments
    rw [scan] at hf
    exact absurd hf List.not_mem_nil
  | cons w ws ih =>
    obtain ⟨hw, hws⟩ := List.forall_mem_cons.mp hws
    rw [wordsOf, List.flatMap_cons] at harguments
    rcases scan_written hw harguments operands with ⟨e, hscan⟩ | ⟨words, hwords, hscan⟩
    · rw [hscan, List.mem_singleton] at hf
      exact Or.inl ⟨e, hf⟩
    · rw [hscan, List.mem_cons] at hf
      rcases hf with rfl | hf
      · exact Or.inr ⟨w, List.mem_cons_self, rfl⟩
      · rcases ih hws hwords hf with hwrong | ⟨w', hmem, hgiven⟩
        · exact Or.inl hwrong
        · exact Or.inr ⟨w', List.mem_cons_of_mem w hmem, hgiven⟩

/-- A file that does not look like an option is found in front of options. -/
theorem findings_file (hi : i.operands = .file) (hfile : file.toList.head? ≠ some '-')
    (hws : ∀ w ∈ ws, w.Fits i.options) :
    (∃ e, i.findings (file :: wordsOf ws) = [.wrong e]) ∨
      ∃ words, classifyAll i.options (wordsOf ws) = .ok words ∧
        i.findings (file :: wordsOf ws) = .operands [file] :: scan i.options .nothing words := by
  have hdashes : file ≠ "--" := by
    rintro rfl
    exact hfile rfl
  have hoperand : classify i.options file = .ok .operand := by
    simp [classify, hfile]
  rw [Interface.findings, hi]
  split
  · exact Or.inl ⟨_, rfl⟩
  · rename_i arguments harguments
    obtain ⟨word, words, hword, hwords, rfl⟩ := exists_of_classifyAll hdashes harguments
    obtain rfl := Except.ok.inj (hoperand.symm.trans hword)
    refine Or.inr ⟨words, hwords, ?_⟩
    -- a `--` behind the file would be passed over with it, but an option stands there
    cases ws with
    | nil =>
      obtain rfl := Except.ok.inj hwords
      rfl
    | cons w ws =>
      have hw := hws w List.mem_cons_self
      rw [wordsOf_cons] at hwords
      obtain ⟨word, more, hword, -, rfl⟩ := exists_of_classifyAll hw.ne_dashes hwords
      obtain rfl := Except.ok.inj ((classify_spelling hw).symm.trans hword)
      rfl

/-- The help is told only to those who ask for it. -/
theorem collect_congr_help {findings : List Finding}
    (hfree : ∀ o spelling value, .given o spelling value ∈ findings → o.role ≠ .help)
    (help? help'? : Option String) :
    collect i help? g findings = collect i help'? g findings := by
  induction findings generalizing g with
  | nil => rfl
  | cons f findings ih =>
    have hrest : ∀ g, collect i help? g findings = collect i help'? g findings :=
      fun g => ih fun o spelling value hmem => hfree o spelling value (List.mem_cons_of_mem f hmem)
    cases f with
    | given o spelling value =>
      have hrole : o.role ≠ .help := hfree o spelling value List.mem_cons_self
      simp only [collect, if_neg hrole, hrest]
    | operands texts => exact hrest _
    | extra text => exact hrest _
    | wrong e => rfl

/-- A file in front of options that are written out: the help does not count, and the options are
taken one after the other, unless something is refused. -/
theorem collect_file (hi : i.operands = .file) (hfile : file.toList.head? ≠ some '-')
    (hws : ∀ w ∈ ws, w.Fits i.options) (help? help'? : Option String) :
    collect i help? .empty (i.findings (file :: wordsOf ws)) =
        collect i help'? .empty (i.findings (file :: wordsOf ws)) ∧
      ∀ g, collect i help? .empty (i.findings (file :: wordsOf ws)) = .ok g →
        { Given.empty with file := some file }.takeAll ws = .ok g := by
  rcases findings_file hi hfile hws with ⟨e, hfindings⟩ | ⟨words, hwords, hfindings⟩
  · rw [hfindings]
    exact ⟨rfl, fun g h => nomatch h⟩
  · rw [hfindings]
    refine ⟨?_, fun g h => takeAll_of_collect .nothing hws hwords h⟩
    refine collect_congr_help (fun o spelling value hmem => ?_) help? help'?
    rcases List.mem_cons.mp hmem with heq | hmem
    · cases heq
    · rcases mem_scan_written hws hwords hmem with ⟨e, heq⟩ | ⟨w, hw, heq⟩
      · cases heq
      · cases heq
        exact (hws w hw).not_help

/-! ### What the options settle -/

/-- Whether no default value is needed for an option with this role. -/
def Given.settles (g : Given) : Role → Bool
  | .symbol => g.symbol.isSome
  | .count => g.count.isSome
  | .pretty => g.pretty.isSome
  | .seed => g.seed.isSome
  | .logLevel => g.level.isSome
  | .help | .version | .tree | .output => true

theorem Given.settles_of_take {o : OptionSpec} {spelling value : String}
    (h : g.take o spelling value = .ok g') :
    g'.settles o.role = true ∧ ∀ role, g.settles role = true → g'.settles role = true := by
  unfold Given.take at h
  split at h
  case h_2 | h_5 =>
    obtain ⟨n, -, rfl⟩ := exists_of_map_eq_ok h
    refine ⟨by simp [settles, *], fun role hrole => ?_⟩
    cases role <;> first | rfl | exact hrole
  case h_6 =>
    split at h
    · obtain rfl := Except.ok.inj h
      refine ⟨by simp [settles, *], fun role hrole => ?_⟩
      cases role <;> first | rfl | exact hrole
    · cases h
  all_goals
    obtain rfl := Except.ok.inj h
    refine ⟨by simp [settles, *], fun role hrole => ?_⟩
    cases role <;> first | rfl | exact hrole

/-- Options settle their roles, and what is settled stays so. -/
theorem Given.settles_of_takeAll (h : g.takeAll ws = .ok g') :
    (∀ w ∈ ws, g'.settles w.option.role = true) ∧
      ∀ role, g.settles role = true → g'.settles role = true := by
  induction ws generalizing g with
  | nil =>
    obtain rfl := Except.ok.inj h
    exact ⟨fun w hw => absurd hw List.not_mem_nil, fun role => id⟩
  | cons w ws ih =>
    obtain ⟨g₁, htake, h⟩ := exists_of_takeAll_cons h
    obtain ⟨hw, hkept₁⟩ := settles_of_take htake
    obtain ⟨hws, hkept⟩ := ih h
    exact ⟨List.forall_mem_cons.mpr ⟨hkept _ hw, hws⟩, fun role hrole => hkept _ (hkept₁ _ hrole)⟩

/-- The roles for which there are default values. -/
def defaultedRoles : List Role :=
  [.symbol, .count, .pretty, .seed, .logLevel]

/-- Where everything is settled, nothing is left to the default values. -/
theorem request_of_settles (h : ∀ role ∈ defaultedRoles, g.settles role = true)
    (hfile : g.file = some file) :
    ∃ (symbol : String) (count : Int) (pretty : Bool) (seed : Int) (level : String),
      g.level = some level ∧ ∀ d, Command.generate.request d g = .ok (.generate
        ⟨file, some (.text symbol), .whole count, g.tree, prettyLayout pretty,
          some (.whole seed)⟩) := by
  obtain ⟨f, symbol, count, tree, pretty, seed, level, output, extras⟩ := g
  obtain rfl : f = some file := hfile
  simp only [defaultedRoles, List.forall_mem_cons, Given.settles, Option.isSome_iff_exists] at h
  obtain ⟨⟨symbol, rfl⟩, ⟨count, rfl⟩, ⟨pretty, rfl⟩, ⟨seed, rfl⟩, ⟨level, rfl⟩, -⟩ := h
  exact ⟨symbol, count, pretty, seed, level, rfl, fun d => rfl⟩

/-- **Options that settle everything are read in the same way whatever the configuration**: they are
refused, or sentences are asked for from the file in front of them, with a seed. -/
theorem read_generate_cases (hfile : file.toList.head? ≠ some '-')
    (hws : ∀ w ∈ ws, w.Fits Command.generate.interface.options)
    (hroles : ∀ role ∈ defaultedRoles, ∃ w ∈ ws, w.option.role = role) :
    (∃ refusal, ∀ config, Command.generate.read config (file :: wordsOf ws) = .error refusal) ∨
      ∃ (r : GenerateRequest) (level : OptionValue) (left : List String),
        r.file = file ∧ (∃ seed, r.seed = some (.whole seed)) ∧ ∀ config,
          Command.generate.read config (file :: wordsOf ws) = .ok (⟨.generate r, level⟩, left) := by
  let i := Command.generate.interface
  -- the same is collected with any help
  have hcollect := fun help? => (collect_file (i := i) rfl hfile hws help? none).1
  obtain ⟨-, htake⟩ := collect_file (i := i) rfl hfile hws none none
  cases hcollected : collect i none .empty (i.findings (file :: wordsOf ws)) with
  | error refusal =>
    refine Or.inl ⟨refusal, fun config => ?_⟩
    rw [Command.read, hcollect, hcollected]
    rfl
  | ok g =>
    have htaken := htake g hcollected
    have hsettles : ∀ role ∈ defaultedRoles, g.settles role = true := by
      intro role hrole
      obtain ⟨w, hw, rfl⟩ := hroles role hrole
      exact (Given.settles_of_takeAll htaken).1 w hw
    obtain ⟨symbol, count, pretty, seed, level, hlevel, hrequest⟩ :=
      request_of_settles hsettles (Given.takeAll_eq_ok htaken).1
    let r : GenerateRequest :=
      ⟨file, some (.text symbol), .whole count, g.tree, prettyLayout pretty, some (.whole seed)⟩
    refine Or.inr ⟨r, .text level, g.extras, rfl, ⟨seed, rfl⟩, fun config => ?_⟩
    rw [Command.read, hcollect, hcollected]
    change ((Command.generate.request _ g).mapError i.refuse).bind _ = _
    rw [hrequest, hlevel]
    rfl

/-! ### Two runs -/

/-- With a seed, nothing is left to chance. -/
theorem GenerateRequest.run_of_seed {r : GenerateRequest} {seed : Int}
    (hseed : r.seed = some (.whole seed)) (limits : Limits) (entropy entropy' : Nat)
    (loaded : Except LoadError Grammar) :
    r.run limits entropy loaded = r.run limits entropy' loaded := by
  have hsource : sourceOf entropy r.seed = sourceOf entropy' r.seed := by
    rw [hseed]
    rfl
  have hwith : r.runWith limits entropy = r.runWith limits entropy' := by
    funext g
    rw [runWith, runWith, hsource]
  rw [run, run, hwith]

/-- **The options on the command line mask the configuration.** Let two stores be the same but for
their configuration files, and let both configurations be accepted, whatever values they have. A
command line of `generate` gives the symbol, the number of sentences, the seed, the log level and
pretty printing, in any order, with a file that does not look like an option and keeps clear of the
configuration files. Then its runs in the two stores end alike and write the same to the output and
to the error stream, and neither changes its store. -/
theorem options_mask_configuration {env env' : Environment} {config config' : Config}
    (hlimits : env'.limits = env.limits) (hsame : env.store.SameBesidesConfig env'.store)
    (hconfig : Config.read env.loads (.ofStore env.store) none = .ok config)
    (hconfig' : Config.read env'.loads (.ofStore env'.store) none = .ok config')
    (hfile : file.toList.head? ≠ some '-')
    (hclear : env.store.KeepsClear env'.store (Path.tidy file))
    (hws : ∀ w ∈ ws, w.Fits Command.generate.interface.options)
    (hroles : ∀ role ∈ defaultedRoles, ∃ w ∈ ws, w.option.role = role) :
    (env'.run (Command.generate.line file ws)).ending =
        (env.run (Command.generate.line file ws)).ending ∧
      (env'.run (Command.generate.line file ws)).output =
        (env.run (Command.generate.line file ws)).output ∧
      (env'.run (Command.generate.line file ws)).errors =
        (env.run (Command.generate.line file ws)).errors ∧
      (env.run (Command.generate.line file ws)).store = env.store ∧
      (env'.run (Command.generate.line file ws)).store = env'.store := by
  have hcases := read_generate_cases hfile hws hroles
  have hread : Command.generate.read config' (file :: wordsOf ws) =
      Command.generate.read config (file :: wordsOf ws) := by
    rcases hcases with ⟨refusal, hread⟩ | ⟨r, level, left, -, -, hread⟩
    all_goals rw [hread, hread]
  have hprepare : prepare (.ok config') (Command.generate.line file ws) =
      prepare (.ok config) (Command.generate.line file ws) := by
    rw [Command.line, prepare, prepare, request_congr hread]
  cases hprepared : prepare (.ok config) (Command.generate.line file ws) with
  | error shown =>
    have hrun : env.run (Command.generate.line file ws) =
        ⟨shown.1, false, shown.2, env.store⟩ := by
      rw [Environment.run, hconfig, hprepared]
    have hrun' : env'.run (Command.generate.line file ws) =
        ⟨shown.1, false, shown.2, env'.store⟩ := by
      rw [Environment.run, hconfig', hprepare, hprepared]
    rw [hrun, hrun']
    exact ⟨rfl, rfl, rfl, rfl, rfl⟩
  | ok asked =>
    obtain ⟨request, debug⟩ := asked
    have hasks : env.Asks (Command.generate.line file ws) request debug := by
      rw [Environment.Asks, hconfig, hprepared]
    have hasks' : env'.Asks (Command.generate.line file ws) request debug := by
      rw [Environment.Asks, hconfig', hprepare, hprepared]
    obtain ⟨_, inv, heq, hrequest, rfl, -⟩ := exists_of_prepare_eq_ok hprepared
    obtain rfl := Except.ok.inj heq
    have hinv := read_of_request hrequest
    rcases hcases with ⟨refusal, hrefused⟩ | ⟨r, level, left, rfl, ⟨seed, hseed⟩, hgiven⟩
    · rw [hrefused] at hinv
      cases hinv
    · rw [hgiven] at hinv
      obtain ⟨rfl, -⟩ := Prod.mk.inj (Except.ok.inj hinv)
      have hload : Grammar.load env'.store r.file = Grammar.load env.store r.file :=
        Grammar.load_eq hsame hclear
      rw [hasks.run_eq, hasks'.run_eq, Environment.perform, Environment.perform, hload, hlimits,
        GenerateRequest.run_of_seed hseed env.limits env'.entropy env.entropy]
      exact ⟨rfl, rfl, rfl, rfl, rfl⟩

/-! ### Two configurations for one command line -/

/-- Options that settle everything. -/
def settlingOptions : List WrittenOption :=
  [⟨symbolOption, "-s", some "<s>"⟩, ⟨countOption, "-n", some "1"⟩,
    ⟨seedOption, "--seed", some "1"⟩, ⟨logLevelOption, "-l", some "ERROR"⟩,
    ⟨prettyOption, "--no-pretty-print", none⟩]

theorem fits_settlingOptions :
    ∀ w ∈ settlingOptions, w.Fits Command.generate.interface.options := by
  simp only [settlingOptions, List.forall_mem_cons]
  exact ⟨⟨rfl, rfl, by decide, by decide, rfl⟩, ⟨rfl, rfl, by decide, by decide, rfl⟩,
    ⟨rfl, rfl, by decide, by decide, rfl⟩, ⟨rfl, rfl, by decide, by decide, rfl⟩,
    ⟨rfl, rfl, by decide, by decide, rfl⟩, fun w hw => absurd hw List.not_mem_nil⟩

/-- The text of a configuration with values that the options cannot have. -/
def oddText : String :=
  "[[defaults.generate]]
--symbol = 7
--num-sentences = 1.5
--pretty-print = \"\"
--seed = \"x\"
--log-level = \"LOUD\"
"

set_option maxRecDepth 100000 in
/-- Values that the options cannot have, and the same run without them. -/
theorem options_mask_configuration_odd :
    let store : Store := .single "<s>::=a\n"
    let store' := store.put (store.workDir ++ [Config.fileName]) (Text.Utf8.encode oddText.toList)
    let env : Environment := ⟨Toml.loads, .usual, store, "", 0⟩
    let env' : Environment := ⟨Toml.loads, .usual, store', "", 0⟩
    let args := Command.generate.line "g" settlingOptions
    (∃ config, Config.read env'.loads (.ofStore env'.store) none = .ok config ∧
        config.default? "generate" "--num-sentences" =
          some (.real (.finite false 0x18000000000000 (-52))) ∧
        config.default? "generate" "--log-level" = some (.text "LOUD")) ∧
      (env'.run args).ending = (env.run args).ending ∧
      (env'.run args).output = (env.run args).output := by
  intro store store' env env' args
  let sections : Sections :=
    [("generate", [("--symbol", .whole 7),
      ("--num-sentences", .real (.finite false 0x18000000000000 (-52))),
      ("--pretty-print", .text ""), ("--seed", .text "x"), ("--log-level", .text "LOUD")])]
  have hfiles : Config.Files.ofStore env'.store =
      ⟨some (.bytes (Text.Utf8.encode oddText.toList)), none⟩ :=
    store.ofStore_put_workDir (by decide) _
  have hconfig : Config.read env.loads (.ofStore env.store) none =
      .ok ⟨Config.bundledSections⟩ :=
    Config.read_bundled Config.readsBundled_loads
  have hconfig' : Config.read env'.loads (.ofStore env'.store) none =
      .ok ⟨[sections, Config.bundledSections].foldl mergeSections []⟩ := by
    rw [hfiles]
    exact Config.read_of_work ⟨_, rfl, by decide +kernel, by decide +kernel⟩
  have hsame : env.store.SameBesidesConfig env'.store := .put List.mem_cons_self _
  have hclear : env.store.KeepsClear env'.store (Path.tidy "g") := .of_not_mem (by decide +kernel)
  have hlimits : env'.limits = env.limits := rfl
  obtain ⟨hending, houtput, -⟩ := options_mask_configuration hlimits hsame hconfig hconfig'
    (by decide) hclear fits_settlingOptions (by decide)
  exact ⟨⟨_, hconfig', by decide, by decide⟩, hending, houtput⟩

set_option maxRecDepth 100000 in
/-- **A path through a configuration file tells whether there is one.** The path `.grammargenrc/x`
is that of a configuration file in neither of two stores, of which one has nothing in it and the
other only the bundled text in `.grammargenrc`, and both configurations are the same. But the file
is refused for another reason. -/
theorem path_tells_configuration :
    let store : Store := ⟨[], [], ["w"], ["h"]⟩
    let store' := store.put (store.workDir ++ [Config.fileName])
      (Text.Utf8.encode Config.bundledText.toList)
    let env : Environment := ⟨Toml.loads, .usual, store, "", 0⟩
    let env' : Environment := ⟨Toml.loads, .usual, store', "", 0⟩
    let args := Command.generate.line ".grammargenrc/x" settlingOptions
    store.SameBesidesConfig store' ∧
      Config.read Toml.loads (.ofStore store) none = .ok ⟨Config.bundledSections⟩ ∧
      Config.read Toml.loads (.ofStore store') none = .ok ⟨Config.bundledSections⟩ ∧
      Grammar.load store ".grammargenrc/x" = .error (.refused ⟨.notFound, ".grammargenrc/x"⟩) ∧
      Grammar.load store' ".grammargenrc/x" =
        .error (.refused ⟨.notDirectory, ".grammargenrc/x"⟩) ∧
      (env'.run args).errors ≠ (env.run args).errors := by
  intro store store' env env' args
  have hfiles : Config.Files.ofStore store' =
      ⟨some (.bytes (Text.Utf8.encode Config.bundledText.toList)), none⟩ :=
    store.ofStore_put_workDir (by decide) _
  have hconfig : Config.read Toml.loads (.ofStore store) none = .ok ⟨Config.bundledSections⟩ :=
    Config.read_bundled Config.readsBundled_loads
  have hconfig' : Config.read Toml.loads (.ofStore store') none = .ok ⟨Config.bundledSections⟩ := by
    have hmerge : [Config.bundledSections, Config.bundledSections].foldl mergeSections [] =
        Config.bundledSections := by decide
    rw [hfiles, ← hmerge]
    exact Config.read_of_work ⟨_, rfl, by decide +kernel, by decide +kernel⟩
  have hload : Grammar.load store ".grammargenrc/x" =
      .error (.refused ⟨.notFound, ".grammargenrc/x"⟩) := by decide +kernel
  have hload' : Grammar.load store' ".grammargenrc/x" =
      .error (.refused ⟨.notDirectory, ".grammargenrc/x"⟩) := by decide +kernel
  let r : GenerateRequest := ⟨".grammargenrc/x", some (.text "<s>"), .whole 1, false, .compact,
    some (.whole 1)⟩
  have hprepare : prepare (.ok ⟨Config.bundledSections⟩) args = .ok (.generate r, false) := by
    decide +kernel
  have hasks : env.Asks args (.generate r) false := by
    rw [Environment.Asks, hconfig, hprepare]
  have hasks' : env'.Asks args (.generate r) false := by
    rw [Environment.Asks, hconfig', hprepare]
  refine ⟨.put List.mem_cons_self _, hconfig, hconfig', hload, hload', ?_⟩
  rw [hasks.run_eq, hasks'.run_eq, Environment.perform, Environment.perform, hload, hload']
  decide +kernel

end SentenceGen.Cli
