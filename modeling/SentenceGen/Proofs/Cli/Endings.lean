import SentenceGen.Proofs.Cli.Outcomes
import SentenceGen.Proofs.Cli.SessionEnd
import SentenceGen.Proofs.Config.Merge
import SentenceGen.Proofs.Files.ConfigFiles

/-!
# Endings with an accepted configuration

A configuration may be accepted and still hold default values that a run does not deal with. There
are three of them: a log level that is none, at which every run ends that is not refused before and
gives no level itself; a fraction as the number of sentences, at which `generate` ends when it comes
to the first one; and an integer with too many digits, at which a run ends where it is to be shown,
in the help of a command or in a complaint. Whatever else the configuration, the files, the
arguments and the input are, a run that does not write the configuration to a file ends well, with a
usage error or with a data error, unless there is no room for what it nests or a path holds a NUL
(`ending_of_accepted_configuration`).
-/

namespace SentenceGen.Cli

variable {config : Config} {c : Command} {d : Defaults} {g : Given} {r : Request}
  {args words : List String}

/-! ### What is asked for -/

/-- The value of an option that a number stands for. -/
def Quantity.asValue : Quantity → OptionValue
  | .whole n => .whole n
  | .real x => .real x

/-- A number is an integer that can be written, or a default value. -/
theorem cases_of_quantityOr {o : OptionSpec} {given : Option Int} {default : OptionValue}
    {q : Quantity} (hgiven : ∀ n, given = some n → Text.isWritable n = true)
    (h : quantityOr o given default = .ok q) :
    (∃ n, q = .whole n ∧ Text.isWritable n = true) ∨ default = q.asValue := by
  unfold quantityOr at h
  split at h
  · obtain rfl := Except.ok.inj h
    exact Or.inl ⟨_, rfl, hgiven _ rfl⟩
  · obtain ⟨n, hread, rfl⟩ := exists_of_map_eq_ok h
    exact Or.inl ⟨n, rfl, isWritable_of_readInteger hread⟩
  · obtain rfl := Except.ok.inj h
    exact Or.inr rfl
  · obtain rfl := Except.ok.inj h
    refine Or.inl ⟨_, rfl, ?_⟩
    split <;> decide +kernel
  · obtain rfl := Except.ok.inj h
    exact Or.inr rfl

theorem eq_some_of_requireFile {file : Option String} {path : String}
    (h : requireFile file = .ok path) : file = some path := by
  cases file with
  | none => cases h
  | some path' => rw [show path' = path from Except.ok.inj h]

/-- What a command can ask for: sentences, a listing or a session, each of a file that is given, or
the configuration. The number of sentences is an integer that can be written, or a default value; a
symbol that is no text is a default value. -/
inductive AskedFor (d : Defaults) (g : Given) : Command → Request → Prop
  | generate {r : GenerateRequest} (hfile : g.file = some r.file)
      (hcount : (∃ n, r.count = .whole n ∧ Text.isWritable n = true) ∨ d.count = r.count.asValue)
      (hsymbol : (∃ symbol, r.symbol = some (.text symbol)) ∨ r.symbol = d.symbol) :
      AskedFor d g .generate (.generate r)
  | symbols {file : String} (hfile : g.file = some file) : AskedFor d g .symbols (.symbols file)
  | interactive {file : String} (seed : Option Quantity) (hfile : g.file = some file) :
      AskedFor d g .interactive (.interactive file seed)
  | config (output : Option String) : AskedFor d g .config (.config output)

theorem askedFor_of_request (hgiven : ∀ n, g.count = some n → Text.isWritable n = true)
    (h : c.request d g = .ok r) : AskedFor d g c r := by
  cases c with
  | generate =>
    obtain ⟨count, hcount, h⟩ := exists_of_bind_eq_ok h
    obtain ⟨seed, -, h⟩ := exists_of_bind_eq_ok h
    obtain ⟨file, hfile, h⟩ := exists_of_bind_eq_ok h
    obtain rfl := Except.ok.inj h
    refine .generate (eq_some_of_requireFile hfile) (cases_of_quantityOr hgiven hcount) ?_
    cases g.symbol with
    | none => exact Or.inr rfl
    | some symbol => exact Or.inl ⟨symbol, rfl⟩
  | symbols =>
    obtain ⟨file, hfile, h⟩ := exists_of_bind_eq_ok h
    obtain rfl := Except.ok.inj h
    exact .symbols (eq_some_of_requireFile hfile)
  | interactive =>
    obtain ⟨seed, -, h⟩ := exists_of_bind_eq_ok h
    obtain ⟨file, hfile, h⟩ := exists_of_bind_eq_ok h
    obtain rfl := Except.ok.inj h
    exact .interactive seed (eq_some_of_requireFile hfile)
  | config =>
    obtain rfl := Except.ok.inj h
    exact .config g.output

/-- **What is read of arguments** asks for something of a file among them, at a log level that there
is or at the one that is configured. -/
theorem exists_askedFor_of_read {inv : Invocation} {left : List String}
    (h : c.read config words = .ok (inv, left)) :
    ∃ g : Given, AskedFor (.ofConfig config c) g c inv.request ∧
      (∀ file, g.file = some file → file ∈ words) ∧
      ((∃ level ∈ logLevels, inv.level = .text level) ∨
        inv.level = (Defaults.ofConfig config c).level) := by
  obtain ⟨g, hcollect, h⟩ := exists_of_bind_eq_ok h
  obtain ⟨r, hrequest, h⟩ := exists_of_bind_eq_ok h
  obtain ⟨rfl, -⟩ := Prod.mk.inj (Except.ok.inj h)
  have hasked := askedFor_of_request (isWritable_of_collect hcollect) (eq_ok_of_mapError hrequest)
  refine ⟨g, hasked, fun file hfile => ?_, ?_⟩
  · obtain ⟨texts, hoperands, hmem⟩ := exists_operands_of_collect hcollect file hfile
    exact subset_of_operands_mem_findings hoperands hmem
  · cases hlevel : g.level with
    | none => exact Or.inr rfl
    | some level =>
      exact Or.inl ⟨level, level_of_collect hcollect level hlevel, rfl⟩

theorem showsDebug?_of_mem {level : String} (h : level ∈ logLevels) :
    ∃ debug, showsDebug? (.text level) = some debug :=
  ⟨_, if_pos (List.contains_iff_mem.mpr h)⟩

/-! ### Default values that cannot be written -/

/-- The options that have default values in a configuration. -/
def defaultedOptions : List String :=
  ["--symbol", "--num-sentences", "--pretty-print", "--seed", "--log-level"]

/-- Only an integer with too many digits cannot be shown. -/
theorem displayOptional?_eq_none_iff {v : Option OptionValue} :
    displayOptional? v = none ↔ ∃ n, v = some (.whole n) ∧ Text.isWritable n = false := by
  rcases v with - | s | n | x | b
  case some.whole =>
    simp [displayOptional?, OptionValue.display?, Text.decimal?_eq_none_iff]
  all_goals simp [displayOptional?, OptionValue.display?]

/-- **The help of a command cannot be written** exactly if it tells a default value that is an
integer with too many digits. -/
theorem help?_eq_none_iff : c.help? d = none ↔ ∃ o ∈ c.interface.options, ∃ n,
    d.told? o.role = some (some (.whole n)) ∧ Text.isWritable n = false := by
  have hshown : ∀ o : OptionSpec, ((d.told? o.role).isNone ||
      ((d.told? o.role).bind displayOptional?).isSome) = false ↔
        ∃ n, d.told? o.role = some (some (.whole n)) ∧ Text.isWritable n = false := by
    intro o
    cases d.told? o.role with
    | none => simp
    | some v => simp [displayOptional?_eq_none_iff]
  simp only [Command.help?, ite_eq_right_iff, reduceCtorEq, imp_false, Bool.not_eq_true,
    List.all_eq_false, hshown]

theorem eq_some_of_getD {α : Type} {o : Option α} {a default : α} (h : o.getD default = a)
    (hne : default ≠ a) : o = some a := by
  cases o with
  | none => exact absurd h hne
  | some b => rw [show b = a from h]

/-- A default value with too many digits is one that is configured. -/
theorem exists_default_of_told? {role : Role} {n : Int}
    (h : (Defaults.ofConfig config c).told? role = some (some (.whole n)))
    (hn : Text.isWritable n = false) :
    ∃ option ∈ defaultedOptions, config.default? c.name option = some (.whole n) := by
  cases role with
  | symbol => exact ⟨"--symbol", by decide, Option.some.inj h⟩
  | count =>
    refine ⟨"--num-sentences", by decide, eq_some_of_getD (Option.some.inj (Option.some.inj h)) ?_⟩
    -- the number one can be written
    rintro hone
    obtain rfl := OptionValue.whole.inj hone
    exact absurd hn (by decide +kernel)
  | pretty =>
    exact ⟨"--pretty-print", by decide,
      eq_some_of_getD (Option.some.inj (Option.some.inj h)) OptionValue.noConfusion⟩
  | seed => exact ⟨"--seed", by decide, Option.some.inj h⟩
  | logLevel =>
    exact ⟨"--log-level", by decide,
      eq_some_of_getD (Option.some.inj (Option.some.inj h)) OptionValue.noConfusion⟩
  | tree | output | help | version => cases h

/-! ### Endings of what is asked for -/

/-- How a run can end with an accepted configuration: in one of three exit codes; where it nests too
deep; at a default value that is configured for its command; or at a path with a NUL among its
arguments. -/
inductive Expected (config : Config) (args : List String) : Ending → Prop
  | success : Expected config args (.exit success)
  | usageError : Expected config args (.exit usageError)
  | dataError : Expected config args (.exit dataError)
  | tooDeep : Expected config args (.fault (.derivation .tooDeep))
  | unknownLevel {c : Command} (hc : c.name ∈ args) {level : OptionValue}
      (hlevel : config.default? c.name "--log-level" = some level)
      (hunknown : showsDebug? level = none) : Expected config args (.fault (.unknownLevel level))
  | fractionalCount (hc : Command.generate.name ∈ args) {x : Binary64}
      (hcount : config.default? Command.generate.name "--num-sentences" = some (.real x)) :
      Expected config args (.fault .fractionalCount)
  | tooManyDigits {c : Command} (hc : c.name ∈ args) {option : String}
      (hoption : option ∈ defaultedOptions) {n : Int}
      (hconfigured : config.default? c.name option = some (.whole n))
      (hn : Text.isWritable n = false) : Expected config args (.fault .tooManyDigits)
  | nulInPath {path : String} (hpath : path ∈ args) (hnul : Path.hasNul path = true) :
      Expected config args (.fault .nulInPath)

/-- A default value with too many digits is expected to be a fault where it is to be shown. -/
theorem Expected.of_told? (hc : c.name ∈ args) {role : Role} {n : Int}
    (htold : (Defaults.ofConfig config c).told? role = some (some (.whole n)))
    (hn : Text.isWritable n = false) : Expected config args (.fault .tooManyDigits) := by
  obtain ⟨option, hoption, hconfigured⟩ := exists_default_of_told? htold hn
  exact .tooManyDigits hc hoption hconfigured hn

/-- Nothing but a NUL in a path keeps it from being tried. -/
theorem hasNul_of_load {store : Store} {path : String}
    (h : Grammar.load store path = .error .nulInPath) : Path.hasNul path = true := by
  by_contra hnul
  rw [Grammar.load, if_neg hnul, Grammar.ofAnswer] at h
  rcases of_bind_eq_error h with hrefused | ⟨bytes, -, h⟩
  · obtain ⟨e, -, he⟩ := exists_of_mapError_eq_error hrefused
    cases he
  · rcases of_bind_eq_error h with hundecodable | ⟨text, -, h⟩
    · obtain ⟨e, -, he⟩ := exists_of_mapError_eq_error hundecodable
      cases he
    · obtain ⟨e, -, he⟩ := exists_of_mapError_eq_error h
      cases he

/-- A file that is no grammar is a data error, unless its path holds a NUL. -/
theorem expected_withGrammar {store : Store} {file : String} (hfile : file ∈ args)
    {next : Grammar → List Event × Ending}
    (hnext : ∀ g : Grammar, g.WellFormed → Expected config args (next g).2) :
    Expected config args (withGrammar c file (Grammar.load store file) next).2 := by
  cases hload : Grammar.load store file with
  | ok g => exact hnext g (Grammar.wellFormed_of_load hload)
  | error e =>
    rcases e with - | e | fault | e
    · exact .nulInPath hfile (hasNul_of_load hload)
    · exact .dataError
    · exact .dataError
    · exact .dataError

theorem of_requestedSymbol {g : Grammar} {v : Option OptionValue} {symbol : String}
    (h : requestedSymbol g v = .ok symbol) :
    v = some (.text symbol) ∧ g.defines symbol = true := by
  unfold requestedSymbol at h
  split at h
  · split at h
    · rename_i hdefined
      obtain rfl := Except.ok.inj h
      exact ⟨rfl, (Bool.and_eq_true_iff.mp hdefined).2⟩
    · cases h
  · cases h

/-- A symbol that is refused without a complaint is one that cannot be written. -/
theorem exists_of_requestedSymbol {g : Grammar} {v : Option OptionValue}
    (h : requestedSymbol g v = .error none) :
    ∃ n, v = some (.whole n) ∧ Text.isWritable n = false := by
  unfold requestedSymbol at h
  split at h
  · split at h
    · cases h
    · cases Except.error.inj h
  · exact displayOptional?_eq_none_iff.mp (Option.map_eq_none_iff.mp (Except.error.inj h))

/-- A complaint is a usage error, if it can be written. -/
theorem expected_refuseGenerate {complaint? : Option Complaint}
    (h : complaint? = none → Expected config args (.fault .tooManyDigits)) :
    Expected config args (refuseGenerate complaint?).2 := by
  cases complaint? with
  | none => exact h rfl
  | some complaint => exact .usageError

theorem GenerateRequest.expected_run {r : GenerateRequest} {store : Store} (hfile : r.file ∈ args)
    (hreal : ∀ x, r.count = .real x → Expected config args (.fault .fractionalCount))
    (hcount : ∀ n, r.count = .whole n → Text.isWritable n = false →
      Expected config args (.fault .tooManyDigits))
    (hsymbol : ∀ n, r.symbol = some (.whole n) → Text.isWritable n = false →
      Expected config args (.fault .tooManyDigits))
    (limits : Limits) (entropy : Nat) :
    Expected config args (r.run limits entropy (Grammar.load store r.file)).2 := by
  rw [run]
  split
  · refine expected_refuseGenerate fun hnone => ?_
    have hdisplay := Option.map_eq_none_iff.mp hnone
    cases hnumber : r.count with
    | whole n =>
      rw [hnumber, Quantity.display?, Text.decimal?_eq_none_iff] at hdisplay
      exact hcount n hnumber hdisplay
    | real x =>
      rw [hnumber] at hdisplay
      cases hdisplay
  · rename_i hnonneg
    refine expected_withGrammar hfile fun g hg => ?_
    cases hrequested : requestedSymbol g r.symbol with
    | error complaint? =>
      rw [runWith, hrequested]
      refine expected_refuseGenerate fun hnone => ?_
      obtain ⟨n, hvalue, hn⟩ := exists_of_requestedSymbol (hnone ▸ hrequested)
      exact hsymbol n hvalue hn
    | ok symbol =>
      obtain ⟨hsymbol, hdefined⟩ := of_requestedSymbol hrequested
      rcases hnumber : r.count with n | x
      · -- a number that is not negative, as for a run that was not refused
        obtain ⟨n, rfl⟩ : ∃ m : Nat, n = m := by
          refine Int.eq_ofNat_of_zero_le (not_lt.mp fun hn => hnonneg ?_)
          simp [hnumber, Quantity.isNegative, hn]
        have hrun : r.run limits entropy (.ok g) = _ := run_of_nonneg hnumber entropy (.ok g)
        rcases run_of_defines hg hnumber hsymbol hdefined limits entropy with
          ⟨events, hall, -⟩ | ⟨hdeep, -⟩
        · rw [hrun] at hall
          have hending : (r.runWith limits entropy g).2 = .exit success := congrArg Prod.snd hall
          rw [hending]
          exact .success
        · rw [hrun] at hdeep
          have hending : (r.runWith limits entropy g).2 = .fault (.derivation .tooDeep) := hdeep
          rw [hending]
          exact .tooDeep
      · rw [runWith, hrequested, hnumber]
        exact hreal x hnumber

/-- **What is asked for ends as expected**, unless it is to write the configuration to a file. -/
theorem Environment.expected_perform (env : Environment)
    (h : AskedFor (.ofConfig config c) g c r) (hc : c.name ∈ args)
    (hfile : ∀ file, g.file = some file → file ∈ args) (hdump : ∀ output, r ≠ .config output) :
    Expected config args (env.perform r).2.1 := by
  rcases h with ⟨hgiven, hcount, hsymbol⟩ | @⟨file, hgiven⟩ | @⟨file, seed, hgiven⟩ | output
  · refine GenerateRequest.expected_run (hfile _ hgiven) (fun x hx => ?_) (fun n hn hlong => ?_)
      (fun n hn hlong => ?_) env.limits env.entropy
    · rcases hcount with ⟨m, hm, -⟩ | hdefault
      · rw [hx] at hm
        cases hm
      · rw [hx] at hdefault
        exact .fractionalCount hc (eq_some_of_getD hdefault OptionValue.noConfusion)
    · rcases hcount with ⟨m, hm, hwritable⟩ | hdefault
      · obtain rfl := Quantity.whole.inj (hn.symm.trans hm)
        rw [hlong] at hwritable
        cases hwritable
      · have htold : (Defaults.ofConfig config .generate).told? .count =
            some (some (.whole n)) := by
          rw [Defaults.told?, hdefault, hn, Quantity.asValue]
        exact .of_told? hc htold hlong
    · rcases hsymbol with ⟨symbol, htext⟩ | hdefault
      · rw [hn] at htext
        cases htext
      · have htold : (Defaults.ofConfig config .generate).told? .symbol =
            some (some (.whole n)) := by
          rw [Defaults.told?, ← hdefault, hn]
        exact .of_told? hc htold hlong
  · change Expected config args (runSymbols file (Grammar.load env.store file)).2
    exact expected_withGrammar (hfile file hgiven) fun g hg => .success
  · change Expected config args
      (runInteractive file seed env.limits.depth env.entropy _ (Grammar.load env.store file)).2
    refine expected_withGrammar (hfile file hgiven) fun g hg => ?_
    obtain ⟨t, ht⟩ : ∃ t, sourceOf env.entropy seed = .twister t := ⟨_, rfl⟩
    change Expected config args
      (Session.run g env.limits.depth (sourceOf env.entropy seed) (Text.typedLines env.input)).2
    rw [ht]
    rcases Session.ending_run_cases hg t (Text.typedLines env.input) with hsuccess | hdeep
    · rw [hsuccess]
      exact .success
    · rw [hdeep]
      exact .tooDeep
  · exact absurd rfl (hdump output)

/-- The endings that are announced, and that where there is no room. -/
def announcedEndings : List Ending :=
  [.exit success, .exit usageError, .exit dataError, .fault (.derivation .tooDeep)]

/-- A level that is none and is not given is the one that is configured. -/
theorem expected_unknownLevel {level : OptionValue} (hc : c.name ∈ args)
    (hlevel : (∃ given ∈ logLevels, level = .text given) ∨
      level = (Defaults.ofConfig config c).level) (hunknown : showsDebug? level = none) :
    Expected config args (.fault (.unknownLevel level)) := by
  rcases hlevel with ⟨given, hmem, rfl⟩ | hdefault
  · obtain ⟨debug, hdebug⟩ := showsDebug?_of_mem hmem
    rw [hdebug] at hunknown
    cases hunknown
  · have hvalue : level = (config.default? c.name "--log-level").getD (.text "WARNING") := hdefault
    cases hconfigured : config.default? c.name "--log-level" with
    | none =>
      obtain rfl : level = .text "WARNING" := by rw [hvalue, hconfigured, Option.getD_none]
      exact absurd hunknown (by decide)
    | some value =>
      obtain rfl : level = value := by rw [hvalue, hconfigured, Option.getD_some]
      exact .unknownLevel hc hconfigured hunknown

/-- Arguments that ask for nothing end a run well or with a usage error, unless they ask for help
that cannot be written. -/
theorem expected_refusal {refusal : Refusal} (h : request config args = .error refusal) :
    Expected config args refusal.ending := by
  rcases usual_of_request h with text | @⟨c, hc⟩ | - | ⟨i, e⟩ | -
  · exact .success
  · cases hhelp : c.help? (.ofConfig config c) with
    | none =>
      obtain ⟨o, -, n, htold, hn⟩ := help?_eq_none_iff.mp hhelp
      exact .of_told? hc htold hn
    | some text => exact .success
  · exact .success
  · exact .usageError
  · exact .usageError

/-- **A run ends as expected**, whatever its arguments are. -/
theorem Environment.expected_run {env : Environment}
    (hconfig : Config.read env.loads (.ofStore env.store) none = .ok config)
    (hdump : ∀ output debug, ¬ env.Asks args (.config output) debug) :
    Expected config args (env.run args).ending := by
  rw [Environment.run, hconfig, prepare]
  cases hrequest : request config args with
  | error refusal => exact expected_refusal hrequest
  | ok inv =>
    obtain ⟨c, words, left, hwords, hread⟩ := exists_read_of_request hrequest
    obtain ⟨hc, hsubset⟩ := List.cons_subset.mp hwords
    obtain ⟨g, hasked, hfile, hlevel⟩ := exists_askedFor_of_read hread
    cases hshown : showsDebug? inv.level with
    | none =>
      simp only [hshown]
      exact expected_unknownLevel hc hlevel hshown
    | some debug =>
      have hasks : env.Asks args inv.request debug := by
        simp only [Environment.Asks, hconfig, prepare, hrequest, hshown]
      simp only [hshown]
      refine env.expected_perform hasked hc (fun file hgiven => hsubset (hfile file hgiven)) ?_
      intro output heq
      exact hdump output debug (heq ▸ hasks)

/-- **How a run ends with an accepted configuration.** Let the configuration files be accepted, and
let the arguments not ask for the configuration to be written. Whatever the files, the arguments and
the input are, the run ends in one of the ways that are expected. In particular, if the log level
that is configured for the command is one that there is, the number of sentences that is configured
is no fraction, no integer that is configured has too many digits, and no argument holds a NUL, then
the run ends well, with a usage error or with a data error, or there is no room for what it nests.
-/
theorem ending_of_accepted_configuration {env : Environment} {config : Config}
    (hconfig : Config.read env.loads (.ofStore env.store) none = .ok config) {args : List String}
    (hdump : ∀ output debug, ¬ env.Asks args (.config output) debug) :
    Expected config args (env.run args).ending ∧
      ((∀ c : Command, c.name ∈ args → ∀ level, config.default? c.name "--log-level" = some level →
          ∃ known ∈ logLevels, level = .text known) →
        (Command.generate.name ∈ args →
          ∀ x, config.default? Command.generate.name "--num-sentences" ≠ some (.real x)) →
        (∀ c : Command, c.name ∈ args → ∀ option ∈ defaultedOptions, ∀ n,
          config.default? c.name option = some (.whole n) → Text.isWritable n = true) →
        (∀ text ∈ args, Path.hasNul text = false) → (env.run args).ending ∈ announcedEndings) := by
  have hexpected : Expected config args (env.run args).ending :=
    Environment.expected_run hconfig hdump
  refine ⟨hexpected, fun hlevels hcounts hdigits hnuls => ?_⟩
  generalize (env.run args).ending = ending at hexpected
  rcases hexpected with - | - | - | - | ⟨hc, hlevel, hunknown⟩ | ⟨hc, hcount⟩ |
    ⟨hc, hoption, hconfigured, hn⟩ | ⟨hpath, hnul⟩
  · exact .head _
  · exact .tail _ (.head _)
  · exact .tail _ (.tail _ (.head _))
  · exact .tail _ (.tail _ (.tail _ (.head _)))
  · obtain ⟨known, hmem, rfl⟩ := hlevels _ hc _ hlevel
    obtain ⟨debug, hdebug⟩ := showsDebug?_of_mem hmem
    rw [hdebug] at hunknown
    cases hunknown
  · exact absurd hcount (hcounts hc _)
  · rw [hdigits _ hc _ hoption _ hconfigured] at hn
    cases hn
  · rw [hnuls _ hpath] at hnul
    cases hnul

/-! ### Default values that a run does not deal with -/

/-- The text of a configuration that is accepted, with a log level that is none and a fraction as
the number of sentences. -/
def unsoundText : String :=
  "[[defaults.generate]]
\"--log-level\" = \"TRACE\"
\"--num-sentences\" = 1.5
"

/-- What the text of the unsound configuration gives, on top of the bundled one. -/
def unsoundConfig : Config :=
  ⟨[[("generate", [("--log-level", .text "TRACE"),
      ("--num-sentences", .real (.finite false 0x18000000000000 (-52)))])],
    Config.bundledSections].foldl mergeSections []⟩

/-- A store with a grammar and the unsound configuration in the working directory. -/
def unsoundStore : Store :=
  (Store.single "<s>::=a\n").put (["w"] ++ [Config.fileName])
    (Text.Utf8.encode unsoundText.toList)

set_option maxRecDepth 100000 in
theorem read_unsoundStore :
    Config.read Toml.loads (.ofStore unsoundStore) none = .ok unsoundConfig := by
  have hfiles : Config.Files.ofStore unsoundStore =
      ⟨some (.bytes (Text.Utf8.encode unsoundText.toList)), none⟩ :=
    (Store.single "<s>::=a\n").ofStore_put_workDir (by decide) _
  rw [hfiles]
  exact Config.read_of_work ⟨_, rfl, by decide +kernel, by decide +kernel⟩

/-- The unsound configuration keeps the command `symbols` from nothing. -/
theorem ending_of_accepted_configuration_symbols :
    let env : Environment := ⟨Toml.loads, .usual, unsoundStore, "", 0⟩
    Config.read env.loads (.ofStore env.store) none = .ok unsoundConfig ∧
      Expected unsoundConfig ["symbols", "g"] (env.run ["symbols", "g"]).ending ∧
      (env.run ["symbols", "g"]).ending ∈ announcedEndings := by
  intro env
  have hread : Config.read env.loads (.ofStore env.store) none = .ok unsoundConfig :=
    read_unsoundStore
  have hasks : env.Asks ["symbols", "g"] (.symbols "g") false := by
    rw [Environment.Asks, hread]
    decide +kernel
  have hdump : ∀ output debug, ¬ env.Asks ["symbols", "g"] (.config output) debug := by
    intro output debug hdump
    obtain ⟨hrequest, -⟩ := Prod.mk.inj (Except.ok.inj (hasks.symm.trans hdump))
    cases hrequest
  obtain ⟨hexpected, hannounced⟩ := ending_of_accepted_configuration hread hdump
  have hsymbols : ∀ c : Command, c.name ∈ ["symbols", "g"] → c = .symbols := by
    intro c hc
    cases c <;> first | rfl | exact absurd hc (by decide)
  refine ⟨hread, hexpected, hannounced (fun c hc level hlevel => ?_) ?_
    (fun c hc option hoption n hn => ?_) (by decide)⟩
  · have hwarning : unsoundConfig.default? Command.symbols.name "--log-level" =
        some (.text "WARNING") := by decide
    rw [hsymbols c hc, hwarning] at hlevel
    exact ⟨"WARNING", by decide, (Option.some.inj hlevel).symm⟩
  · exact fun hc => absurd hc (by decide)
  · have hnone : ∀ option ∈ defaultedOptions,
        unsoundConfig.default? Command.symbols.name option ∈ [none, some (.text "WARNING")] := by
      decide
    have hvalue := hnone option hoption
    rw [hsymbols c hc] at hn
    rw [hn] at hvalue
    simp at hvalue

/-- **An accepted configuration can keep `generate` from working.** The log level that is configured
ends every run without another one, and with another one the number that is configured ends it when
the grammar is loaded and the symbol found. -/
theorem faults_of_unsound_configuration :
    let env : Environment := ⟨Toml.loads, .usual, unsoundStore, "", 0⟩
    Config.read env.loads (.ofStore env.store) none = .ok unsoundConfig ∧
      (env.run ["generate", "g", "-s", "<s>"]).ending = .fault (.unknownLevel (.text "TRACE")) ∧
      (env.run ["generate", "g", "-s", "<s>", "-l", "ERROR"]).ending = .fault .fractionalCount := by
  intro env
  have hread : Config.read env.loads (.ofStore env.store) none = .ok unsoundConfig :=
    read_unsoundStore
  refine ⟨hread, ?_, ?_⟩
  · have hprepare : prepare (Config.read env.loads (.ofStore env.store) none)
        ["generate", "g", "-s", "<s>"] = .error ([], .fault (.unknownLevel (.text "TRACE"))) := by
      rw [hread]
      decide +kernel
    exact congrArg Report.ending (Environment.run_of_prepare_eq_error hprepare)
  · let r : GenerateRequest := ⟨"g", some (.text "<s>"),
      .real (.finite false 0x18000000000000 (-52)), false, .compact, none⟩
    have hasks : env.Asks ["generate", "g", "-s", "<s>", "-l", "ERROR"] (.generate r) false := by
      rw [Environment.Asks, hread]
      decide +kernel
    have hload : Grammar.load env.store r.file = .ok ⟨[⟨"<s>", [["a"]]⟩]⟩ := by decide +kernel
    have hfraction :
        (r.run env.limits env.entropy (.ok ⟨[⟨"<s>", [["a"]]⟩]⟩)).2 = .fault .fractionalCount := by
      decide +kernel
    rw [← hload] at hfraction
    exact hasks.ending_generate.trans hfraction

end SentenceGen.Cli
