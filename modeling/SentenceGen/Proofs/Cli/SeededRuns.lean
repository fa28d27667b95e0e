import SentenceGen.Proofs.Cli.CommandLine
import SentenceGen.Proofs.Config.Merge
import SentenceGen.Proofs.Grammar.WellFormed

/-!
# Runs with a seed

A run whose configuration, arguments and log level are **accepted** does what was asked for. Three
command lines are followed up to that point here: that of a session with a seed
(`run_interactive`), that of sentences which are generated with a seed (`run_generate`), and the
same for their trees (`run_generate_tree`). Where the log level comes from makes no difference to
any of them.

What a run with sentences or trees tells is one batch of draws (`GenerateRequest.run_of_batch`).
-/

namespace SentenceGen

/-- A store with a grammar file `g` of this text in the working directory, and nothing else. -/
def Store.single (text : String) : Store :=
  ⟨[(["w", "g"], Text.Utf8.encode text.toList)], [], ["w"], ["h"]⟩

namespace Cli

/-- An environment with this store, in which the given text is typed. -/
def Environment.single (limits : Limits) (text input : String) : Environment :=
  ⟨Toml.loads, limits, .single text, input, 0⟩

/-! ### Accepted command lines -/

/-- What a run has shown when its session has shown this. -/
def Session.shownBy (g : Grammar) (shown : List Event) : List Event :=
  .loaded g.symbols :: (opening g ++ shown)

theorem Session.shownBy_append (g : Grammar) (shown more : List Event) :
    shownBy g (shown ++ more) = shownBy g shown ++ more := by
  rw [shownBy, shownBy, List.cons_append, List.append_assoc]

/-- What is asked for comes from a configuration, from arguments and from a level that are all
accepted. -/
theorem exists_of_prepare_eq_ok {read : Except ConfigError Config} {args : List String}
    {r : Request} {debug : Bool} (h : prepare read args = .ok (r, debug)) :
    ∃ config inv, read = .ok config ∧ request config args = .ok inv ∧ inv.request = r ∧
      showsDebug? inv.level = some debug := by
  unfold prepare at h
  split at h
  · cases h
  · cases h
  · cases h
  · rename_i config
    split at h
    · cases h
    · rename_i inv hrequest
      split at h
      · cases h
      · rename_i level hlevel
        obtain ⟨rfl, rfl⟩ := Prod.mk.inj (Except.ok.inj h)
        exact ⟨config, inv, rfl, hrequest, rfl, hlevel⟩

namespace Environment

/-- Neither the configuration nor the arguments nor the log level are refused. -/
def Accepts (env : Environment) (args : List String) : Prop :=
  ∃ request debug,
    prepare (Config.read env.loads (.ofStore env.store) none) args = .ok (request, debug)

/-- **A run that is accepted does what the arguments ask for.** -/
theorem Accepts.exists_run {env : Environment} {args : List String} (h : env.Accepts args) :
    ∃ config inv, request config args = .ok inv ∧
      (env.run args).events = (env.perform inv.request).1 ∧
      (env.run args).ending = (env.perform inv.request).2.1 := by
  obtain ⟨r, debug, hprepare⟩ := h
  obtain ⟨config, inv, -, hrequest, rfl, -⟩ := exists_of_prepare_eq_ok hprepare
  refine ⟨config, inv, hrequest, ?_⟩
  rw [run, hprepare]
  exact ⟨rfl, rfl⟩

/-- The run is accepted, and this is asked for, with debug lines or without. -/
def Asks (env : Environment) (args : List String) (r : Request) (debug : Bool) : Prop :=
  prepare (Config.read env.loads (.ofStore env.store) none) args = .ok (r, debug)

theorem Asks.accepts {env : Environment} {args : List String} {r : Request} {debug : Bool}
    (h : env.Asks args r debug) : env.Accepts args :=
  ⟨r, debug, h⟩

/-- What is asked for is done. -/
theorem Asks.run_eq {env : Environment} {args : List String} {r : Request} {debug : Bool}
    (h : env.Asks args r debug) :
    env.run args = ⟨(env.perform r).1, debug, (env.perform r).2.1, (env.perform r).2.2⟩ := by
  have hprepare : prepare (Config.read env.loads (.ofStore env.store) none) args = .ok (r, debug) :=
    h
  rw [run, hprepare]

/-- What keeps a run from doing what it was asked for is what it shows. -/
theorem run_of_prepare_eq_error {env : Environment} {args : List String}
    {shown : List Event × Ending}
    (h : prepare (Config.read env.loads (.ofStore env.store) none) args = .error shown) :
    env.run args = ⟨shown.1, false, shown.2, env.store⟩ := by
  rw [run, h]

/-- **A session that is asked for is held**, if a grammar can be loaded for it. -/
theorem Asks.run_interactive {env : Environment} {args : List String} {file : String}
    {seed : Option Quantity} {debug : Bool} (h : env.Asks args (.interactive file seed) debug)
    {g : Grammar} (hload : Grammar.load env.store file = .ok g) :
    env.run args =
      ⟨Session.shownBy g
          (Session.run g env.limits.depth (sourceOf env.entropy seed)
            (Text.typedLines env.input)).1, debug,
        (Session.run g env.limits.depth (sourceOf env.entropy seed)
          (Text.typedLines env.input)).2, env.store⟩ := by
  rw [h.run_eq, perform, hload]
  rfl

/-- It is held in the same way whatever is typed. -/
theorem Asks.run_interactive_typing {env : Environment} {args : List String} {file : String}
    {seed : Option Quantity} {debug : Bool} (h : env.Asks args (.interactive file seed) debug)
    {g : Grammar} (hload : Grammar.load env.store file = .ok g) (input : String) :
    { env with input }.run args =
      ⟨Session.shownBy g
          (Session.run g env.limits.depth (sourceOf env.entropy seed) (Text.typedLines input)).1,
        debug,
        (Session.run g env.limits.depth (sourceOf env.entropy seed) (Text.typedLines input)).2,
        env.store⟩ := by
  have hasks : { env with input }.Asks args (.interactive file seed) debug := h
  exact hasks.run_interactive hload

/-- Without configuration files, the arguments decide what is asked for. -/
theorem Asks.of_bundled {env : Environment} {args : List String} {r : Request} {debug : Bool}
    (hbundled : Config.ReadsBundled env.loads)
    (hfiles : Config.Files.ofStore env.store = ⟨none, none⟩)
    (h : prepare (.ok ⟨Config.bundledSections⟩) args = .ok (r, debug)) : env.Asks args r debug := by
  rw [Asks, hfiles, Config.read_bundled hbundled, h]

/-- With a single grammar file in the store, the arguments decide as well. -/
theorem Asks.of_single {args : List String} {r : Request} {debug : Bool} (limits : Limits)
    (text input : String) (h : prepare (.ok ⟨Config.bundledSections⟩) args = .ok (r, debug)) :
    (single limits text input).Asks args r debug :=
  .of_bundled Config.readsBundled_loads rfl h

end Environment

/-! ### Numbers and levels on a command line -/

variable {g g' : Given}

theorem eq_of_readInteger {o : OptionSpec} {n m : Int} (h : readInteger o (toString n) = .ok m) :
    m = n := by
  rw [readInteger, Text.integer?_toString] at h
  split at h
  · exact (Except.ok.inj h).symm
  · cases h

/-- A seed as it is written out. -/
def writtenSeed (seed : Int) : WrittenOption :=
  ⟨seedOption, "--seed", some (toString seed)⟩

/-- A log level as it is written out, if there is one. -/
def writtenLevel (level : Option String) : List WrittenOption :=
  level.toList.map fun l => ⟨logLevelOption, "--log-level", some l⟩

/-- The words for a log level, if there is one. -/
def levelWords (level : Option String) : List String :=
  level.elim [] fun l => ["--log-level", l]

theorem wordsOf_writtenLevel (level : Option String) :
    wordsOf (writtenLevel level) = levelWords level := by
  cases level <;> rfl

theorem Given.take_countOption {spelling : String} {n : Int}
    (h : g.take countOption spelling (toString n) = .ok g') :
    g' = { g with count := some n } ∧ Text.isWritable n = true := by
  obtain ⟨m, hread, rfl⟩ := exists_of_map_eq_ok h
  obtain rfl := eq_of_readInteger hread
  exact ⟨rfl, isWritable_of_readInteger hread⟩

theorem Given.take_seedOption {spelling : String} {n : Int}
    (h : g.take seedOption spelling (toString n) = .ok g') : g' = { g with seed := some n } := by
  obtain ⟨m, hread, rfl⟩ := exists_of_map_eq_ok h
  rw [eq_of_readInteger hread]

/-- A log level changes nothing but the level. -/
theorem Given.takeAll_writtenLevel {level : Option String}
    (h : g.takeAll (writtenLevel level) = .ok g') : ∃ l, g' = { g with level := l } := by
  cases level with
  | none =>
    obtain rfl := Except.ok.inj h
    exact ⟨g.level, rfl⟩
  | some l =>
    obtain ⟨g₁, htake, h⟩ := exists_of_takeAll_cons h
    obtain rfl := Except.ok.inj h
    unfold take at htake
    simp only [logLevelOption, Option.getD_some] at htake
    split at htake
    · exact ⟨some l, (Except.ok.inj htake).symm⟩
    · cases htake

theorem fits_writtenLevel {options : List OptionSpec} {level : Option String}
    (h : findOption options "--log-level" = some logLevelOption) :
    ∀ w ∈ writtenLevel level, w.Fits options := by
  intro w hw
  obtain ⟨l, -, rfl⟩ := List.mem_map.mp hw
  exact .of_argument h (by decide) (by decide) (by decide) rfl l

theorem fits_writtenSeed {options : List OptionSpec} (seed : Int)
    (h : findOption options "--seed" = some seedOption) : (writtenSeed seed).Fits options :=
  .of_argument h (by decide) (by decide) (by decide) rfl _

/-! ### Sessions -/

/-- A session over a file with a seed, with or without a log level. -/
def interactiveArgs (file : String) (seed : Int) (level : Option String) : List String :=
  ["interactive", file, "--seed", toString seed] ++ levelWords level

variable {env : Environment} {file symbol : String} {count seed : Int} {level : Option String}

/-- **A session with a seed** is held over the grammar in the file that is named, with the choices
that the seed makes. -/
theorem run_interactive (h : env.Accepts (interactiveArgs file seed level)) :
    ((env.run (interactiveArgs file seed level)).events,
        (env.run (interactiveArgs file seed level)).ending) =
      runInteractive file (some (.whole seed)) env.limits.depth env.entropy
        (Text.typedLines env.input) (Grammar.load env.store file) := by
  have hline : interactiveArgs file seed level =
      Command.interactive.line file (writtenSeed seed :: writtenLevel level) := by
    rw [interactiveArgs, Command.line, wordsOf_cons, wordsOf_writtenLevel]
    rfl
  have hfits : ∀ w ∈ writtenSeed seed :: writtenLevel level,
      w.Fits Command.interactive.interface.options :=
    List.forall_mem_cons.mpr ⟨fits_writtenSeed seed rfl, fits_writtenLevel rfl⟩
  obtain ⟨config, inv, hrequest, hevents, hending⟩ := h.exists_run
  rw [hline] at hrequest
  obtain ⟨g, htake, hasked⟩ :=
    exists_takeAll_of_request rfl hfits (by simp [wordsOf_cons, writtenSeed]) hrequest
  obtain ⟨g₁, hseed, htake⟩ := Given.exists_of_takeAll_cons htake
  have hg₁ : g₁ = ⟨some file, none, none, false, none, some seed, none, none, []⟩ :=
    Given.take_seedOption hseed
  obtain ⟨l, rfl⟩ := Given.takeAll_writtenLevel htake
  rw [hg₁] at hasked
  rw [hevents, hending, ← Except.ok.inj hasked]
  rfl

/-! ### Sentences and trees that are generated -/

/-- Sentences from a symbol of a file with a seed, with or without a log level. -/
def generateArgs (file symbol : String) (count seed : Int) (level : Option String) :
    List String :=
  ["generate", file, "-s", symbol, "-n", toString count, "--seed", toString seed] ++
    levelWords level

/-- The spelling of the option for pretty printing that turns it on or off. -/
def prettySpelling (pretty : Bool) : String :=
  if pretty then "--pretty-print" else "--no-pretty-print"

/-- The layout of trees with pretty printing or without. -/
def prettyLayout (pretty : Bool) : Json.Layout :=
  if pretty then .indented else .compact

/-- The same for derivation trees in the place of sentences, in one of the two layouts. -/
def treeArgs (file symbol : String) (count seed : Int) (pretty : Bool) (level : Option String) :
    List String :=
  ["generate", file, "-s", symbol, "-n", toString count, "--seed", toString seed, "--tree",
    prettySpelling pretty] ++ levelWords level

theorem Given.take_prettyOption {pretty : Bool} {value : String}
    (h : g.take prettyOption (prettySpelling pretty) value = .ok g') :
    g' = { g with pretty := some pretty } := by
  have hspelling : (!(prettySpelling pretty).startsWith "--no-") = pretty := by
    cases pretty <;> decide +kernel
  obtain rfl := Except.ok.inj h
  rw [hspelling]

/-- A symbol, a number and a seed as they are written out, with more options behind them. -/
def writtenRequest (symbol : String) (count seed : Int) (more : List WrittenOption) :
    List WrittenOption :=
  ⟨symbolOption, "-s", some symbol⟩ :: ⟨countOption, "-n", some (toString count)⟩ ::
    writtenSeed seed :: more

/-- What is asked for when a symbol, a number, a seed and more options are written out. The number
is one that can be written. -/
theorem exists_takeAll_of_writtenRequest {more : List WrittenOption}
    (hmore : ∀ w ∈ more, w.Fits Command.generate.interface.options) {args : List String}
    (hargs : args = Command.generate.line file (writtenRequest symbol count seed more))
    (h : env.Accepts args) :
    Text.isWritable count = true ∧ ∃ (d : Defaults) (g : Given) (r : Request),
      Given.takeAll ⟨some file, some symbol, some count, false, none, some seed, none, none, []⟩
          more = .ok g ∧
        Command.generate.request d g = .ok r ∧
        ((env.run args).events, (env.run args).ending) =
          ((env.perform r).1, (env.perform r).2.1) := by
  have hfits : ∀ w ∈ writtenRequest symbol count seed more,
      w.Fits Command.generate.interface.options := by
    simp only [writtenRequest, List.forall_mem_cons]
    exact ⟨.of_argument rfl (by decide) (by decide) (by decide) rfl symbol,
      .of_argument rfl (by decide) (by decide) (by decide) rfl _,
      fits_writtenSeed seed rfl, hmore⟩
  have hlong : 2 ≤ (wordsOf (writtenRequest symbol count seed more)).length := by
    simp [writtenRequest, wordsOf_cons, writtenSeed]
  obtain ⟨config, inv, hrequest, hevents, hending⟩ := h.exists_run
  rw [hargs] at hrequest
  obtain ⟨g, htake, hasked⟩ := exists_takeAll_of_request rfl hfits hlong hrequest
  obtain ⟨g₁, hsymbol, htake⟩ := Given.exists_of_takeAll_cons htake
  have hg₁ : g₁ = ⟨some file, some symbol, none, false, none, none, none, none, []⟩ :=
    (Except.ok.inj hsymbol).symm
  obtain ⟨g₂, hcount, htake⟩ := Given.exists_of_takeAll_cons htake
  obtain ⟨hcounted, hwritable⟩ := Given.take_countOption hcount
  have hg₂ : g₂ = ⟨some file, some symbol, some count, false, none, none, none, none, []⟩ := by
    rw [hcounted, hg₁]
  obtain ⟨g₃, hseed, htake⟩ := Given.exists_of_takeAll_cons htake
  have hg₃ : g₃ = ⟨some file, some symbol, some count, false, none, some seed, none, none, []⟩ := by
    rw [Given.take_seedOption hseed, hg₂]
  rw [hg₃] at htake
  exact ⟨hwritable, _, g, inv.request, htake, hasked, Prod.ext hevents hending⟩

/-- **Sentences that are generated with a seed** come from the grammar in the file that is named,
with the choices that the seed makes. -/
theorem run_generate (h : env.Accepts (generateArgs file symbol count seed level)) :
    Text.isWritable count = true ∧ ∃ layout,
      ((env.run (generateArgs file symbol count seed level)).events,
        (env.run (generateArgs file symbol count seed level)).ending) =
      GenerateRequest.run
        ⟨file, some (.text symbol), .whole count, false, layout, some (.whole seed)⟩
        env.limits env.entropy (Grammar.load env.store file) := by
  have hargs : generateArgs file symbol count seed level =
      Command.generate.line file (writtenRequest symbol count seed (writtenLevel level)) := by
    rw [generateArgs, Command.line, writtenRequest, wordsOf_cons, wordsOf_cons, wordsOf_cons,
      wordsOf_writtenLevel]
    rfl
  obtain ⟨hwritable, d, g, r, htake, hasked, hrun⟩ :=
    exists_takeAll_of_writtenRequest (fits_writtenLevel rfl) hargs h
  obtain ⟨l, rfl⟩ := Given.takeAll_writtenLevel htake
  obtain ⟨layout, hask⟩ : ∃ layout, r = .generate
      ⟨file, some (.text symbol), .whole count, false, layout, some (.whole seed)⟩ :=
    ⟨_, (Except.ok.inj hasked).symm⟩
  refine ⟨hwritable, layout, ?_⟩
  rw [hrun, hask]
  rfl

/-- **Trees that are generated with a seed** come from the same choices, in the layout that is
asked for. -/
theorem run_generate_tree {pretty : Bool}
    (h : env.Accepts (treeArgs file symbol count seed pretty level)) :
    Text.isWritable count = true ∧ ((env.run (treeArgs file symbol count seed pretty level)).events,
        (env.run (treeArgs file symbol count seed pretty level)).ending) =
      GenerateRequest.run
        ⟨file, some (.text symbol), .whole count, true, prettyLayout pretty, some (.whole seed)⟩
        env.limits env.entropy (Grammar.load env.store file) := by
  let written : List WrittenOption :=
    ⟨treeOption, "--tree", none⟩ :: ⟨prettyOption, prettySpelling pretty, none⟩ ::
      writtenLevel level
  have hargs : treeArgs file symbol count seed pretty level =
      Command.generate.line file (writtenRequest symbol count seed written) := by
    rw [treeArgs, Command.line, writtenRequest, wordsOf_cons, wordsOf_cons, wordsOf_cons,
      wordsOf_cons, wordsOf_cons, wordsOf_writtenLevel]
    rfl
  have hfits : ∀ w ∈ written, w.Fits Command.generate.interface.options := by
    simp only [written, List.forall_mem_cons]
    refine ⟨⟨rfl, rfl, by decide, by decide, rfl⟩, ?_, fits_writtenLevel rfl⟩
    cases pretty <;> exact ⟨rfl, rfl, by decide, by decide, rfl⟩
  obtain ⟨hwritable, d, g, r, htake, hasked, hrun⟩ :=
    exists_takeAll_of_writtenRequest hfits hargs h
  obtain ⟨g₁, htree, htake⟩ := Given.exists_of_takeAll_cons htake
  obtain ⟨g₂, hpretty, htake⟩ := Given.exists_of_takeAll_cons htake
  have hg₂ : g₂ =
      ⟨some file, some symbol, some count, true, some pretty, some seed, none, none, []⟩ := by
    rw [Given.take_prettyOption hpretty, ← Except.ok.inj htree]
  rw [hg₂] at htake
  obtain ⟨l, rfl⟩ := Given.takeAll_writtenLevel htake
  refine ⟨hwritable, ?_⟩
  rw [hrun, ← Except.ok.inj hasked]
  cases pretty <;> rfl

/-! ### Requests for a number of draws -/

namespace GenerateRequest

variable {r : GenerateRequest} {limits : Limits} {g : Grammar} {n : Nat} {events : List Event}
  {rest : Source}

/-- How a run ends with the result of its batch. -/
def endingOf : Except (DerivationError SourceError) Source → Ending
  | .ok _ => .exit success
  | .error e => .fault (.derivation e)

/-- **What is told is the batch**, and its failure is that of the run. -/
theorem run_of_batch (hg : g.WellFormed) (hsymbol : g.defines symbol = true)
    (hr : r.symbol = some (.text symbol)) (hcount : r.count = .whole n)
    {source : Source} {entropy : Nat} (hsource : sourceOf entropy r.seed = source)
    {result : Except (DerivationError SourceError) Source}
    (hbatch : batch (r.draw limits g symbol) n source = (events, result)) :
    r.run limits entropy (.ok g) = (.loaded g.symbols :: events, endingOf result) := by
  have hne : symbol.isEmpty = false := by
    simpa using hg.ne_empty_of_defines hsymbol
  have hrequested : requestedSymbol g r.symbol = .ok symbol := by
    simp [hr, requestedSymbol, hne, hsymbol]
  have hnonneg : (Quantity.whole n).isNegative = false := by
    simp [Quantity.isNegative]
  simp only [run, hcount, hnonneg, Bool.false_eq_true, if_false, withGrammar, runWith, hrequested,
    hsource, Int.toNat_natCast, hbatch]
  cases result <;> rfl

theorem run_of_batch_ok (hg : g.WellFormed) (hsymbol : g.defines symbol = true)
    (hr : r.symbol = some (.text symbol)) (hcount : r.count = .whole n)
    (hseed : r.seed = some (.whole seed))
    (hbatch : batch (r.draw limits g symbol) n (Source.seeded seed) = (events, .ok rest))
    (entropy : Nat) :
    r.run limits entropy (.ok g) = (.loaded g.symbols :: events, .exit success) :=
  run_of_batch hg hsymbol hr hcount (by rw [hseed]; rfl) hbatch

theorem run_of_batch_error (hg : g.WellFormed) (hsymbol : g.defines symbol = true)
    (hr : r.symbol = some (.text symbol)) (hcount : r.count = .whole n)
    (hseed : r.seed = some (.whole seed)) {e : DerivationError SourceError}
    (hbatch : (batch (r.draw limits g symbol) n (Source.seeded seed)).2 = .error e)
    (entropy : Nat) :
    (r.run limits entropy (.ok g)).2 = .fault (.derivation e) := by
  obtain ⟨events, hevents⟩ : ∃ events,
      batch (r.draw limits g symbol) n (Source.seeded seed) = (events, .error e) :=
    ⟨_, Prod.ext rfl hbatch⟩
  rw [run_of_batch hg hsymbol hr hcount (by rw [hseed]; rfl) hevents]
  rfl

end GenerateRequest

end Cli

end SentenceGen
