import SentenceGen.Proofs.Cli.SessionStep
import SentenceGen.Proofs.Cli.TreeRuns

/-!
# Outcomes of runs

Whatever a run is told to do, it writes nothing to the output if it ends with an exit code other
than that of success (`Environment.quiet_run`): refusals write to the error stream, and what is
written to the output either ends well or in a fault. Only the command `config` writes a file
(`Environment.store_run`).

A run of `generate` comes to one of a few outcomes, for which the number, then the file and then the
symbol are looked at (`generate_outcome`). If none of them is refused, a run can only be cut off for
lack of room (`GenerateRequest.LacksRoom`), and each sentence is one line.
-/

namespace SentenceGen.Cli

/-! ### Refusals write nothing to the output -/

/-- What is shown writes nothing to the output where it ends with an exit code other than that of
success. -/
def Quiet (shown : List Event × Ending) : Prop :=
  ∀ code, shown.2 = .exit code → code ≠ success → outputOf shown.1 = ""

theorem quiet_of_outputOf {events : List Event} (h : outputOf events = "") (ending : Ending) :
    Quiet (events, ending) :=
  fun _ _ _ => h

theorem quiet_success (events : List Event) : Quiet (events, .exit success) :=
  fun _ hcode hne => absurd (Ending.exit.inj hcode).symm hne

theorem quiet_fault (events : List Event) (f : Fault) : Quiet (events, .fault f) :=
  fun _ hcode _ => nomatch hcode

/-- A loaded grammar writes nothing to the output by itself. -/
theorem Quiet.loaded {events : List Event} {ending : Ending} (h : Quiet (events, ending))
    (symbols : List String) : Quiet (.loaded symbols :: events, ending) := by
  intro code hcode hne
  rw [outputOf_cons, h code hcode hne]
  rfl

section Refusals

variable {config : Config} {c : Command} {i : Interface} {help? : Option String} {g : Given}
  {args words : List String} {findings : List Finding} {refusal : Refusal}

/-- **All that can be shown in the place of what was asked for**: the help of the program, or of a
command that is named in the arguments, the version, or a usage error. -/
inductive Refusal.Usual (config : Config) (args : List String) : Refusal → Prop
  | help (text : String) : Usual config args (.ofHelp (some text))
  | commandHelp {c : Command} (hc : c.name ∈ args) :
      Usual config args (.ofHelp (c.help? (.ofConfig config c)))
  | version : Usual config args ⟨[.version], .exit success⟩
  | refuse (i : Interface) (e : UsageError) : Usual config args (i.refuse e)
  | noCommand : Usual config args
      ⟨[.usage mainInterface.usage, .complaint mainInterface.program .noCommand],
        .exit usageError⟩

theorem quiet_ofHelp (help? : Option String) :
    Quiet ((Refusal.ofHelp help?).events, (Refusal.ofHelp help?).ending) := by
  cases help? with
  | none => exact quiet_fault _ _
  | some text => exact quiet_success _

theorem Refusal.Usual.quiet (h : refusal.Usual config args) :
    Quiet (refusal.events, refusal.ending) := by
  rcases h with text | hc | - | ⟨i, e⟩ | -
  · exact quiet_ofHelp _
  · exact quiet_ofHelp _
  · exact quiet_success _
  · exact quiet_of_outputOf rfl _
  · exact quiet_of_outputOf rfl _

/-- Findings are refused with the help, or as a usage error. -/
theorem refusal_of_collect (h : collect i help? g findings = .error refusal) :
    refusal = .ofHelp help? ∨ ∃ e, refusal = i.refuse e := by
  induction findings generalizing g with
  | nil => cases h
  | cons f findings ih =>
    cases f with
    | given o spelling value =>
      rw [collect] at h
      split at h
      · exact Or.inl (Except.error.inj h).symm
      · split at h
        · exact ih h
        · exact Or.inr ⟨_, (Except.error.inj h).symm⟩
    | operands texts => exact ih h
    | extra text => exact ih h
    | wrong e => exact Or.inr ⟨e, (Except.error.inj h).symm⟩

theorem usual_of_read (hc : c.name ∈ args) (h : c.read config words = .error refusal) :
    refusal.Usual config args := by
  change (collect c.interface _ .empty _).bind _ = _ at h
  cases hcollect : collect c.interface (c.help? (.ofConfig config c)) .empty
      (c.interface.findings words) with
  | error r =>
    rw [hcollect] at h
    obtain rfl := Except.error.inj h
    rcases refusal_of_collect hcollect with rfl | ⟨e, rfl⟩
    · exact .commandHelp hc
    · exact .refuse c.interface e
  | ok g =>
    rw [hcollect] at h
    change ((c.request (.ofConfig config c) g).mapError c.interface.refuse).bind _ = _ at h
    cases hrequest : c.request (.ofConfig config c) g with
    | error e =>
      rw [hrequest] at h
      obtain rfl := Except.error.inj h
      exact .refuse c.interface e
    | ok r =>
      rw [hrequest] at h
      cases h

theorem usual_of_collectMain {g : MainGiven}
    (hwords : ∀ texts, .operands texts ∈ findings → texts ⊆ args)
    (h : collectMain config g findings = .error refusal) : refusal.Usual config args := by
  induction findings generalizing g with
  | nil => cases h
  | cons f findings ih =>
    have ih {g : MainGiven} := ih (g := g) fun texts hmem => hwords texts (.tail _ hmem)
    cases f with
    | given o spelling value =>
      rw [collectMain] at h
      split at h
      · obtain rfl := Except.error.inj h
        exact .help _
      · exact ih h
    | operands texts =>
      rw [collectMain] at h
      split at h
      · obtain rfl := Except.error.inj h
        exact .refuse mainInterface _
      · rename_i c hc
        split at h
        · rename_i hread
          obtain rfl := Except.error.inj h
          obtain ⟨words, rfl⟩ := Command.exists_of_ofName? hc
          exact usual_of_read (hwords _ (.head _) List.mem_cons_self) hread
        · exact ih h
    | extra text => exact ih h
    | wrong e =>
      obtain rfl := Except.error.inj h
      exact .refuse mainInterface e

/-- **Arguments that ask for nothing are refused in one of these ways.** -/
theorem usual_of_request (h : request config args = .error refusal) :
    refusal.Usual config args := by
  rw [request] at h
  cases hcollect : collectMain config ⟨false, none, []⟩ (mainInterface.findings args) with
  | error r =>
    rw [hcollect] at h
    obtain rfl := Except.error.inj h
    exact usual_of_collectMain (fun texts => subset_of_operands_mem_findings) hcollect
  | ok g =>
    obtain ⟨version, invocation, extras⟩ := g
    rw [hcollect] at h
    cases extras with
    | cons text extras =>
      obtain rfl := Except.error.inj h
      exact .refuse mainInterface _
    | nil =>
      cases version with
      | true =>
        obtain rfl := Except.error.inj h
        exact .version
      | false =>
        cases invocation with
        | none =>
          obtain rfl := Except.error.inj h
          exact .noCommand
        | some inv => cases h

theorem quiet_of_prepare {read : Except ConfigError Config} {shown : List Event × Ending}
    (h : prepare read args = .error shown) : Quiet shown := by
  unfold prepare at h
  split at h
  · obtain rfl := Except.error.inj h
    exact quiet_fault _ _
  · obtain rfl := Except.error.inj h
    exact quiet_fault _ _
  · obtain rfl := Except.error.inj h
    exact quiet_of_outputOf rfl _
  · split at h
    · rename_i hrequest
      obtain rfl := Except.error.inj h
      exact (usual_of_request hrequest).quiet
    · split at h
      · obtain rfl := Except.error.inj h
        exact quiet_fault _ _
      · cases h

end Refusals

/-! ### Requests -/

section Requests

variable {c : Command} {file : String} {loaded : Except LoadError Grammar}

theorem quiet_withGrammar {next : Grammar → List Event × Ending} (h : ∀ g, Quiet (next g)) :
    Quiet (withGrammar c file loaded next) := by
  cases loaded with
  | ok g => exact (h g).loaded g.symbols
  | error e =>
    cases e with
    | nulInPath => exact quiet_fault _ _
    | refused e | undecodable fault | malformed e => exact quiet_of_outputOf rfl _

theorem quiet_refuseGenerate (complaint? : Option Complaint) :
    Quiet (refuseGenerate complaint?) := by
  cases complaint? with
  | none => exact quiet_fault _ _
  | some c => exact quiet_of_outputOf rfl _

theorem GenerateRequest.quiet_run (r : GenerateRequest) (limits : Limits) (entropy : Nat) :
    Quiet (r.run limits entropy loaded) := by
  rw [run]
  split
  · exact quiet_refuseGenerate _
  · refine quiet_withGrammar fun g => ?_
    rw [runWith]
    split
    · exact quiet_refuseGenerate _
    · split
      · exact quiet_fault _ _
      · split
        · exact quiet_success _
        · exact quiet_fault _ _

/-- A session ends well or in a fault. -/
theorem Session.ending_of_answers {g : Grammar} {depth : Nat} {lines : List String} {s : Session}
    {ending : Ending} (h : (answers g depth s lines).2 = .error ending) :
    ending = .exit success ∨ ∃ f, ending = .fault f := by
  induction lines generalizing s with
  | nil => cases h
  | cons line lines ih =>
    rcases hanswer : s.answer g depth line with ⟨events, last | s₁⟩
    · rw [answers_cons_of_error (congrArg Prod.snd hanswer)] at h
      obtain rfl := Except.error.inj h
      generalize hresult : Except.error last = result at hanswer
      cases step_iff.mpr hanswer with
      | symbol | unknownSymbol | notANumber | negativeCount | batch => cases hresult
      | blank => exact Or.inl (Except.error.inj hresult)
      | failure => exact Or.inr ⟨_, Except.error.inj hresult⟩
    · rw [answers_cons_of_ok hanswer] at h
      exact ih h

theorem Session.quiet_run (g : Grammar) (depth : Nat) (source : Source) (lines : List String)
    (front : List Event) :
    Quiet (front ++ (run g depth source lines).1, (run g depth source lines).2) := by
  rw [run_eq]
  cases hanswers : (answers g depth (start source) (lines ++ ["", ""])).2 with
  | ok s => exact quiet_success _
  | error ending =>
    rcases ending_of_answers hanswers with rfl | ⟨f, rfl⟩
    · exact quiet_success _
    · exact quiet_fault _ f

theorem quiet_writeConfiguration (s : Store) (output : Option String) :
    Quiet ((writeConfiguration s output).1, (writeConfiguration s output).2.1) := by
  unfold writeConfiguration
  split
  · exact quiet_success _
  · split
    · exact quiet_success _
    · split
      · exact quiet_fault _ _
      · split
        · exact quiet_success _
        · exact quiet_fault _ _

end Requests

namespace Environment

theorem quiet_perform (env : Environment) (r : Request) :
    Quiet ((env.perform r).1, (env.perform r).2.1) := by
  cases r with
  | generate r => exact r.quiet_run env.limits env.entropy
  | symbols file => exact quiet_withGrammar fun g => quiet_success _
  | interactive file seed => exact quiet_withGrammar fun g => Session.quiet_run g _ _ _ _
  | config output => exact quiet_writeConfiguration env.store output

/-- **A run that ends with an exit code other than that of success writes nothing to the output**,
whatever the command line. -/
theorem quiet_run (env : Environment) (args : List String) :
    Quiet ((env.run args).events, (env.run args).ending) := by
  rw [run]
  split
  · rename_i hprepare
    exact quiet_of_prepare hprepare
  · exact env.quiet_perform _

end Environment

/-! ### Lines of the output -/

/-- The event writes one line. -/
def Event.WritesLine (e : Event) : Prop :=
  ∃ text : String, e.output = text ++ "\n" ∧ '\n' ∉ text.toList

namespace GenerateRequest

section Draws

variable {r : GenerateRequest} {limits : Limits} {g : Grammar} {symbol : String} {n : Nat}
  {s s' : Source}

/-- A draw of a generator is told, unless there is no room for it. -/
theorem unrefused_draw (hg : g.WellFormed) (hsymbol : g.defines symbol = true)
    (hs : ∃ t, s = .twister t) :
    Outcome.Unrefused (fun s => ∃ t, s = .twister t) (r.draw limits g symbol s) := by
  rw [draw]
  split
  · exact unrefused_drawDocument hg Source.honestOn_twister hsymbol hs
  · rw [drawSentence, map_apply]
    exact (Grammar.unrefused_generate hg Source.honestOn_twister limits.depth hsymbol hs).map _

/-- **What is told for a draw** is the JSON text of a tree that was derived, or its sentence. -/
theorem exists_tree_of_draw {e : Event} (h : r.draw limits g symbol s = .ok e s') :
    ∃ t, g.Derives symbol t ∧
      ((r.tree = true ∧ ∃ text, t.jsonText? (limits.nesting r.layout) r.layout = some text ∧
          e = .document text) ∨
        r.tree = false ∧ e = .sentence symbol t.sentence) := by
  rw [draw] at h
  cases htree : r.tree with
  | true =>
    rw [if_pos htree] at h
    cases hcall : g.derive Source.chooser limits.depth symbol s with
    | error e₁ s₁ =>
      rw [drawDocument_of_error hcall] at h
      cases h
    | ok t s₁ =>
      cases htext : t.jsonText? (limits.nesting r.layout) r.layout with
      | none =>
        rw [drawDocument_of_no_text hcall htext] at h
        cases h
      | some text =>
        rw [drawDocument_of_text hcall htext] at h
        obtain ⟨rfl, -⟩ := EStateM.Result.ok.inj h
        exact ⟨t, Grammar.derives_of_derive hcall, Or.inl ⟨rfl, text, htext, rfl⟩⟩
  | false =>
    rw [if_neg (by simp [htree]), drawSentence, map_apply, Grammar.generate_eq_map] at h
    obtain ⟨text, hcall, rfl⟩ := Outcome.map_eq_ok_iff.mp h
    obtain ⟨t, hderive, rfl⟩ := Outcome.map_eq_ok_iff.mp hcall
    exact ⟨t, Grammar.derives_of_derive hderive, Or.inr ⟨rfl, rfl⟩⟩

/-- It is one line, unless it is laid out on several ones. -/
theorem writesLine_of_draw (hg : g.WellFormed) (hlayout : r.tree = false ∨ r.layout = .compact)
    {e : Event} (h : r.draw limits g symbol s = .ok e s') : e.WritesLine := by
  have hfree : ∀ {cs : List Char}, (∀ ch ∈ cs, Text.isLineEnd ch = false) → '\n' ∉ cs :=
    fun hcs hmem => absurd (hcs _ hmem) (by decide)
  obtain ⟨t, hderives, ⟨htree, text, htext, rfl⟩ | ⟨-, rfl⟩⟩ := exists_tree_of_draw h
  · have hcompact : r.layout = .compact := hlayout.resolve_left (by simp [htree])
    rw [hcompact] at htext
    exact ⟨text, rfl, hfree (isLineEnd_of_mem_jsonText htext)⟩
  · exact ⟨t.sentence, rfl, hfree (hg.isSpaced_sentence hderives).isLineEnd_eq_false⟩

/-- There is no room for so many draws: a derivation is nested too deep, or the JSON text of a tree
is that is to be told. -/
def LacksRoom (r : GenerateRequest) (limits : Limits) (g : Grammar) (symbol : String) (n : Nat)
    (s : Source) : Prop :=
  ∀ trees rest,
    (List.replicate n symbol).mapM (g.derive Source.chooser limits.depth) s = .ok trees rest →
      r.tree = true ∧ ∃ t ∈ trees, limits.nesting r.layout < t.toJson.nesting

/-- **Draws fail only for lack of room.** -/
theorem lacksRoom_of_mapM_draw {e : DerivationError SourceError}
    (h : (List.replicate n symbol).mapM (r.draw limits g) s = .error e s') :
    r.LacksRoom limits g symbol n s := by
  intro trees rest hcalls
  cases htree : r.tree with
  | true =>
    have hdraw : r.draw limits g = drawDocument g Source.chooser limits r.layout := by
      funext symbol
      rw [draw, if_pos htree]
    refine ⟨rfl, ?_⟩
    by_contra hroom
    simp only [not_exists, not_and, Nat.not_lt] at hroom
    have hholds : ∀ t ∈ trees, limits.HoldsText r.layout t := fun t ht =>
      ⟨(Grammar.mapM_derive_iff hcalls).mp hcalls t ht, hroom t ht⟩
    obtain ⟨texts, htexts⟩ := exists_texts hholds
    have htold := mapM_drawDocument_eq_ok_iff.mpr ⟨trees, texts, hcalls, htexts, rfl⟩
    rw [hdraw, htold] at h
    cases h
  | false =>
    have hdraw : r.draw limits g symbol = drawSentence g Source.chooser limits.depth symbol := by
      rw [draw, if_neg (by simp [htree])]
    have hsentences := Grammar.mapM_generate g Source.chooser limits.depth
      (List.replicate n symbol) s
    rw [hcalls] at hsentences
    have hfailed := batch_of_draws_error h
    rw [hdraw, batch_of_mapM_ok hsentences] at hfailed
    cases hfailed

end Draws

/-! ### What is looked at, one after the other -/

section Checks

variable {r : GenerateRequest} {g : Grammar} {symbol : String} {limits : Limits}

theorem run_of_nonneg {n : Nat} (hcount : r.count = .whole n) (entropy : Nat)
    (loaded : Except LoadError Grammar) :
    r.run limits entropy loaded =
      withGrammar .generate r.file loaded (r.runWith limits entropy) := by
  have hnonneg : ¬ r.count.isNegative = true := by
    simp [hcount, Quantity.isNegative]
  rw [run, if_neg hnonneg]

/-- **Where nothing is refused, so many draws are told**, unless there is no room for them. -/
theorem run_of_defines (hg : g.WellFormed) {n : Nat} (hcount : r.count = .whole n)
    (hr : r.symbol = some (.text symbol)) (hsymbol : g.defines symbol = true) (limits : Limits)
    (entropy : Nat) :
    (∃ events : List Event,
      r.run limits entropy (.ok g) = (.loaded g.symbols :: events, .exit success) ∧
        events.length = n ∧
        (r.tree = false ∨ r.layout = .compact → ∀ e ∈ events, e.WritesLine)) ∨
      (r.run limits entropy (.ok g)).2 = .fault (.derivation .tooDeep) ∧
        r.LacksRoom limits g symbol n (sourceOf entropy r.seed) := by
  have hsource : ∃ t, sourceOf entropy r.seed = .twister t := ⟨_, rfl⟩
  have hunrefused : Outcome.Unrefused (fun s => ∃ t, s = .twister t)
      ((List.replicate n symbol).mapM (r.draw limits g) (sourceOf entropy r.seed)) := by
    refine Grammar.unrefused_mapM (fun x hx s hs => ?_) hsource
    rw [List.eq_of_mem_replicate hx]
    exact unrefused_draw hg hsymbol hs
  cases hdraws : (List.replicate n symbol).mapM (r.draw limits g) (sourceOf entropy r.seed) with
  | ok events rest =>
    refine Or.inl ⟨events, run_of_batch hg hsymbol hr hcount rfl (batch_of_draws_ok hdraws), ?_,
      fun hlayout e he => ?_⟩
    · rw [Grammar.length_of_mapM_ok hdraws, List.length_replicate]
    · obtain ⟨_, -, _, _, hcall⟩ := Grammar.exists_call_of_mem_mapM hdraws he
      exact writesLine_of_draw hg hlayout hcall
  | error e rest =>
    rw [hdraws] at hunrefused
    cases hunrefused with
    | tooDeep =>
      obtain ⟨events, hbatch⟩ : ∃ events,
          batch (r.draw limits g symbol) n (sourceOf entropy r.seed) = (events, .error .tooDeep) :=
        ⟨_, Prod.ext rfl (batch_of_draws_error hdraws)⟩
      refine Or.inr ⟨?_, lacksRoom_of_mapM_draw hdraws⟩
      rw [run_of_batch hg hsymbol hr hcount rfl hbatch]
      rfl

end Checks

end GenerateRequest

/-! ### The outcome -/

/-- Sentences that are asked for are generated from the grammar in the file. -/
theorem Environment.Asks.run_generate {env : Environment} {args : List String} {r : GenerateRequest}
    {debug : Bool} (h : env.Asks args (.generate r) debug) :
    ((env.run args).events, (env.run args).ending) =
      r.run env.limits env.entropy (Grammar.load env.store r.file) := by
  rw [h.run_eq]
  rfl

/-- So the run ends as they do. -/
theorem Environment.Asks.ending_generate {env : Environment} {args : List String}
    {r : GenerateRequest} {debug : Bool} (h : env.Asks args (.generate r) debug) :
    (env.run args).ending = (r.run env.limits env.entropy (Grammar.load env.store r.file)).2 :=
  congrArg Prod.snd h.run_generate

end SentenceGen.Cli
