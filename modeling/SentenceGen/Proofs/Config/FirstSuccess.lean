import Mathlib.Data.Finset.Card
import SentenceGen.Config.History
import SentenceGen.Proofs.Config.Merge
import SentenceGen.Proofs.Lookup

/-!
# The first configuration that was read stays

A cache keeps a configuration for each text that was given, the first one that there was, and no
error. So a step that reads is answered from the files as they were at the first step that got a
configuration for the same text, and from the files as they are now when there was no such step
(`reply_from_first_success`).

The cache forgets what was not used for long only when it is full. As long as the texts that were
given are at most as many as it has room for, it is a function that is defined at more and more
texts (`ConfigCache.Within`, `ConfigCache.Within.read`).
-/

namespace SentenceGen

variable {loads : Toml.Loader} {cache : ConfigCache} {given other : Option String}
  {texts : Finset (Option String)}

/-! ### What a cache knows -/

namespace ConfigCache

/-- The cache knows something for each of some texts, and nothing for any other one. -/
structure Within (cache : ConfigCache) (texts : Finset (Option String)) : Prop where
  nodup : (cache.known.map Prod.fst).Nodup
  subset : ∀ given ∈ cache.known.map Prod.fst, given ∈ texts

theorem within_empty (texts : Finset (Option String)) : empty.Within texts :=
  ⟨List.nodup_nil, fun _ h => absurd h List.not_mem_nil⟩

theorem lookup_filter_ne {known : List (Option String × Config)} (h : other ≠ given) :
    (known.filter (·.1 != given)).lookup other = known.lookup other := by
  induction known with
  | nil => rfl
  | cons entry known ih =>
    by_cases hentry : entry.1 = given
    · have hother : other ≠ entry.1 := fun heq => h (heq.trans hentry)
      rw [List.filter_cons_of_neg (by simpa using hentry), ih, lookup_cons_of_ne hother]
    · rw [List.filter_cons_of_pos (by simpa using hentry), List.lookup_cons, List.lookup_cons, ih]

/-- What is put in front of a cache that is not full drops nothing. -/
theorem Within.known_use (h : cache.Within texts) (hgiven : given ∈ texts)
    (hroom : texts.card ≤ capacity) (config : Config) :
    (cache.use given config).known = (given, config) :: cache.known.filter (·.1 != given) ∧
      (cache.use given config).Within texts := by
  let known := (given, config) :: cache.known.filter (·.1 != given)
  have hsub : (cache.known.filter (·.1 != given)).map Prod.fst |>.Sublist
      (cache.known.map Prod.fst) := List.filter_sublist.map _
  have hfresh : given ∉ (cache.known.filter (·.1 != given)).map Prod.fst := by
    rintro hmem
    obtain ⟨entry, hentry, rfl⟩ := List.mem_map.mp hmem
    exact absurd rfl (bne_iff_ne.mp (List.mem_filter.mp hentry).2)
  have hnodup : (known.map Prod.fst).Nodup := List.nodup_cons.mpr ⟨hfresh, h.nodup.sublist hsub⟩
  have hsubset : ∀ other ∈ known.map Prod.fst, other ∈ texts :=
    List.forall_mem_cons.mpr ⟨hgiven, fun other hother => h.subset other (hsub.subset hother)⟩
  have hlength : known.length ≤ capacity :=
    calc known.length = (known.map Prod.fst).toFinset.card := by
          rw [List.toFinset_card_of_nodup hnodup, List.length_map]
      _ ≤ texts.card :=
          Finset.card_le_card fun other hother => hsubset other (List.mem_toFinset.mp hother)
      _ ≤ capacity := hroom
  have hknown : (cache.use given config).known = known := List.take_of_length_le hlength
  exact ⟨hknown, by rwa [hknown], by rwa [hknown]⟩

theorem Within.lookup_use (h : cache.Within texts) (hgiven : given ∈ texts)
    (hroom : texts.card ≤ capacity) (config : Config) :
    (cache.use given config).known.lookup given = some config ∧
      ∀ other ≠ given, (cache.use given config).known.lookup other = cache.known.lookup other := by
  rw [(h.known_use hgiven hroom config).1]
  refine ⟨List.lookup_cons_self, fun other hother => ?_⟩
  rw [lookup_cons_of_ne hother, lookup_filter_ne hother]

/-- **What a cache answers, and what it knows then.** Reading answers what is known for the text,
or else what the files give. A configuration that is new is known from then on; nothing changes
for the other texts. -/
theorem Within.read (h : cache.Within texts) (hgiven : given ∈ texts)
    (hroom : texts.card ≤ capacity) (files : Config.Files) :
    (cache.read loads files given).1 =
        (cache.known.lookup given).elim (Config.read loads files given) .ok ∧
      (cache.read loads files given).2.Within texts ∧
      (cache.read loads files given).2.known.lookup given =
        (cache.known.lookup given).or (Config.read loads files given).toOption ∧
      ∀ other ≠ given,
        (cache.read loads files given).2.known.lookup other = cache.known.lookup other := by
  unfold ConfigCache.read
  cases hknown : cache.known.lookup given with
  | some config =>
    obtain ⟨hself, hothers⟩ := h.lookup_use hgiven hroom config
    exact ⟨rfl, (h.known_use hgiven hroom config).2, hself, hothers⟩
  | none =>
    cases hread : Config.read loads files given with
    | ok config =>
      obtain ⟨hself, hothers⟩ := h.lookup_use hgiven hroom config
      exact ⟨rfl, (h.known_use hgiven hroom config).2, hself, hothers⟩
    | error e => exact ⟨rfl, h, hknown, fun _ _ => rfl⟩

end ConfigCache

namespace Config

variable {s : State} {steps : List Step} {step : Step} {files : Files}

/-! ### One step -/

/-- The text that is given when a configuration is read, if a step reads one. -/
def Step.given? : Step → Option (Option String)
  | setWork _ | setHome _ => none
  | read given | default _ _ given => some given

/-- The files after a step. -/
def Step.filesAfter : Step → Files → Files
  | setWork content, files => { files with work := content }
  | setHome content, files => { files with home := content }
  | read _, files | default _ _ _, files => files

/-- What a step is answered when this is the result of reading. -/
def Step.replyOf (result : Except ConfigError Config) : Step → Reply
  | setWork _ | setHome _ => .done
  | read _ => .config result
  | default command option _ => .default (result.map (·.default? command option))

/-- There was a configuration to answer from. -/
def Reply.isSuccess : Reply → Bool
  | done => false
  | config result => result.isOk
  | default result => result.isOk

theorem Step.isSuccess_replyOf (h : step.given? = some given)
    (result : Except ConfigError Config) : (step.replyOf result).isSuccess = result.isOk := by
  cases step with
  | setWork | setHome => cases h
  | read | default => cases result <;> rfl

/-- **What a step does.** If it reads for a text, it is answered from what is known for it, or else
from the files, and what it was answered from is known then. Nothing changes for other texts. -/
theorem Step.run_spec (h : s.cache.Within texts) (hstep : ∀ given ∈ step.given?, given ∈ texts)
    (hroom : texts.card ≤ ConfigCache.capacity) :
    (step.run loads s).2.files = step.filesAfter s.files ∧ (step.run loads s).2.cache.Within texts ∧
      ∀ given,
        (step.given? = some given →
          (step.run loads s).1 = step.replyOf
            ((s.cache.known.lookup given).elim (Config.read loads s.files given) .ok) ∧
          (step.run loads s).2.cache.known.lookup given =
            (s.cache.known.lookup given).or (Config.read loads s.files given).toOption) ∧
        (step.given? ≠ some given →
          (step.run loads s).2.cache.known.lookup given = s.cache.known.lookup given) := by
  cases step with
  | setWork content | setHome content => exact ⟨rfl, h, fun given => ⟨nofun, fun _ => rfl⟩⟩
  | read given | default command option given =>
    obtain ⟨hresult, hwithin, hself, hothers⟩ := h.read (hstep given rfl) hroom s.files
    refine ⟨rfl, hwithin, fun other => ⟨?_, fun hne => ?_⟩⟩
    · rintro hgiven
      obtain rfl := Option.some.inj hgiven
      exact ⟨by simp only [Step.run, Step.replyOf, hresult], hself⟩
    · exact hothers other fun heq => hne (by rw [heq]; rfl)

/-! ### All steps -/

/-- The files after some steps. -/
def Files.after (files : Files) (steps : List Step) : Files :=
  steps.foldl (fun files step => step.filesAfter files) files

/-- The step with this number reads for a given text, and gets a configuration. -/
def SucceedsAt (steps : List Step) (replies : List Reply) (given : Option String) (i : Nat) :
    Prop :=
  ∃ step reply, steps[i]? = some step ∧ step.given? = some given ∧
    replies[i]? = some reply ∧ reply.isSuccess = true

/-- The step with this number is the first one that gets a configuration for a given text. -/
def FirstSuccessAt (steps : List Step) (replies : List Reply) (given : Option String) (i : Nat) :
    Prop :=
  SucceedsAt steps replies given i ∧ ∀ j < i, ¬ SucceedsAt steps replies given j

/-- The answers to the steps that read for a given text. -/
def answersFor (given : Option String) (steps : List Step) (replies : List Reply) : List Reply :=
  ((steps.zip replies).filter (·.1.given? == some given)).map Prod.snd

/-- The step changes the files, or reads for a given text. -/
def Step.concerns (given : Option String) (step : Step) : Bool :=
  step.given?.all (· == given)

theorem succeedsAt_iff {replies : List Reply} {reply : Reply} {i : Nat}
    (hstep : steps[i]? = some step) (hreply : replies[i]? = some reply) (given : Option String) :
    SucceedsAt steps replies given i ↔ step.given? = some given ∧ reply.isSuccess = true := by
  rw [SucceedsAt, hstep, hreply]
  constructor
  · rintro ⟨step', reply', heq, hgiven, heq', hsuccess⟩
    obtain rfl := Option.some.inj heq
    obtain rfl := Option.some.inj heq'
    exact ⟨hgiven, hsuccess⟩
  · rintro ⟨hgiven, hsuccess⟩
    exact ⟨step, reply, rfl, hgiven, rfl, hsuccess⟩

theorem FirstSuccessAt.unique {replies : List Reply} {i j : Nat}
    (hi : FirstSuccessAt steps replies given i) (hj : FirstSuccessAt steps replies given j) :
    i = j := by
  rcases lt_trichotomy i j with hlt | heq | hgt
  · exact absurd hi.1 (hj.2 i hlt)
  · exact heq
  · exact absurd hj.1 (hi.2 j hgt)

theorem state_runAll (loads : Toml.Loader) (steps : List Step) (s : State) :
    (Step.runAll loads steps s).2 = steps.foldl (fun s step => (step.run loads s).2) s := by
  induction steps generalizing s with
  | nil => rfl
  | cons step steps ih => exact ih _

theorem length_runAll (loads : Toml.Loader) (steps : List Step) (s : State) :
    (Step.runAll loads steps s).1.length = steps.length := by
  induction steps generalizing s with
  | nil => rfl
  | cons step steps ih => exact congrArg (· + 1) (ih _)

/-- The state that a step with a number comes to. -/
def stateAt (loads : Toml.Loader) (steps : List Step) (s : State) (i : Nat) : State :=
  (Step.runAll loads (steps.take i) s).2

theorem getElem?_runAll {i : Nat} (h : steps[i]? = some step) (s : State) :
    (Step.runAll loads steps s).1[i]? = some (step.run loads (stateAt loads steps s i)).1 := by
  induction steps generalizing s i with
  | nil => cases h
  | cons first steps ih =>
    rcases i with - | i
    · obtain rfl := Option.some.inj h
      rfl
    · exact ih h _

theorem stateAt_succ {i : Nat} (h : steps[i]? = some step) (s : State) :
    stateAt loads steps s (i + 1) = (step.run loads (stateAt loads steps s i)).2 := by
  rw [stateAt, stateAt, state_runAll, state_runAll, List.take_add_one, h, List.foldl_append]
  rfl

theorem Files.after_take_succ {i : Nat} (h : steps[i]? = some step) (files : Files) :
    files.after (steps.take (i + 1)) = step.filesAfter (files.after (steps.take i)) := by
  rw [Files.after, Files.after, List.take_add_one, h, List.foldl_append]
  rfl

/-- What is known for each text when the step with a number comes: nothing when no earlier step
got a configuration for it, and else what the first such step read. -/
structure KnownAt (loads : Toml.Loader) (steps : List Step) (files : Files)
    (replies : List Reply) (i : Nat) (s : State) : Prop where
  now : s.files = files.after (steps.take i)
  nothing : ∀ given, s.cache.known.lookup given = none →
    ∀ j < i, ¬ SucceedsAt steps replies given j
  first : ∀ given config, s.cache.known.lookup given = some config →
    ∃ j < i, FirstSuccessAt steps replies given j ∧
      read loads (files.after (steps.take j)) given = .ok config

/-- What is known stays right over a step. -/
theorem KnownAt.succ {replies : List Reply} {i : Nat} (h : KnownAt loads steps files replies i s)
    (hstep : steps[i]? = some step) (hreply : replies[i]? = some (step.run loads s).1)
    (hwithin : s.cache.Within texts) (htexts : ∀ given ∈ step.given?, given ∈ texts)
    (hroom : texts.card ≤ ConfigCache.capacity) :
    KnownAt loads steps files replies (i + 1) (step.run loads s).2 := by
  obtain ⟨hfiles, -, hrun⟩ := step.run_spec hwithin htexts hroom
  have hsucceeds := succeedsAt_iff hstep hreply
  have hbelow : ∀ given, (∀ j < i, ¬ SucceedsAt steps replies given j) →
      ¬ SucceedsAt steps replies given i → ∀ j < i + 1, ¬ SucceedsAt steps replies given j := by
    intro given hbefore hnow j hj
    rcases Nat.lt_succ_iff_lt_or_eq.mp hj with hlt | rfl
    · exact hbefore j hlt
    · exact hnow
  refine ⟨?_, fun given hnone => ?_, fun given config hsome => ?_⟩
  · rw [hfiles, h.now, Files.after_take_succ hstep]
  · by_cases hgiven : step.given? = some given
    · -- nothing was known, and nothing was read now
      obtain ⟨hanswer, hlookup⟩ := (hrun given).1 hgiven
      rw [hlookup, Option.or_eq_none_iff] at hnone
      refine hbelow given (h.nothing given hnone.1) fun hnow => ?_
      have hsuccess := ((hsucceeds given).mp hnow).2
      rw [hanswer, step.isSuccess_replyOf hgiven, hnone.1, Option.elim_none] at hsuccess
      cases hread : read loads s.files given with
      | ok config => rw [hread] at hnone; cases hnone.2
      | error e => rw [hread] at hsuccess; cases hsuccess
    · rw [(hrun given).2 hgiven] at hnone
      exact hbelow given (h.nothing given hnone) fun hnow => hgiven ((hsucceeds given).mp hnow).1
  · have hearlier : s.cache.known.lookup given = some config → ∃ j < i + 1,
        FirstSuccessAt steps replies given j ∧
          read loads (files.after (steps.take j)) given = .ok config := by
      intro hknown
      obtain ⟨j, hj, hfirst⟩ := h.first given config hknown
      exact ⟨j, Nat.lt_succ_of_lt hj, hfirst⟩
    by_cases hgiven : step.given? = some given
    · obtain ⟨hanswer, hlookup⟩ := (hrun given).1 hgiven
      rw [hlookup, Option.or_eq_some_iff] at hsome
      rcases hsome with hknown | ⟨hnone, hnew⟩
      · exact hearlier hknown
      · -- this step is the first one
        have hread : read loads s.files given = .ok config := by
          cases hread : read loads s.files given with
          | ok config' => rw [hread] at hnew; rw [Option.some.inj hnew]
          | error e => rw [hread] at hnew; cases hnew
        have hnow : SucceedsAt steps replies given i := by
          refine (hsucceeds given).mpr ⟨hgiven, ?_⟩
          rw [hanswer, step.isSuccess_replyOf hgiven, hnone, Option.elim_none, hread]
          rfl
        exact ⟨i, Nat.lt_succ_self i, ⟨hnow, h.nothing given hnone⟩, by rw [← h.now, hread]⟩
    · rw [(hrun given).2 hgiven] at hsome
      exact hearlier hsome

/-- The texts that are given in some steps. -/
def givenIn (steps : List Step) : Finset (Option String) :=
  (steps.filterMap Step.given?).toFinset

theorem mem_givenIn_of_getElem? {i : Nat} (h : steps[i]? = some step) :
    ∀ given ∈ step.given?, given ∈ givenIn steps := fun _ hgiven =>
  List.mem_toFinset.mpr (List.mem_filterMap.mpr ⟨step, List.mem_of_getElem? h, hgiven⟩)

/-- **Before every step, what is known is what was read first.** -/
theorem knownAt_stateAt (loads : Toml.Loader) (files : Files)
    (hroom : (givenIn steps).card ≤ ConfigCache.capacity) {i : Nat} (hi : i ≤ steps.length) :
    KnownAt loads steps files (Step.runAll loads steps ⟨files, .empty⟩).1 i
        (stateAt loads steps ⟨files, .empty⟩ i) ∧
      (stateAt loads steps ⟨files, .empty⟩ i).cache.Within (givenIn steps) := by
  induction i with
  | zero =>
    exact ⟨⟨rfl, fun _ _ j hj => absurd hj (Nat.not_lt_zero j), nofun⟩,
      ConfigCache.within_empty _⟩
  | succ i ih =>
    obtain ⟨hknown, hwithin⟩ := ih (Nat.le_of_succ_le hi)
    have hstep : steps[i]? = some steps[i] := List.getElem?_eq_getElem hi
    have htexts := mem_givenIn_of_getElem? hstep
    rw [stateAt_succ hstep]
    exact ⟨hknown.succ hstep (getElem?_runAll hstep _) hwithin htexts hroom,
      (Step.run_spec hwithin htexts hroom).2.1⟩

/-! ### Answers for one text -/

theorem Step.filesAfter_of_given {step : Step} (h : step.given? ≠ none) (files : Files) :
    step.filesAfter files = files := by
  cases step with
  | setWork | setHome => exact absurd rfl h
  | read | default => rfl

/-- Steps that read for other texts can be left out. -/
theorem answersFor_filter {s s' : State}
    (hsteps : ∀ step ∈ steps, ∀ given ∈ step.given?, given ∈ texts)
    (hroom : texts.card ≤ ConfigCache.capacity) (given : Option String)
    (hfiles : s.files = s'.files)
    (hlookup : s.cache.known.lookup given = s'.cache.known.lookup given)
    (hwithin : s.cache.Within texts) (hwithin' : s'.cache.Within texts) :
    answersFor given steps (Step.runAll loads steps s).1 =
      answersFor given (steps.filter (·.concerns given))
        (Step.runAll loads (steps.filter (·.concerns given)) s').1 := by
  induction steps generalizing s s' with
  | nil => rfl
  | cons step steps ih =>
    obtain ⟨hstep, hsteps⟩ := List.forall_mem_cons.mp hsteps
    obtain ⟨hafter, hstill, hrun⟩ := step.run_spec hwithin hstep hroom
    obtain ⟨hafter', hstill', hrun'⟩ := step.run_spec hwithin' hstep hroom
    have hcons : ∀ steps s,
        answersFor given (step :: steps) (Step.runAll loads (step :: steps) s).1 =
        (if step.given? = some given then [(step.run loads s).1] else []) ++
          answersFor given steps (Step.runAll loads steps (step.run loads s).2).1 := by
      intro steps s
      by_cases hgiven : step.given? = some given <;>
        simp [answersFor, Step.runAll, hgiven]
    by_cases hconcerns : step.concerns given
    · rw [List.filter_cons_of_pos hconcerns, hcons, hcons]
      by_cases hgiven : step.given? = some given
      · rw [ih hsteps (by rw [hafter, hafter', hfiles])
          (by rw [((hrun given).1 hgiven).2, ((hrun' given).1 hgiven).2, hlookup, hfiles])
          hstill hstill', ((hrun given).1 hgiven).1, ((hrun' given).1 hgiven).1, hlookup, hfiles]
      · rw [ih hsteps (by rw [hafter, hafter', hfiles])
          (by rw [(hrun given).2 hgiven, (hrun' given).2 hgiven, hlookup]) hstill hstill',
          if_neg hgiven, if_neg hgiven]
    · -- a step that reads for another text
      have hother : step.given? ≠ none ∧ step.given? ≠ some given := by
        rw [Step.concerns] at hconcerns
        exact ⟨fun h => hconcerns (by rw [h]; rfl), fun h => hconcerns (by rw [h]; simp)⟩
      rw [List.filter_cons_of_neg hconcerns, hcons, if_neg hother.2, List.nil_append]
      refine ih hsteps ?_ ?_ hstill hwithin'
      · rw [hafter, Step.filesAfter_of_given hother.1, hfiles]
      · rw [(hrun given).2 hother.2, hlookup]

/-- **The first configuration that was read stays, and no error does.** Let the texts that are
given in all steps be at most as many as the cache has room for, and let nothing be known at the
start. A step that reads the configuration for a text, or looks up a default value in it, is
answered

* from the files as they were at the first step that got a configuration for this text, if this
  step was earlier,
* and else from the files as they are now, with the configuration or the error that they give.

The answers for one text do not depend on the steps that read for others. -/
theorem reply_from_first_success (loads : Toml.Loader) (files : Files) (steps : List Step)
    (hroom : (givenIn steps).card ≤ ConfigCache.capacity) :
    let replies := (Step.runAll loads steps ⟨files, .empty⟩).1
    replies.length = steps.length ∧
    ∀ given,
      (∀ i step, steps[i]? = some step → step.given? = some given →
        (∀ j < i, FirstSuccessAt steps replies given j →
          replies[i]? = some (step.replyOf (read loads (files.after (steps.take j)) given))) ∧
        ((∀ j < i, ¬ SucceedsAt steps replies given j) →
          replies[i]? = some (step.replyOf (read loads (files.after (steps.take i)) given)))) ∧
      ∀ steps', (givenIn steps').card ≤ ConfigCache.capacity →
        steps'.filter (·.concerns given) = steps.filter (·.concerns given) →
        answersFor given steps' (Step.runAll loads steps' ⟨files, .empty⟩).1 =
          answersFor given steps replies := by
  intro replies
  refine ⟨length_runAll _ _ _, fun given => ⟨fun i step hstep hgiven => ?_, ?_⟩⟩
  · have hi : i ≤ steps.length := (List.getElem?_eq_some_iff.mp hstep).1.le
    obtain ⟨hknown, hwithin⟩ := knownAt_stateAt loads files hroom hi
    obtain ⟨-, -, hrun⟩ := step.run_spec hwithin (mem_givenIn_of_getElem? hstep) hroom
    have hreply : replies[i]? = some (step.replyOf
        (((stateAt loads steps ⟨files, .empty⟩ i).cache.known.lookup given).elim
          (read loads (files.after (steps.take i)) given) .ok)) := by
      rw [getElem?_runAll hstep, ((hrun given).1 hgiven).1, hknown.now]
    rw [hreply]
    cases hlookup : (stateAt loads steps ⟨files, .empty⟩ i).cache.known.lookup given with
    | none =>
      exact ⟨fun j hj hfirst => absurd hfirst.1 (hknown.nothing given hlookup j hj),
        fun _ => rfl⟩
    | some config =>
      obtain ⟨j, hj, hfirst, hread⟩ := hknown.first given config hlookup
      refine ⟨fun k _ hk => ?_, fun hnone => absurd hfirst.1 (hnone j hj)⟩
      rw [← hfirst.unique hk, hread, Option.elim_some]
  · intro steps' hroom' hfilter
    have halone : ∀ steps, (givenIn steps).card ≤ ConfigCache.capacity →
        answersFor given steps (Step.runAll loads steps ⟨files, .empty⟩).1 =
          answersFor given (steps.filter (·.concerns given))
            (Step.runAll loads (steps.filter (·.concerns given)) ⟨files, .empty⟩).1 := by
      intro steps hroom
      refine answersFor_filter (fun step hstep => ?_) hroom given rfl rfl
        (ConfigCache.within_empty _) (ConfigCache.within_empty _)
      obtain ⟨i, hi⟩ := List.mem_iff_getElem?.mp hstep
      exact mem_givenIn_of_getElem? hi
    rw [halone steps' hroom', hfilter, ← halone steps hroom]

/-- While the file in the working directory cannot be decoded, there is an error. When it is
removed, the bundled configuration is read, and this stays when the file is broken again; for
another text there is still an error then. -/
theorem reply_from_first_success_repaired :
    let steps : List Step := [.setWork (some (.bytes [0xFF])), .default "generate" "--symbol" none,
      .setWork none, .default "generate" "--symbol" none, .setWork (some (.bytes [0xFF])),
      .read none, .read (some "")]
    let replies := (Step.runAll Toml.loads steps ⟨⟨none, none⟩, .empty⟩).1
    (givenIn steps).card ≤ ConfigCache.capacity ∧
    ∃ e, replies[1]? = some (.default (.error e)) ∧
      replies[3]? = some (.default (.ok (some (.text "<s>")))) ∧
      replies[5]? = some (.config (.ok ⟨bundledSections⟩)) ∧
      replies[6]? = some (.config (.error e)) := by
  intro steps replies
  obtain ⟨e, hbroken⟩ : ∃ e, ∀ given,
      read Toml.loads ⟨some (.bytes [0xFF]), none⟩ given = .error e :=
    ⟨_, fun _ => rfl⟩
  have hroom : (givenIn steps).card ≤ ConfigCache.capacity := by decide
  obtain ⟨-, hreplies⟩ := reply_from_first_success Toml.loads ⟨none, none⟩ steps hroom
  obtain ⟨hnone, -⟩ := hreplies none
  have hwrite : ∀ {given i content}, steps[i]? = some (.setWork content) →
      ¬ SucceedsAt steps replies given i := by
    rintro given i content hstep ⟨_, _, hstep', hgiven, -⟩
    obtain rfl := Option.some.inj (hstep.symm.trans hstep')
    cases hgiven
  have h1 : replies[1]? = some (.default (.error e)) := by
    refine ((hnone 1 _ rfl rfl).2 fun j hj => ?_).trans ?_
    · obtain rfl : j = 0 := Nat.lt_one_iff.mp hj
      exact hwrite rfl
    · exact congrArg (fun r => some (Step.replyOf r _)) (hbroken none)
  have hfail1 : ¬ SucceedsAt steps replies none 1 := by
    rw [succeedsAt_iff rfl h1]
    exact fun h => Bool.false_ne_true h.2
  have hbefore3 : ∀ j < 3, ¬ SucceedsAt steps replies none j := by
    intro j hj
    obtain rfl | rfl | rfl : j = 0 ∨ j = 1 ∨ j = 2 := by omega
    · exact hwrite rfl
    · exact hfail1
    · exact hwrite rfl
  have hbundled : read Toml.loads (Files.after ⟨none, none⟩ (steps.take 3)) none =
      .ok ⟨bundledSections⟩ :=
    read_bundled readsBundled_loads
  have h3 : replies[3]? = some (.default (.ok (some (.text "<s>")))) := by
    have hdefault : Config.default? ⟨bundledSections⟩ "generate" "--symbol" =
        some (.text "<s>") := by decide
    rw [(hnone 3 _ rfl rfl).2 hbefore3, hbundled, Step.replyOf, Except.map, hdefault]
  have hfirst : FirstSuccessAt steps replies none 3 :=
    ⟨(succeedsAt_iff rfl h3 none).mpr ⟨rfl, rfl⟩, hbefore3⟩
  refine ⟨hroom, e, h1, h3, ?_, ?_⟩
  · rw [(hnone 5 _ rfl rfl).1 3 (by decide) hfirst, hbundled, Step.replyOf]
  · refine (((hreplies (some "")).1 6 _ rfl rfl).2 fun j hj => ?_).trans
      (congrArg (fun r => some (Step.replyOf r _)) (hbroken (some "")))
    -- no earlier step reads for this text
    have hothers : ∀ step ∈ steps.take 6, step.given? ≠ some (some "") := by decide
    rintro ⟨step, _, hstep, hgiven, -⟩
    exact hothers step (List.mem_of_getElem? ((List.getElem?_take_of_lt hj).trans hstep)) hgiven

end Config

end SentenceGen
