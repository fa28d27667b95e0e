import SentenceGen.Proofs.Cli.SessionRun

/-!
# What an answer leads to

`Session.answer` is one step of a session, and there are seven things that can come of a line: the
rules of `Session.Step` (`step_iff`). Whatever holds of sessions is read off these rules.

* A session over a grammar stays **sound**: its source is a generator, and it only asks for numbers
  of sentences for symbols of the grammar (`Sound.of_step`).
* A sound session ends with a blank answer to the question for a symbol, or where a derivation is
  nested too deep, and in no other way (`Sound.ending_cases`).
* A session that goes on has asked exactly one question (`length_questionsOf_of_step`).
-/

namespace SentenceGen.Cli

variable {g : Grammar} {depth : Nat} {symbol line : String} {source : Source}

/-! ### Sentences and questions among events -/

/-- The text of a sentence. -/
def Event.sentence? : Event → Option String
  | .sentence _ text => some text
  | _ => none

/-- The sentences that were told, in order. -/
def sentencesOf (events : List Event) : List String :=
  events.filterMap Event.sentence?

theorem sentencesOf_append (events more : List Event) :
    sentencesOf (events ++ more) = sentencesOf events ++ sentencesOf more :=
  List.filterMap_append

/-- A batch tells nothing but what was drawn. -/
theorem exists_draw_of_mem_batch {σ ε : Type} {draw : EStateM (DerivationError ε) σ Event} {n : Nat}
    {s : σ} {e : Event} (h : e ∈ (batch draw n s).1) : ∃ s₁ s₂ : σ, draw s₁ = .ok e s₂ := by
  induction n generalizing s with
  | zero => cases h
  | succ n ih =>
    rw [batch] at h
    cases hcall : draw s with
    | error e' s' =>
      rw [hcall] at h
      cases h
    | ok e' s' =>
      rw [hcall] at h
      rcases List.mem_cons.mp h with rfl | hmem
      · exact ⟨s, s', hcall⟩
      · exact ih hmem

/-- A batch of sentences tells nothing but sentences that are generated. -/
theorem exists_sentence_of_mem_batch {σ ε : Type} {c : Chooser σ ε} {n : Nat} {s : σ} {e : Event}
    (h : e ∈ (batch (drawSentence g c depth symbol) n s).1) :
    ∃ (text : String) (s₁ s₂ : σ),
      g.generate c depth symbol s₁ = .ok text s₂ ∧ e = .sentence symbol text := by
  obtain ⟨s₁, s₂, hdraw⟩ := exists_draw_of_mem_batch h
  rw [drawSentence, map_apply] at hdraw
  obtain ⟨text, hcall, rfl⟩ := Outcome.map_eq_ok_iff.mp hdraw
  exact ⟨text, s₁, s₂, hcall, rfl⟩

/-- **A batch with the choices of a generator** leaves a generator, or is nested too deep. -/
theorem batch_of_twister (hg : g.WellFormed) (hsymbol : g.defines symbol = true)
    (hsource : ∃ t, source = .twister t) (n : Nat) :
    (∃ t, (batch (drawSentence g Source.chooser depth symbol) n source).2 = .ok (.twister t)) ∨
      (batch (drawSentence g Source.chooser depth symbol) n source).2 = .error .tooDeep := by
  have hunrefused := Grammar.unrefused_mapM_generate hg Source.honestOn_twister depth
    (Grammar.defines_of_mem_replicate hsymbol n) hsource
  cases hcalls : (List.replicate n symbol).mapM (g.generate Source.chooser depth) source with
  | ok sentences source' =>
    rw [hcalls] at hunrefused
    cases hunrefused with
    | ok _ hsource' =>
      obtain ⟨t, rfl⟩ := hsource'
      exact Or.inl ⟨t, by rw [batch_of_mapM_ok hcalls]⟩
  | error e source' =>
    rw [hcalls] at hunrefused
    cases hunrefused with
    | tooDeep => exact Or.inr (batch_of_mapM_error hcalls)

namespace Session

variable {s s' : Session} {events : List Event} {result : Except Ending Session} {ending : Ending}

/-! ### Lines one after the other -/

/-- A session that goes on behind some lines has gone on behind the first of them. -/
theorem exists_of_answers_cons {lines : List String} {shown : List Event}
    (h : answers g depth s (line :: lines) = (shown, .ok s')) :
    ∃ (events : List Event) (s₁ : Session) (later : List Event),
      s.answer g depth line = (events, .ok s₁) ∧ answers g depth s₁ lines = (later, .ok s') ∧
        shown = events ++ later := by
  rcases hanswer : s.answer g depth line with ⟨events, ending | s₁⟩
  · rw [answers_cons_of_error (congrArg Prod.snd hanswer)] at h
    cases (Prod.mk.inj h).2
  · rw [answers_cons_of_ok hanswer] at h
    obtain ⟨rfl, hlater⟩ := Prod.mk.inj h
    exact ⟨events, s₁, _, rfl, Prod.ext rfl hlater, rfl⟩

/-- Answers to some lines and then to others are answers to all of them. -/
theorem answers_append_of_ok {before : List String} {shown : List Event}
    (h : answers g depth s before = (shown, .ok s')) (after : List String) :
    answers g depth s (before ++ after) =
      (shown ++ (answers g depth s' after).1, (answers g depth s' after).2) := by
  induction before generalizing s shown with
  | nil =>
    obtain ⟨rfl, hs⟩ := Prod.mk.inj h
    obtain rfl := Except.ok.inj hs
    rfl
  | cons line before ih =>
    obtain ⟨events, s₁, later, hanswer, hlater, rfl⟩ := exists_of_answers_cons h
    rw [List.cons_append, answers_cons_of_ok hanswer, ih hlater, List.append_assoc]

/-- The ending of a session with these answers; one that goes on ends well. -/
def endingOf (result : Except Ending Session) : Ending :=
  match result with
  | .error ending => ending
  | .ok _ => .exit success

/-- A session is its answers to the lines and to two ends of the input behind them. -/
theorem run_eq (g : Grammar) (depth : Nat) (source : Source) (lines : List String) :
    run g depth source lines =
      ((answers g depth (start source) (lines ++ ["", ""])).1,
        endingOf (answers g depth (start source) (lines ++ ["", ""])).2) := by
  rw [run]
  rcases answers g depth (start source) (lines ++ ["", ""]) with ⟨events, ending | s⟩ <;> rfl

/-! ### The rules of a session -/

/-- What comes of a line that answers the question of a session: what is shown, and the session that
goes on or the ending. -/
inductive Step (g : Grammar) (depth : Nat) :
    Session → String → List Event → Except Ending Session → Prop
  | blank (source : Source) {line : String} (hblank : Text.trimString line = "") :
      Step g depth ⟨source, .symbol⟩ line [] (.error (.exit success))
  | symbol (source : Source) {line : String} (hne : Text.trimString line ≠ "")
      (hdefined : g.defines (Text.trimString line) = true) :
      Step g depth ⟨source, .symbol⟩ line [.question .count]
        (.ok ⟨source, .count (Text.trimString line)⟩)
  | unknownSymbol (source : Source) {line : String} (hne : Text.trimString line ≠ "")
      (hundefined : g.defines (Text.trimString line) = false) :
      Step g depth ⟨source, .symbol⟩ line
        [.complaint program (.unknownSymbol (Text.trimString line) g.listing), .question .symbol]
        (.ok ⟨source, .symbol⟩)
  | notANumber (source : Source) (symbol : String) {line : String}
      (hread : Text.integer? (Text.trimString line) = none) :
      Step g depth ⟨source, .count symbol⟩ line
        [.complaint program (.notANumber (Text.trimString line)), .question .symbol]
        (.ok ⟨source, .symbol⟩)
  | negativeCount (source : Source) (symbol : String) {line : String} {n : Int}
      (hread : Text.integer? (Text.trimString line) = some n) (hnegative : n < 0) :
      Step g depth ⟨source, .count symbol⟩ line
        [.complaint program (.negativeCount (toString n)), .question .symbol]
        (.ok ⟨source, .symbol⟩)
  | batch {source source' : Source} {symbol line : String} {n : Nat} {events : List Event}
      (hread : Text.integer? (Text.trimString line) = some (n : Int))
      (hbatch : Cli.batch (drawSentence g Source.chooser depth symbol) n source =
        (events, .ok source')) :
      Step g depth ⟨source, .count symbol⟩ line (events ++ [.batchEnd, .question .symbol])
        (.ok ⟨source', .symbol⟩)
  | failure {source : Source} {symbol line : String} {n : Nat} {events : List Event}
      {e : DerivationError SourceError}
      (hread : Text.integer? (Text.trimString line) = some (n : Int))
      (hbatch : Cli.batch (drawSentence g Source.chooser depth symbol) n source =
        (events, .error e)) :
      Step g depth ⟨source, .count symbol⟩ line events (.error (.fault (.derivation e)))

/-- A rule tells what is answered. -/
theorem Step.answer_eq (h : Step g depth s line events result) :
    s.answer g depth line = (events, result) := by
  cases h with
  | blank source hblank => simp [answer, hblank]
  | symbol source hne hdefined => simp [answer, hne, hdefined]
  | unknownSymbol source hne hundefined => simp [answer, hne, hundefined, complain]
  | notANumber source symbol hread => simp [answer, hread, complain]
  | negativeCount source symbol hread hnegative => simp [answer, hread, hnegative, complain]
  | @batch source source' symbol line n events hread hbatch =>
    have hnonneg : ¬ (n : Int) < 0 := Int.not_lt.mpr (Int.natCast_nonneg n)
    simp [answer, hread, hnonneg, hbatch]
  | @failure source symbol line n events e hread hbatch =>
    have hnonneg : ¬ (n : Int) < 0 := Int.not_lt.mpr (Int.natCast_nonneg n)
    simp [answer, hread, hnonneg, hbatch]

/-- Every line is answered by one of the rules. -/
theorem step_answer (g : Grammar) (depth : Nat) (s : Session) (line : String) :
    Step g depth s line (s.answer g depth line).1 (s.answer g depth line).2 := by
  obtain ⟨source, waiting⟩ := s
  suffices h : ∃ events result, Step g depth ⟨source, waiting⟩ line events result by
    obtain ⟨events, result, hstep⟩ := h
    rwa [hstep.answer_eq]
  cases waiting with
  | symbol =>
    by_cases hblank : Text.trimString line = ""
    · exact ⟨_, _, .blank source hblank⟩
    · cases hdefined : g.defines (Text.trimString line) with
      | true => exact ⟨_, _, .symbol source hblank hdefined⟩
      | false => exact ⟨_, _, .unknownSymbol source hblank hdefined⟩
  | count symbol =>
    cases hread : Text.integer? (Text.trimString line) with
    | none => exact ⟨_, _, .notANumber source symbol hread⟩
    | some n =>
      by_cases hnegative : n < 0
      · exact ⟨_, _, .negativeCount source symbol hread hnegative⟩
      · obtain ⟨n, rfl⟩ := Int.eq_ofNat_of_zero_le (Int.not_lt.mp hnegative)
        rcases hbatch : Cli.batch (drawSentence g Source.chooser depth symbol) n source with
          ⟨events, e | source'⟩
        · exact ⟨_, _, .failure hread hbatch⟩
        · exact ⟨_, _, .batch hread hbatch⟩

/-- **An answer is given by exactly one of the rules.** -/
theorem step_iff :
    Step g depth s line events result ↔ s.answer g depth line = (events, result) := by
  constructor
  · exact Step.answer_eq
  · intro h
    have hstep := step_answer g depth s line
    rwa [h] at hstep

/-- A session whose choices a generator makes, and which asks for numbers of sentences only for
symbols of the grammar. -/
structure Sound (g : Grammar) (s : Session) : Prop where
  source : ∃ t, s.source = .twister t
  defined : ∀ symbol, s.waiting = .count symbol → g.defines symbol = true

theorem sound_start (g : Grammar) (t : Twister) : Sound g (start (.twister t)) :=
  ⟨⟨t, rfl⟩, fun _ h => Waiting.noConfusion h⟩

/-- **A session stays sound** as long as it goes on. -/
theorem Sound.of_step (hg : g.WellFormed) (hs : s.Sound g)
    (h : Step g depth s line events (.ok s')) : s'.Sound g := by
  generalize hresult : Except.ok s' = result at h
  cases h with
  | blank | failure => cases hresult
  | symbol source hne hdefined =>
    obtain rfl := Except.ok.inj hresult
    refine ⟨hs.source, fun symbol hwaiting => ?_⟩
    rwa [← Waiting.count.inj hwaiting]
  | unknownSymbol | notANumber | negativeCount =>
    obtain rfl := Except.ok.inj hresult
    exact ⟨hs.source, fun _ h => Waiting.noConfusion h⟩
  | batch hread hbatch =>
    obtain rfl := Except.ok.inj hresult
    rcases batch_of_twister hg (hs.defined _ rfl) hs.source _ with ⟨t, ht⟩ | hdeep
    · rw [hbatch] at ht
      exact ⟨⟨t, Except.ok.inj ht⟩, fun _ h => Waiting.noConfusion h⟩
    · rw [hbatch] at hdeep
      cases hdeep

/-- So it does over several lines. -/
theorem Sound.of_answers (hg : g.WellFormed) (hs : s.Sound g) {lines : List String}
    {shown : List Event} (h : answers g depth s lines = (shown, .ok s')) : s'.Sound g := by
  induction lines generalizing s shown with
  | nil =>
    obtain ⟨-, hsame⟩ := Prod.mk.inj h
    rwa [← Except.ok.inj hsame]
  | cons line lines ih =>
    obtain ⟨events, s₁, later, hanswer, hlater, -⟩ := exists_of_answers_cons h
    exact ih (hs.of_step hg (step_iff.mpr hanswer)) hlater

/-- **How a sound session ends**: with a blank answer to the question for a symbol, or in a
derivation that is nested too deep. -/
theorem Sound.ending_cases (hg : g.WellFormed) (hs : s.Sound g)
    (h : Step g depth s line events (.error ending)) :
    (s.waiting = .symbol ∧ Text.trimString line = "" ∧ ending = .exit success) ∨
      (∃ symbol, s.waiting = .count symbol) ∧ ending = .fault (.derivation .tooDeep) := by
  generalize hresult : Except.error ending = result at h
  cases h with
  | symbol | unknownSymbol | notANumber | negativeCount | batch => cases hresult
  | blank source hblank => exact Or.inl ⟨rfl, hblank, Except.error.inj hresult⟩
  | failure hread hbatch =>
    refine Or.inr ⟨⟨_, rfl⟩, ?_⟩
    rcases batch_of_twister hg (hs.defined _ rfl) hs.source _ with ⟨t, ht⟩ | hdeep
    · rw [hbatch] at ht
      cases ht
    · rw [hbatch] at hdeep
      rw [Except.error.inj hresult, Except.error.inj hdeep]

end Session

end SentenceGen.Cli
