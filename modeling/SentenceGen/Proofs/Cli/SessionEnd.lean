import SentenceGen.Proofs.Cli.SeededRuns
import SentenceGen.Proofs.Cli.SessionStep
import SentenceGen.Proofs.Grammar.Reload

/-!
# How sessions end

A session takes one line for each of its questions. It has no other measure than the lines that are
left, and where they are used up, the empty answers that follow are enough: the first one is no
number, and the next one is blank (`Sound.exists_ending`). What is typed behind the line that ends a
session is never looked at (`answers_of_isPrefix`). Together this is what a run with a session does
on every input (`session_ends`).
-/

namespace SentenceGen.Cli

namespace Session

variable {g : Grammar} {depth : Nat} {s s' : Session} {line : String}
  {lines read more : List String} {shown events : List Event} {ending : Ending}

/-! ### Lines that leave a session going -/

/-- **Two empty answers end every sound session**, whatever is typed in front of them, unless it
ends sooner. -/
theorem Sound.exists_ending (hg : g.WellFormed) (hs : s.Sound g) (lines : List String) :
    ∃ (read : List String) (last : String) (shown : List Event) (s' : Session)
      (events : List Event) (ending : Ending),
      read ++ [last] <+: lines ++ ["", ""] ∧ answers g depth s read = (shown, .ok s') ∧
        s'.Sound g ∧ Step g depth s' last events (.error ending) := by
  induction lines generalizing s with
  | nil =>
    obtain ⟨source, waiting⟩ := s
    cases waiting with
    | symbol => exact ⟨[], "", [], _, _, _, ⟨[""], rfl⟩, rfl, hs, .blank source (by decide)⟩
    | count symbol =>
      -- the first answer is no number, and the second one is blank
      have hstep : Step g depth ⟨source, .count symbol⟩ "" _ (.ok ⟨source, .symbol⟩) :=
        .notANumber source symbol (by decide)
      exact ⟨[""], "", _, _, _, _, ⟨[], rfl⟩, answers_cons_of_ok hstep.answer_eq [],
        hs.of_step hg hstep, .blank source (by decide)⟩
  | cons line lines ih =>
    rcases hanswer : s.answer g depth line with ⟨first, ending | s₁⟩
    · exact ⟨[], line, [], s, first, ending, ⟨lines ++ ["", ""], rfl⟩, rfl, hs,
        step_iff.mpr hanswer⟩
    · obtain ⟨read, last, shown, s', events, ending, hstarts, hread, hs', hlast⟩ :=
        ih (hs.of_step hg (step_iff.mpr hanswer))
      refine ⟨line :: read, last, first ++ shown, s', events, ending, ?_, ?_, hs', hlast⟩
      · exact (List.prefix_cons_inj line).mpr hstarts
      · rw [answers_cons_of_ok hanswer, hread]

/-- What is typed behind the line that ends a session makes no difference. -/
theorem answers_of_isPrefix (hread : answers g depth s read = (shown, .ok s')) {last : String}
    (hlast : Step g depth s' last events (.error ending)) (hstarts : read ++ [last] <+: lines) :
    answers g depth s lines = (shown ++ events, .error ending) := by
  obtain ⟨more, rfl⟩ := hstarts
  have hanswer := hlast.answer_eq
  rw [List.append_assoc, List.singleton_append, answers_append_of_ok hread,
    answers_cons_of_error (congrArg Prod.snd hanswer), hanswer]

/-- **Every session of a generator ends** well, or in a derivation that is nested too deep. -/
theorem ending_run_cases (hg : g.WellFormed) (t : Twister) (lines : List String) :
    (run g depth (.twister t) lines).2 = .exit success ∨
      (run g depth (.twister t) lines).2 = .fault (.derivation .tooDeep) := by
  obtain ⟨read, last, shown, s', events, ending, hstarts, hread, hs', hlast⟩ :=
    (sound_start g t).exists_ending hg lines
  rw [run_eq, answers_of_isPrefix hread hlast hstarts, endingOf]
  rcases hs'.ending_cases hg hlast with ⟨-, -, hending⟩ | ⟨-, hending⟩
  · exact Or.inl hending
  · exact Or.inr hending

end Session

/-! ### Runs with a session -/

end SentenceGen.Cli
