import SentenceGen.Proofs.Cli.SeededRuns
import SentenceGen.Proofs.Cli.SessionStep
import SentenceGen.Proofs.Derivation.Acyclic
import SentenceGen.Proofs.Grammar.Reload

/-!
# Answering with a symbol that is listed

A session lists the symbols of its grammar, and asks for one. A symbol may end in blanks, as it is
what stands in front of the separator; it is listed with them, but an answer is trimmed. So the
symbols that can be asked for by typing them are those that do not end in a blank
(`Session.answer_eq_iff_endsSolid`). Typing another one does not end the session either, but is
taken for the text without these blanks.

A symbol that can be asked for gets as many sentences as are asked for, each that of a derivation
tree, unless one of these is nested too deep (`listed_symbol_answered`).
-/

namespace SentenceGen.Cli

variable {g : Grammar} {depth : Nat} {symbol text : String} {source : Source}

namespace Session

/-- **A symbol that is typed does not end a session**: the question for a number follows, or it is
not known and the question for a symbol comes again. -/
theorem exists_answer_of_defines (hg : Grammar.ofText text = .ok g)
    (hsymbol : g.defines symbol = true) (source : Source) :
    ∃ events s, answer g depth ⟨source, .symbol⟩ symbol = (events, .ok s) := by
  have hne : Text.trimString symbol ≠ "" := by
    have hsymbol_ne : symbol.toList ≠ [] := by
      simpa using (Grammar.wellFormed_of_ofLines hg).ne_empty_of_defines hsymbol
    have htrim := Text.trim_ne_nil (Grammar.startsSolid_of_defines hg hsymbol) hsymbol_ne
    simpa [Text.trimString] using htrim
  cases hdefined : g.defines (Text.trimString symbol) with
  | true => exact ⟨_, _, (Step.symbol source hne hdefined).answer_eq⟩
  | false => exact ⟨_, _, (Step.unknownSymbol source hne hdefined).answer_eq⟩

/-- **The symbols that can be asked for** are those that do not end in a blank. -/
theorem answer_eq_iff_endsSolid (hg : Grammar.ofText text = .ok g)
    (hsymbol : g.defines symbol = true) (source : Source) :
    answer g depth ⟨source, .symbol⟩ symbol =
        ([.question .count], .ok ⟨source, .count symbol⟩) ↔
      Text.EndsSolid symbol.toList := by
  have hstarts := Grammar.startsSolid_of_defines hg hsymbol
  constructor
  · intro hanswer
    -- only the rule for a symbol asks for a number, and it does so for the trimmed answer
    have hstep : Step g depth ⟨source, .symbol⟩ symbol [.question .count]
        (.ok ⟨source, .count symbol⟩) := step_iff.mpr hanswer
    generalize hresult : (.ok ⟨source, .count symbol⟩ : Except Ending Session) = result at hstep
    cases hstep with
    | symbol _ _ _ =>
      have htrim : symbol = Text.trimString symbol :=
        Waiting.count.inj (Session.mk.inj (Except.ok.inj hresult)).2
      exact (Text.trimString_eq_self_iff.mp htrim.symm).ends
  · intro hends
    have htrim := Text.trimString_eq_self_iff.mpr ⟨hstarts, hends⟩
    have hne : Text.trimString symbol ≠ "" := by
      rw [htrim]
      exact (Grammar.wellFormed_of_ofLines hg).ne_empty_of_defines hsymbol
    have hstep : Step g depth _ symbol _ _ := .symbol source hne (by rwa [htrim])
    rw [htrim] at hstep
    exact hstep.answer_eq

/-- **A symbol that was asked for gets its sentences**, those of as many derivation trees as were
asked for, unless one of these is nested too deep. -/
theorem answers_of_asked (hg : g.WellFormed) (hsymbol : g.defines symbol = true)
    (hasked : answer g depth ⟨source, .symbol⟩ symbol =
      ([.question .count], .ok ⟨source, .count symbol⟩))
    (hsource : ∃ t, source = .twister t) {typed : String} {n : Nat}
    (hnumber : Text.integer? (Text.trimString typed) = some (n : Int)) (lines : List String) :
    (∃ (trees : List Tree) (rest : Source),
      (List.replicate n symbol).mapM (g.derive Source.chooser depth) source = .ok trees rest ∧
        trees.length = n ∧ (∀ t ∈ trees, g.Derives symbol t) ∧
        answers g depth ⟨source, .symbol⟩ (symbol :: typed :: lines) =
          (.question .count :: trees.map (fun t => .sentence symbol t.sentence) ++
              .batchEnd :: .question .symbol :: (answers g depth ⟨rest, .symbol⟩ lines).1,
            (answers g depth ⟨rest, .symbol⟩ lines).2)) ∨
      ∃ rest : Source,
        (List.replicate n symbol).mapM (g.derive Source.chooser depth) source =
            .error .tooDeep rest ∧
          (answers g depth ⟨source, .symbol⟩ (symbol :: typed :: lines)).2 =
            .error (.fault (.derivation .tooDeep)) := by
  have hunrefused := Grammar.unrefused_mapM_derive hg Source.honestOn_twister depth
    (Grammar.defines_of_mem_replicate hsymbol n) hsource
  have hsentences := Grammar.mapM_generate g Source.chooser depth (List.replicate n symbol) source
  cases hcalls : (List.replicate n symbol).mapM (g.derive Source.chooser depth) source with
  | ok trees rest =>
    rw [hcalls, Outcome.map_ok] at hsentences
    have hcounted := (Step.batch hnumber (batch_of_mapM_ok hsentences)).answer_eq
    refine Or.inl ⟨trees, rest, rfl, ?_, fun t ht => ?_, ?_⟩
    · rw [Grammar.length_of_mapM_ok hcalls, List.length_replicate]
    · obtain ⟨x, hx, _, _, hcall⟩ := Grammar.exists_call_of_mem_mapM hcalls ht
      rw [List.eq_of_mem_replicate hx] at hcall
      exact Grammar.derives_of_derive hcall
    · rw [answers_cons_of_ok hasked, answers_cons_of_ok hcounted]
      simp [Function.comp_def]
  | error e rest =>
    rw [hcalls] at hunrefused
    cases hunrefused
    rw [hcalls, Outcome.map_error] at hsentences
    obtain ⟨events, hbatch⟩ : ∃ events,
        batch (drawSentence g Source.chooser depth symbol) n source = (events, .error .tooDeep) :=
      ⟨_, Prod.ext rfl (batch_of_mapM_error hsentences)⟩
    have hfailed := (Step.failure hnumber hbatch).answer_eq
    refine Or.inr ⟨rest, rfl, ?_⟩
    rw [answers_cons_of_ok hasked, answers_cons_of_error (congrArg Prod.snd hfailed)]

/-- A session that some lines have led to goes on with the lines behind them. -/
theorem run_of_answers_append {before : List String} {shown : List Event} {s : Session}
    (h : answers g depth (start source) before = (shown, .ok s)) (after : List String) :
    run g depth source (before ++ after) =
      (shown ++ (answers g depth s (after ++ ["", ""])).1,
        endingOf (answers g depth s (after ++ ["", ""])).2) := by
  rw [run_eq, List.append_assoc, answers_append_of_ok h]

end Session

/-- **A symbol that is listed is answered with its sentences, if it does not end in a blank.** Let a
run hold a session over a grammar from a file, and let some lines have led to the question for a
symbol. Then a symbol of the grammar that is typed does not end the session, and the question for a
number of sentences of this symbol follows exactly if it does not end in a blank. If a number is
typed below it, either there are so many derivation trees of the symbol, by the choices that come
next, and what is shown is the question, their sentences and the end of the batch, before the
session asks for a symbol again; or a derivation is nested too deep, and the run ends with this. -/
theorem listed_symbol_answered {env : Environment} {args : List String} {file : String}
    {seed : Option Quantity} {debug : Bool} (hasks : env.Asks args (.interactive file seed) debug)
    {g : Grammar} (hload : Grammar.load env.store file = .ok g) {symbol : String}
    (hsymbol : symbol ∈ g.symbols) {before : List String} {shown : List Event} {source : Source}
    (hbefore : Session.answers g env.limits.depth (Session.start (sourceOf env.entropy seed))
      before = (shown, .ok ⟨source, .symbol⟩)) :
    (∃ events s, Session.answer g env.limits.depth ⟨source, .symbol⟩ symbol = (events, .ok s)) ∧
      (Session.answer g env.limits.depth ⟨source, .symbol⟩ symbol =
          ([.question .count], .ok ⟨source, .count symbol⟩) ↔ Text.EndsSolid symbol.toList) ∧
      (Text.EndsSolid symbol.toList → ∀ (typed : String) (n : Nat) (after : List String),
        Text.integer? (Text.trimString typed) = some (n : Int) →
        Text.typedLines env.input = before ++ symbol :: typed :: after →
        (∃ (trees : List Tree) (rest : Source) (more : List Event),
          (List.replicate n symbol).mapM (g.derive Source.chooser env.limits.depth) source =
              .ok trees rest ∧
            trees.length = n ∧ (∀ t ∈ trees, g.Derives symbol t) ∧
            (env.run args).events = Session.shownBy g (shown ++ .question .count ::
              trees.map (fun t => .sentence symbol t.sentence) ++
                .batchEnd :: .question .symbol :: more)) ∨
          ∃ rest : Source,
            (List.replicate n symbol).mapM (g.derive Source.chooser env.limits.depth) source =
                .error .tooDeep rest ∧
              (env.run args).ending = .fault (.derivation .tooDeep)) := by
  obtain ⟨text, htext⟩ := Grammar.exists_ofText_of_load hload
  have hg : g.WellFormed := Grammar.wellFormed_of_ofLines htext
  have hdefined : g.defines symbol = true := Grammar.defines_iff_mem_symbols.mpr hsymbol
  refine ⟨Session.exists_answer_of_defines htext hdefined source,
    Session.answer_eq_iff_endsSolid htext hdefined source,
    fun hends typed n after hnumber hlines => ?_⟩
  have hstart : (Session.start (sourceOf env.entropy seed)).Sound g := by
    cases seed <;> exact Session.sound_start g _
  have hasked : Session.answer g env.limits.depth ⟨source, .symbol⟩ symbol = _ :=
    (Session.answer_eq_iff_endsSolid htext hdefined source).mpr hends
  have hrun : env.run args = _ := hasks.run_interactive hload
  rw [hlines, Session.run_of_answers_append hbefore, List.cons_append, List.cons_append] at hrun
  rcases Session.answers_of_asked hg hdefined hasked (hstart.of_answers hg hbefore).source hnumber
    (after ++ ["", ""]) with ⟨trees, rest, hcalls, hlength, hderives, hanswers⟩ |
    ⟨rest, hcalls, hfault⟩
  · refine Or.inl ⟨trees, rest,
      (Session.answers g env.limits.depth ⟨rest, .symbol⟩ (after ++ ["", ""])).1, hcalls, hlength,
      hderives, ?_⟩
    rw [hrun, hanswers]
    simp only [Session.shownBy, List.append_assoc, List.cons_append]
  · refine Or.inr ⟨rest, hcalls, ?_⟩
    rw [hrun, hfault]
    rfl

/-- A symbol that does not end in a blank, behind one that does: the first answer is not known, and
then two sentences are told. -/
theorem listed_symbol_answered_second :
    let env : Environment := .single .usual "<s>::=a|b\n<t> ::=c\n" "<t> \n<s>\n2"
    let g : Grammar := ⟨[⟨"<s>", [["a"], ["b"]]⟩, ⟨"<t> ", [["c"]]⟩]⟩
    let args := interactiveArgs "g" 7 none
    env.Asks args (.interactive "g" (some (.whole 7))) false ∧
      Grammar.load env.store "g" = .ok g ∧ "<s>" ∈ g.symbols ∧
      Session.answer g env.limits.depth (Session.start (Source.seeded 7)) "<t> " =
        ([.complaint Session.program (.unknownSymbol "<t>" g.listing), .question .symbol],
          .ok ⟨Source.seeded 7, .symbol⟩) ∧
      ∃ (t u : Tree) (more : List Event), g.Derives "<s>" t ∧ g.Derives "<s>" u ∧
        (env.run args).events = Session.shownBy g
          ([.complaint Session.program (.unknownSymbol "<t>" g.listing), .question .symbol,
            .question .count, .sentence "<s>" t.sentence, .sentence "<s>" u.sentence, .batchEnd,
            .question .symbol] ++ more) := by
  intro env g args
  have hasks : env.Asks args (.interactive "g" (some (.whole 7))) false :=
    .of_single _ _ _ (by decide +kernel)
  have hload : Grammar.load env.store "g" = .ok g := by decide +kernel
  have hsymbol : "<s>" ∈ g.symbols := by decide
  have hunknown : Session.Step g env.limits.depth ⟨Source.seeded 7, .symbol⟩ "<t> "
      [.complaint Session.program (.unknownSymbol "<t>" g.listing), .question .symbol]
      (.ok ⟨Source.seeded 7, .symbol⟩) :=
    .unknownSymbol _ (by decide +kernel) (by decide +kernel)
  have hbefore := Session.answers_cons_of_ok hunknown.answer_eq []
  obtain ⟨-, -, hanswered⟩ := listed_symbol_answered hasks hload hsymbol hbefore
  have hlines : Text.typedLines env.input = ["<t> "] ++ "<s>" :: "2" :: [] := by decide +kernel
  have hends : Text.EndsSolid "<s>".toList := by
    rintro c hc
    obtain rfl : '>' = c := Option.some.inj hc
    decide
  -- no derivation is nested deep
  have hg : g.WellFormed := Grammar.wellFormed_of_load hload
  obtain ⟨sentences, rest, hcalls⟩ : ∃ sentences rest, (List.replicate 2 "<s>").mapM
      (g.generate Source.chooser env.limits.depth) (Source.seeded 7) = .ok sentences rest :=
    Grammar.exists_mapM_generate hg Source.honestOn_twister (by decide +kernel)
      (fun symbol _ => Grammar.acyclic_of_terminal hg (by decide +kernel) symbol) (by decide)
      ⟨_, rfl⟩
  rcases hanswered hends "2" 2 [] (by decide +kernel) hlines with
    ⟨trees, _, more, -, hlength, hderives, hevents⟩ | ⟨_, hdeep, -⟩
  · obtain ⟨t, u, rfl⟩ := List.length_eq_two.mp hlength
    exact ⟨hasks, hload, hsymbol, hunknown.answer_eq, t, u, more, hderives t (by simp),
      hderives u (by simp), hevents⟩
  · rw [Grammar.mapM_generate, hdeep] at hcalls
    cases hcalls

/-- **A symbol that ends in a blank is listed but cannot be asked for.** The only symbol of the
grammar is listed; it is typed just so and is not known, and no sentence is told. -/
theorem listed_symbol_unknown :
    let env : Environment := .single .usual "<s> ::=a\n" "<s> \n1\n\n"
    let g : Grammar := ⟨[⟨"<s> ", [["a"]]⟩]⟩
    let args := interactiveArgs "g" 1 none
    env.Asks args (.interactive "g" (some (.whole 1))) false ∧
      Grammar.load env.store "g" = .ok g ∧ g.symbols = ["<s> "] ∧ g.listing = "[<s> ]" ∧
      Text.typedLines env.input = ["<s> ", "1", "", ""] ∧
      Session.answer g env.limits.depth (Session.start (Source.seeded 1)) "<s> " =
        ([.complaint Session.program (.unknownSymbol "<s>" "[<s> ]"), .question .symbol],
          .ok ⟨Source.seeded 1, .symbol⟩) ∧
      sentencesOf (env.run args).events = [] := by
  intro env g args
  have hasks : env.Asks args (.interactive "g" (some (.whole 1))) false :=
    .of_single _ _ _ (by decide +kernel)
  have hload : Grammar.load env.store "g" = .ok g := by decide +kernel
  have hlisting : g.listing = "[<s> ]" := by decide +kernel
  have hlines : Text.typedLines env.input = ["<s> ", "1", "", ""] := by decide +kernel
  have hsymbol : Session.Step g env.limits.depth ⟨Source.seeded 1, .symbol⟩ "<s> "
      [.complaint Session.program (.unknownSymbol "<s>" g.listing), .question .symbol]
      (.ok ⟨Source.seeded 1, .symbol⟩) :=
    .unknownSymbol _ (by decide +kernel) (by decide +kernel)
  have hnumber : Session.Step g env.limits.depth ⟨Source.seeded 1, .symbol⟩ "1"
      [.complaint Session.program (.unknownSymbol "1" g.listing), .question .symbol]
      (.ok ⟨Source.seeded 1, .symbol⟩) :=
    .unknownSymbol _ (by decide +kernel) (by decide +kernel)
  have hblank : Session.Step g env.limits.depth ⟨Source.seeded 1, .symbol⟩ "" []
      (.error (.exit success)) :=
    .blank _ (by decide +kernel)
  refine ⟨hasks, hload, rfl, hlisting, hlines, hlisting ▸ hsymbol.answer_eq, ?_⟩
  have hrun : Session.run g env.limits.depth (Source.seeded 1) (Text.typedLines env.input) =
      ([.complaint Session.program (.unknownSymbol "<s>" g.listing), .question .symbol,
        .complaint Session.program (.unknownSymbol "1" g.listing), .question .symbol],
        .exit success) := by
    have hall : Text.typedLines env.input ++ ["", ""] = ["<s> ", "1", "", "", "", ""] := by
      rw [hlines]
      rfl
    rw [Session.run_eq, hall, Session.start, Session.answers_cons_of_ok hsymbol.answer_eq,
      Session.answers_cons_of_ok hnumber.answer_eq,
      Session.answers_cons_of_error (congrArg Prod.snd hblank.answer_eq), hblank.answer_eq]
    rfl
  have hevents : (env.run args).events =
      Session.shownBy g (Session.run g env.limits.depth (Source.seeded 1)
        (Text.typedLines env.input)).1 :=
    congrArg Report.events (hasks.run_interactive hload)
  rw [hevents, hrun]
  rfl

end SentenceGen.Cli
