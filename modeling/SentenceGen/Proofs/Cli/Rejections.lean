import SentenceGen.Proofs.Cli.SeededRuns
import SentenceGen.Proofs.Cli.SessionStep
import SentenceGen.Proofs.Derivation.Acyclic
import SentenceGen.Proofs.Grammar.Reload

/-!
# Rejected answers

An answer that is rejected leaves no trace in a session but a complaint: the session is back at the
question for a symbol with the same choices ahead. So lines that are rejected can be typed wherever
a session asks for a symbol without changing a sentence or the ending
(`rejections_without_effect`). What is written besides are the questions that they answer and one
line for each of them on the error stream.
-/

namespace SentenceGen.Cli

variable {g : Grammar} {depth : Nat}

/-! ### Rejections -/

/-- Lines that are typed where a session asks for a symbol, what it asks before the last of them is
answered, and its complaint. -/
structure Rejection where
  lines : List String
  between : List Question
  complaint : Complaint

namespace Rejection

/-- A session over the grammar rejects the lines: the first one is no symbol, or it is one and the
second one is no number, or a negative one. -/
inductive Fits (g : Grammar) : Rejection → Prop
  | unknownSymbol (line : String) (hne : Text.trimString line ≠ "")
      (hundefined : g.defines (Text.trimString line) = false) :
      Fits g ⟨[line], [], .unknownSymbol (Text.trimString line) g.listing⟩
  | notANumber (line answer : String) (hdefined : g.defines (Text.trimString line) = true)
      (hread : Text.integer? (Text.trimString answer) = none) :
      Fits g ⟨[line, answer], [.count], .notANumber (Text.trimString answer)⟩
  | negativeCount (line answer : String) (n : Int)
      (hdefined : g.defines (Text.trimString line) = true)
      (hread : Text.integer? (Text.trimString answer) = some n) (hnegative : n < 0) :
      Fits g ⟨[line, answer], [.count], .negativeCount (toString n)⟩

/-- What a session shows for the lines. -/
def events (r : Rejection) : List Event :=
  r.between.map .question ++ [.complaint Session.program r.complaint, .question .symbol]

/-- The questions that are written. -/
def prompts (r : Rejection) : String :=
  String.join (r.between.map Question.text) ++ Question.symbol.text

/-- The complaint as it is written. -/
def errorLine (r : Rejection) : String :=
  Session.program ++ ": error: " ++ r.complaint.message ++ "\n"

end Rejection

/-- Lines that are rejected lead back to the question for a symbol, with nothing drawn. -/
theorem Session.answers_rejection (hg : g.WellFormed) {r : Rejection} (hr : r.Fits g)
    (source : Source) (rest : List String) :
    answers g depth ⟨source, .symbol⟩ (r.lines ++ rest) =
      (r.events ++ (answers g depth ⟨source, .symbol⟩ rest).1,
        (answers g depth ⟨source, .symbol⟩ rest).2) := by
  cases hr with
  | unknownSymbol line hne hundefined =>
    exact answers_cons_of_ok (Step.unknownSymbol source hne hundefined).answer_eq rest
  | notANumber line answer hdefined hread =>
    have hsymbol : Step g depth _ line _ _ :=
      .symbol source (hg.ne_empty_of_defines hdefined) hdefined
    have hcount : Step g depth _ answer _ _ :=
      .notANumber source (Text.trimString line) hread
    change answers g depth _ (line :: answer :: rest) = _
    rw [answers_cons_of_ok hsymbol.answer_eq, answers_cons_of_ok hcount.answer_eq]
    rfl
  | negativeCount line answer n hdefined hread hnegative =>
    have hsymbol : Step g depth _ line _ _ :=
      .symbol source (hg.ne_empty_of_defines hdefined) hdefined
    have hcount : Step g depth _ answer _ _ :=
      .negativeCount source (Text.trimString line) hread hnegative
    change answers g depth _ (line :: answer :: rest) = _
    rw [answers_cons_of_ok hsymbol.answer_eq, answers_cons_of_ok hcount.answer_eq]
    rfl

/-- So do lines that are rejected one after the other. -/
theorem Session.answers_rejections (hg : g.WellFormed) {rs : List Rejection}
    (hrs : ∀ r ∈ rs, r.Fits g) (source : Source) (rest : List String) :
    answers g depth ⟨source, .symbol⟩ (rs.flatMap Rejection.lines ++ rest) =
      (rs.flatMap Rejection.events ++ (answers g depth ⟨source, .symbol⟩ rest).1,
        (answers g depth ⟨source, .symbol⟩ rest).2) := by
  induction rs with
  | nil => rfl
  | cons r rs ih =>
    obtain ⟨hr, hrs⟩ := List.forall_mem_cons.mp hrs
    rw [List.flatMap_cons, List.append_assoc, answers_rejection hg hr, ih hrs, List.flatMap_cons,
      List.append_assoc]

/-! ### What is written -/

theorem outputOf_flatMap {α : Type} (f : α → List Event) (as : List α) :
    outputOf (as.flatMap f) = String.join (as.map fun a => outputOf (f a)) := by
  induction as with
  | nil => rfl
  | cons a as ih => rw [List.flatMap_cons, outputOf_append, ih, List.map_cons, String.join_cons]

theorem errorsOf_flatMap {α : Type} (debug : Bool) (f : α → List Event) (as : List α) :
    errorsOf debug (as.flatMap f) = String.join (as.map fun a => errorsOf debug (f a)) := by
  induction as with
  | nil => rfl
  | cons a as ih => rw [List.flatMap_cons, errorsOf_append, ih, List.map_cons, String.join_cons]

namespace Rejection

/-- Nothing but the questions is written to the output. -/
theorem outputOf_events (r : Rejection) : outputOf r.events = r.prompts := by
  have hbetween : outputOf (r.between.map .question) =
      String.join (r.between.map Question.text) := by
    rw [outputOf, List.map_map]
    rfl
  rw [events, outputOf_append, hbetween, prompts, outputOf_cons, outputOf_cons]
  exact congrArg _ (String.empty_append.trans String.append_empty)

/-- Nothing but the complaint is written to the error stream, whatever the log level is. -/
theorem errorsOf_events (debug : Bool) (r : Rejection) : errorsOf debug r.events = r.errorLine := by
  have hquestion : ∀ q : Question, (Event.question q).errors debug = "" := by
    intro q
    cases debug <;> rfl
  have hbetween : ∀ qs : List Question, errorsOf debug (qs.map .question) = "" := by
    intro qs
    induction qs with
    | nil => rfl
    | cons q qs ih => rw [List.map_cons, errorsOf_cons, hquestion, ih, String.empty_append]
  have hcomplaint : (Event.complaint Session.program r.complaint).errors debug = r.errorLine := by
    cases debug <;> exact String.append_empty
  rw [events, errorsOf_append, hbetween, String.empty_append, errorsOf_cons, hcomplaint,
    errorsOf_cons, hquestion]
  exact String.append_empty

theorem sentencesOf_events (r : Rejection) : sentencesOf r.events = [] := by
  simp [sentencesOf, events, Event.sentence?, Function.comp_def]

/-- A complaint is written on one line, as no typed line and no symbol holds a line feed. -/
theorem exists_errorLine {text : String} (htext : Grammar.ofText text = .ok g) {r : Rejection}
    (hr : r.Fits g) (hlines : ∀ l ∈ r.lines, '\n' ∉ l.toList) :
    ∃ line : String, r.errorLine = line ++ "\n" ∧ '\n' ∉ line.toList := by
  have happend {a b : String} (ha : '\n' ∉ a.toList) (hb : '\n' ∉ b.toList) :
      '\n' ∉ (a ++ b).toList := by
    rw [String.toList_append, List.mem_append, not_or]
    exact ⟨ha, hb⟩
  have htrim {l : String} (hl : '\n' ∉ l.toList) : '\n' ∉ (Text.trimString l).toList := by
    rw [Text.trimString, String.toList_ofList]
    exact fun hmem => hl ((Text.trim_isInfix l.toList).subset hmem)
  refine ⟨_, rfl, happend (by decide) ?_⟩
  cases hr with
  | unknownSymbol line hne hundefined =>
    have hlisting : '\n' ∉ g.listing.toList := fun hmem =>
      Bool.noConfusion (Grammar.isLineEnd_of_mem_listing htext hmem)
    have hsymbol := htrim (hlines line List.mem_cons_self)
    exact happend (happend (happend (by decide) hsymbol) (by decide)) hlisting
  | notANumber line answer hdefined hread =>
    have hanswer := htrim (hlines answer (List.mem_cons_of_mem _ List.mem_cons_self))
    exact happend (happend (by decide) hanswer) (by decide)
  | negativeCount line answer n hdefined hread hnegative =>
    have hnumber : '\n' ∉ (toString n).toList := fun hmem =>
      Bool.noConfusion (Text.isBlank_of_mem_toString hmem)
    exact happend (happend (by decide) hnumber) (by decide)

end Rejection

/-! ### Runs with rejected answers -/

/-- **Rejected answers are without effect.** Let a run hold a session over a grammar from a file,
and let some lines lead it to the question for a symbol. If a run that differs in what is typed only
is given lines there that are rejected, any number of them, then it ends in the same way and tells
the same sentences. Its output has the questions that these lines answer in addition, and its error
stream one line for each rejection. -/
theorem rejections_without_effect {env env' : Environment} {args : List String} {file : String}
    {seed : Option Quantity} {debug : Bool} (hasks : env.Asks args (.interactive file seed) debug)
    (hload : Grammar.load env.store file = .ok g) {input : String}
    (henv' : env' = { env with input }) {before after : List String} {shown : List Event}
    {source : Source}
    (hbefore : Session.answers g env.limits.depth (Session.start (sourceOf env.entropy seed))
      before = (shown, .ok ⟨source, .symbol⟩))
    {rejections : List Rejection} (hfits : ∀ r ∈ rejections, r.Fits g)
    (hlines : Text.typedLines env.input = before ++ after)
    (hlines' : Text.typedLines env'.input =
      before ++ (rejections.flatMap Rejection.lines ++ after)) :
    (env'.run args).ending = (env.run args).ending ∧
      sentencesOf (env'.run args).events = sentencesOf (env.run args).events ∧
      (∀ r ∈ rejections, ∃ line : String, r.errorLine = line ++ "\n" ∧ '\n' ∉ line.toList) ∧
      ∃ rest : List Event,
        (env.run args).output = outputOf (Session.shownBy g shown) ++ outputOf rest ∧
        (env'.run args).output = outputOf (Session.shownBy g shown) ++
          String.join (rejections.map Rejection.prompts) ++ outputOf rest ∧
        (env.run args).errors = errorsOf debug (Session.shownBy g shown) ++ errorsOf debug rest ∧
        (env'.run args).errors = errorsOf debug (Session.shownBy g shown) ++
          String.join (rejections.map Rejection.errorLine) ++ errorsOf debug rest := by
  obtain ⟨text, htext⟩ := Grammar.exists_ofText_of_load hload
  have hg : g.WellFormed := Grammar.wellFormed_of_ofLines htext
  obtain ⟨rest, result, hrest⟩ : ∃ rest result,
      Session.answers g env.limits.depth ⟨source, .symbol⟩ (after ++ ["", ""]) = (rest, result) :=
    ⟨_, _, rfl⟩
  have hrun : env.run args = ⟨Session.shownBy g shown ++ rest, debug, Session.endingOf result,
      env.store⟩ := by
    rw [hasks.run_interactive hload, Session.run_eq, hlines, List.append_assoc,
      Session.answers_append_of_ok hbefore, hrest, Session.shownBy_append]
  have hrun' : env'.run args = ⟨Session.shownBy g shown ++
      (rejections.flatMap Rejection.events ++ rest), debug, Session.endingOf result,
      env.store⟩ := by
    have htyped : Text.typedLines input =
        before ++ (rejections.flatMap Rejection.lines ++ after) := by
      rw [← hlines', henv']
    rw [henv', hasks.run_interactive_typing hload, Session.run_eq, htyped, List.append_assoc,
      List.append_assoc, Session.answers_append_of_ok hbefore,
      Session.answers_rejections hg hfits, hrest, Session.shownBy_append]
  have hsilent : sentencesOf (rejections.flatMap Rejection.events) = [] := by
    rw [sentencesOf, List.filterMap_flatMap]
    exact List.flatMap_eq_nil_iff.mpr fun r _ => r.sentencesOf_events
  rw [hrun, hrun']
  refine ⟨rfl, ?_, fun r hr => ?_, rest, ?_, ?_, ?_, ?_⟩
  · simp only [sentencesOf_append, hsilent, List.nil_append]
  · refine Rejection.exists_errorLine htext (hfits r hr) fun l hl => ?_
    have hmem : l ∈ Text.typedLines env'.input := by
      rw [hlines']
      exact List.mem_append_right _
        (List.mem_append_left _ (List.mem_flatMap.mpr ⟨r, hr, hl⟩))
    exact Text.newline_not_mem_of_mem_typedLines hmem
  · exact outputOf_append _ _
  · rw [Report.output, outputOf_append, outputOf_append, outputOf_flatMap, String.append_assoc]
    simp only [Rejection.outputOf_events]
  · exact errorsOf_append _ _ _
  · rw [Report.errors, errorsOf_append, errorsOf_append, errorsOf_flatMap, String.append_assoc]
    simp only [Rejection.errorsOf_events]

/-- All three rejections behind two sentences and in front of a third one: the second session tells
the same three sentences and complains three times more. -/
theorem rejections_without_effect_inserted :
    ∃ (env env' : Environment) (front rest : String), env.input = "s\n2\ns\n1\n" ∧
      env' = { env with input := "s\n2\nt\ns\nmany\n s \n-1\ns\n1\n" } ∧
      env.Asks (interactiveArgs "g" 7 none) (.interactive "g" (some (.whole 7))) false ∧
      sentencesOf (env'.run (interactiveArgs "g" 7 none)).events =
        sentencesOf (env.run (interactiveArgs "g" 7 none)).events ∧
      (env.run (interactiveArgs "g" 7 none)).errors = front ++ rest ∧
      (env'.run (interactiveArgs "g" 7 none)).errors = front ++
        ("grammargen interactive: error: unknown symbol t; available symbols are [s]\n" ++
          "grammargen interactive: error: \"many\" is not a number\n" ++
          "grammargen interactive: error: the number of sentences must not be negative " ++
          "(got -1)\n") ++ rest := by
  let env : Environment := .single .usual "s::=a|b c" "s\n2\ns\n1\n"
  let env' : Environment := { env with input := "s\n2\nt\ns\nmany\n s \n-1\ns\n1\n" }
  let g : Grammar := ⟨[⟨"s", [["a"], ["b", "c"]]⟩]⟩
  let rejections : List Rejection :=
    [⟨["t"], [], .unknownSymbol (Text.trimString "t") g.listing⟩,
      ⟨["s", "many"], [.count], .notANumber (Text.trimString "many")⟩,
      ⟨[" s ", "-1"], [.count], .negativeCount (toString (-1))⟩]
  have hload : Grammar.load env.store "g" = .ok g := by decide +kernel
  have hasks : env.Asks (interactiveArgs "g" 7 none) (.interactive "g" (some (.whole 7))) false :=
    .of_single _ _ _ (by decide +kernel)
  have hg : g.WellFormed := Grammar.wellFormed_of_load hload
  have hdefined : g.defines "s" = true := by decide +kernel
  have horder : Order.Fits g ⟨"s", "2", 2⟩ :=
    ⟨hdefined, by decide +kernel, ⟨by decide, by decide⟩, by decide +kernel⟩
  obtain ⟨sentences, source, hcalls⟩ : ∃ sentences source, (List.replicate 2 "s").mapM
      (g.generate Source.chooser env.limits.depth) (Source.seeded 7) = .ok sentences source :=
    Grammar.exists_mapM_generate hg Source.honestOn_twister (by decide +kernel)
      (fun symbol _ => Grammar.acyclic_of_terminal hg (by decide +kernel) symbol) (by decide)
      ⟨_, rfl⟩
  have hbefore : Session.answers g env.limits.depth
      (Session.start (sourceOf env.entropy (some (.whole 7)))) ["s", "2"] =
        (_, .ok ⟨source, .symbol⟩) :=
    Prod.ext rfl (Session.answers_order_of_ok hg horder hcalls []).2
  have hfits : ∀ r ∈ rejections, r.Fits g := by
    simp only [rejections, List.forall_mem_cons]
    refine ⟨.unknownSymbol "t" ?_ ?_, .notANumber "s" "many" ?_ ?_,
      .negativeCount " s " "-1" (-1) ?_ ?_ ?_, by simp⟩
    all_goals decide +kernel
  have herrorLines : String.join (rejections.map Rejection.errorLine) =
      "grammargen interactive: error: unknown symbol t; available symbols are [s]\n" ++
        "grammargen interactive: error: \"many\" is not a number\n" ++
        "grammargen interactive: error: the number of sentences must not be negative " ++
        "(got -1)\n" := by
    decide +kernel
  have hlines : Text.typedLines env.input = ["s", "2"] ++ ["s", "1", ""] := by decide +kernel
  have hlines' : Text.typedLines env'.input =
      ["s", "2"] ++ (rejections.flatMap Rejection.lines ++ ["s", "1", ""]) := by
    decide +kernel
  have henv' : env' = { env with input := "s\n2\nt\ns\nmany\n s \n-1\ns\n1\n" } := rfl
  obtain ⟨-, hsame, -, rest, -, -, herrors, herrors'⟩ :=
    rejections_without_effect hasks hload henv' hbefore hfits hlines hlines'
  rw [herrorLines] at herrors'
  exact ⟨env, env', _, _, rfl, rfl, hasks, hsame, herrors, herrors'⟩

end SentenceGen.Cli
