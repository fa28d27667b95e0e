import SentenceGen.Proofs.Cli.LevelWords
import SentenceGen.Proofs.Cli.Outcomes

/-!
# Debug lines

The log level decides about nothing but the **debug lines** on the error stream. There are two kinds
of them: one for a grammar that has been loaded, which is the first one, and one for each sentence
that is told. Each of them is a single line between what is written at every level, and that is
whole lines, too, so that the lines of a run at the level `DEBUG` are those of the other levels once
the debug lines are taken out.

What a run shows besides loading a grammar is told by `Event.Besides`. It holds of what every
request shows (`shownWith_perform`), a session line by line, and of every refusal
(`shownWith_of_prepare`); `errors_of_level` is the comparison of the runs at the four levels.
-/

namespace SentenceGen

/-- A text without line ends. -/
def Text.OneLine (s : String) : Prop :=
  ∀ ch ∈ s.toList, isLineEnd ch = false

theorem Text.OneLine.of_any {s : String} (h : s.toList.any isLineEnd = false) : OneLine s :=
  fun ch hch => Bool.eq_false_iff.mpr (List.any_eq_false.mp h ch hch)

theorem Text.OneLine.append {s t : String} (hs : OneLine s) (ht : OneLine t) :
    OneLine (s ++ t) := by
  intro ch hch
  rw [String.toList_append] at hch
  exact (List.mem_append.mp hch).elim (hs ch) (ht ch)

theorem Text.OneLine.intercalate {sep : String} {texts : List String} (hsep : OneLine sep)
    (h : ∀ s ∈ texts, OneLine s) : OneLine (sep.intercalate texts) := by
  intro ch hch
  rw [String.toList_intercalate] at hch
  rcases mem_of_mem_intercalate hch with hmem | ⟨piece, hpiece, hmem⟩
  · exact hsep ch hmem
  · obtain ⟨s, hs, rfl⟩ := List.mem_map.mp hpiece
    exact h s hs ch hmem

namespace Cli

/-! ### Pieces of the error stream -/

/-- Something that is written to the error stream, at every level or as a debug line. -/
structure Piece where
  debug : Bool
  text : String

/-- The piece is whole lines, and a debug line is one. -/
def Piece.IsLines (p : Piece) : Prop :=
  ∃ line : String, p.text = line ++ "\n" ∧ (p.debug = true → Text.OneLine line)

/-- What pieces write one after the other. -/
def textOf (pieces : List Piece) : String :=
  String.join (pieces.map Piece.text)

/-- What an event writes to the error stream, if anything. -/
def Event.pieces (e : Event) : List Piece :=
  [⟨false, e.report⟩, ⟨true, e.debugLine⟩].filter (!·.text.isEmpty)

/-- What events write to the error stream. -/
def piecesOf (events : List Event) : List Piece :=
  events.flatMap Event.pieces

theorem textOf_append (pieces more : List Piece) :
    textOf (pieces ++ more) = textOf pieces ++ textOf more := by
  rw [textOf, List.map_append, String.join_append]
  rfl

/-- **What is written at a level** are the pieces, with the debug lines or without. -/
theorem errorsOf_eq_textOf (debug : Bool) (events : List Event) :
    errorsOf debug events = textOf ((piecesOf events).filter fun p => debug || !p.debug) := by
  induction events with
  | nil => rfl
  | cons e events ih =>
    have hevent : e.errors debug = textOf (e.pieces.filter fun p => debug || !p.debug) := by
      by_cases hreport : e.report = "" <;> by_cases hline : e.debugLine = "" <;> cases debug <;>
        simp [Event.errors, Event.pieces, textOf, hreport, hline]
    rw [errorsOf_cons, ih, hevent, ← textOf_append, ← List.filter_append]
    rfl

theorem errorsOf_true (events : List Event) : errorsOf true events = textOf (piecesOf events) :=
  (errorsOf_eq_textOf true events).trans (congrArg textOf (List.filter_eq_self.mpr fun _ _ => rfl))

theorem errorsOf_false (events : List Event) :
    errorsOf false events = textOf ((piecesOf events).filter (!·.debug)) :=
  errorsOf_eq_textOf false events

/-- The debug lines among what events write. -/
def debugLinesOf (events : List Event) : List String :=
  ((piecesOf events).filter (·.debug)).map (·.text)

theorem debugLinesOf_append (events more : List Event) :
    debugLinesOf (events ++ more) = debugLinesOf events ++ debugLinesOf more := by
  rw [debugLinesOf, piecesOf, List.flatMap_append, List.filter_append, List.map_append]
  rfl

theorem debugLinesOf_singleton (e : Event) :
    debugLinesOf [e] = if e.debugLine = "" then [] else [e.debugLine] := by
  by_cases hreport : e.report = "" <;> by_cases hline : e.debugLine = "" <;>
    simp [debugLinesOf, piecesOf, Event.pieces, hreport, hline]

/-! ### The two kinds of debug lines -/

/-- The line for a grammar that has been loaded: how many rules it has, and its symbols in the order
in which they are defined. -/
def loadedLine (g : Grammar) : String :=
  s!"DEBUG:GrammarTable:Loaded {g.rules.length} rules for " ++ ", ".intercalate g.symbols ++ "\n"

/-- The line for a sentence that has been told, given the symbol that it was derived from and its
text. -/
def generatedLine (told : String × String) : String :=
  s!"DEBUG:GrammarTable:Generated \"{told.2}\" from {told.1}\n"

/-- The symbol and the text of a sentence. -/
def Event.told? : Event → Option (String × String)
  | .sentence symbol text => some (symbol, text)
  | _ => none

/-- The sentences that were told, in order, each with the symbol that it was derived from. -/
def toldOf (events : List Event) : List (String × String) :=
  events.filterMap Event.told?

theorem toldOf_cons (e : Event) (events : List Event) :
    toldOf (e :: events) = e.told?.toList ++ toldOf events := by
  rw [toldOf, List.filterMap_cons]
  cases e.told? <;> rfl

theorem toldOf_append (events more : List Event) :
    toldOf (events ++ more) = toldOf events ++ toldOf more :=
  List.filterMap_append

theorem debugLine_loaded (g : Grammar) : (Event.loaded g.symbols).debugLine = loadedLine g := by
  have hlength : g.rules.length = g.symbols.length := (List.length_map _).symm
  unfold loadedLine
  rw [hlength]
  rfl

/-- A line is not empty. -/
theorem append_newline_ne_empty (s : String) : s ++ "\n" ≠ "" := by
  intro h
  have hlist := congrArg String.toList h
  rw [String.toList_append] at hlist
  exact List.append_ne_nil_of_right_ne_nil _ (by decide) hlist

theorem debugLinesOf_loaded (g : Grammar) :
    debugLinesOf [.loaded g.symbols] = [loadedLine g] := by
  rw [debugLinesOf_singleton, debugLine_loaded]
  exact if_neg (append_newline_ne_empty _)

theorem debugLinesOf_sentence (symbol text : String) :
    debugLinesOf [.sentence symbol text] = [generatedLine (symbol, text)] := by
  rw [debugLinesOf_singleton]
  exact if_neg (append_newline_ne_empty _)

/-! ### What is shown besides loading a grammar -/

/-- What a run shows besides loading a grammar: sentences are those of derivation trees of the
grammar, and there are none where it has not been loaded. -/
inductive Event.Besides (loaded : Option Grammar) : Event → Prop
  | help (text : String) : Besides loaded (.help text)
  | version : Besides loaded .version
  | usage (i : Interface) : Besides loaded (.usage i.usage)
  | complaint (program : String) (c : Complaint) : Besides loaded (.complaint program c)
  | configuration : Besides loaded .configuration
  | listing (text : String) : Besides loaded (.listing text)
  | heading : Besides loaded .heading
  | question (q : Question) : Besides loaded (.question q)
  | document (text : String) : Besides loaded (.document text)
  | batchEnd : Besides loaded .batchEnd
  | sentence {g : Grammar} {symbol : String} {t : Tree} (hg : loaded = some g)
      (ht : g.Derives symbol t) : Besides loaded (.sentence symbol t.sentence)

namespace Event.Besides

variable {loaded : Option Grammar} {e : Event} {events : List Event}

/-- Without a grammar no sentence is told. -/
theorem told?_eq_none (h : e.Besides none) : e.told? = none := by
  cases h with
  | sentence hg => cases hg
  | help | version | usage | complaint | configuration | listing | heading | question | document
  | batchEnd => rfl

/-- The debug line, if there is one, is that for the sentence. -/
theorem debugLinesOf_singleton (h : e.Besides loaded) :
    debugLinesOf [e] = e.told?.toList.map generatedLine := by
  cases h with
  | sentence hg ht =>
    rw [debugLinesOf_sentence]
    rfl
  | help | version | usage | complaint | configuration | listing | heading | question | document
  | batchEnd =>
    rw [Cli.debugLinesOf_singleton]
    exact if_pos rfl

/-- **The debug lines are those for the sentences** that are told. -/
theorem debugLinesOf_eq (h : ∀ e ∈ events, e.Besides loaded) :
    debugLinesOf events = (toldOf events).map generatedLine := by
  induction events with
  | nil => rfl
  | cons e events ih =>
    obtain ⟨he, hevents⟩ := List.forall_mem_cons.mp h
    rw [← List.singleton_append, debugLinesOf_append, he.debugLinesOf_singleton, ih hevents,
      List.singleton_append, toldOf_cons, List.map_append]

end Event.Besides

/-! ### Whole lines -/

theorem Interface.exists_usage (i : Interface) : ∃ text : String, i.usage = text ++ "\n" := by
  simp only [Interface.usage]
  split
  · exact ⟨_, rfl⟩
  · exact ⟨_, rfl⟩

theorem Event.isLines_of_mem_pieces {e : Event} {p : Piece} (hp : p ∈ e.pieces)
    (hreport : e.report ≠ "" → ∃ text, e.report = text ++ "\n")
    (hline : e.debugLine ≠ "" → ∃ line, e.debugLine = line ++ "\n" ∧ Text.OneLine line) :
    p.IsLines := by
  obtain ⟨hp, hne⟩ := List.mem_filter.mp hp
  have hne : p.text ≠ "" := by simpa using hne
  rcases List.mem_pair.mp hp with rfl | rfl
  · obtain ⟨text, htext⟩ := hreport hne
    exact ⟨text, htext, fun h => Bool.noConfusion h⟩
  · obtain ⟨line, htext, hone⟩ := hline hne
    exact ⟨line, htext, fun _ => hone⟩

section Lines

variable {g : Grammar} {text : String}

theorem exists_loadedLine_eq (htext : Grammar.ofText text = .ok g) :
    ∃ line, loadedLine g = line ++ "\n" ∧ Text.OneLine line := by
  have hsymbols : Text.OneLine (", ".intercalate g.symbols) :=
    .intercalate (.of_any (by decide)) fun symbol hsymbol =>
      Grammar.isLineEnd_of_defines htext (Grammar.defines_iff_mem_symbols.mpr hsymbol)
  have hcount : Text.OneLine s!"DEBUG:GrammarTable:Loaded {g.rules.length} rules for " :=
    .append (.append (.of_any (by decide)) (Text.isWord_toString _).isLineEnd_eq_false)
      (.of_any (by decide))
  exact ⟨_, rfl, hcount.append hsymbols⟩

theorem exists_generatedLine_eq (htext : Grammar.ofText text = .ok g) {symbol : String} {t : Tree}
    (ht : g.Derives symbol t) :
    ∃ line, generatedLine (symbol, t.sentence) = line ++ "\n" ∧ Text.OneLine line := by
  have hsentence : Text.OneLine t.sentence :=
    ((Grammar.wellFormed_of_ofLines htext).isSpaced_sentence ht).isLineEnd_eq_false
  have hsymbol : Text.OneLine symbol :=
    Grammar.isLineEnd_of_defines htext (Grammar.defines_of_derives ht)
  refine ⟨s!"DEBUG:GrammarTable:Generated \"{t.sentence}\" from {symbol}", rfl, ?_⟩
  exact .append (.append (.append (.of_any (by decide)) hsentence) (.of_any (by decide))) hsymbol

theorem isLines_of_mem_pieces_loaded (htext : Grammar.ofText text = .ok g) {p : Piece}
    (hp : p ∈ (Event.loaded g.symbols).pieces) : p.IsLines :=
  Event.isLines_of_mem_pieces hp (fun hreport => absurd rfl hreport)
    (fun _ => debugLine_loaded g ▸ exists_loadedLine_eq htext)

theorem Event.Besides.isLines_of_mem_pieces {loaded : Option Grammar} {e : Event} {p : Piece}
    (hloaded : ∀ g, loaded = some g → ∃ text, Grammar.ofText text = .ok g)
    (he : e.Besides loaded) (hp : p ∈ e.pieces) : p.IsLines := by
  cases he with
  | usage i =>
    exact Event.isLines_of_mem_pieces hp (fun _ => i.exists_usage) (fun hline => absurd rfl hline)
  | complaint program c =>
    exact Event.isLines_of_mem_pieces hp (fun _ => ⟨_, rfl⟩) (fun hline => absurd rfl hline)
  | sentence hg ht =>
    obtain ⟨text, htext⟩ := hloaded _ hg
    exact Event.isLines_of_mem_pieces hp (fun hreport => absurd rfl hreport)
      (fun _ => exists_generatedLine_eq htext ht)
  | help | version | configuration | listing | heading | question | document | batchEnd =>
    exact Event.isLines_of_mem_pieces hp (fun hreport => absurd rfl hreport)
      (fun hline => absurd rfl hline)

end Lines

/-! ### Events with a grammar in front -/

/-- The events are those of a run that has loaded this grammar, or none: it is told first. -/
def ShownWith (loaded : Option Grammar) (events : List Event) : Prop :=
  ∃ later, events = (loaded.map fun g => Event.loaded g.symbols).toList ++ later ∧
    ∀ e ∈ later, e.Besides loaded

namespace ShownWith

variable {loaded : Option Grammar} {events : List Event}

/-- **The debug lines**: one for the grammar, and then one for each sentence. -/
theorem debugLinesOf_eq (h : ShownWith loaded events) :
    debugLinesOf events = loaded.toList.map loadedLine ++ (toldOf events).map generatedLine := by
  obtain ⟨later, rfl, hlater⟩ := h
  rw [debugLinesOf_append, Event.Besides.debugLinesOf_eq hlater, toldOf_append]
  cases loaded with
  | none => rfl
  | some g =>
    rw [Option.map_some, Option.toList_some, debugLinesOf_loaded]
    rfl

/-- What is written to the error stream is whole lines. -/
theorem isLines (h : ShownWith loaded events)
    (hloaded : ∀ g, loaded = some g → ∃ text, Grammar.ofText text = .ok g) :
    ∀ p ∈ piecesOf events, p.IsLines := by
  obtain ⟨later, rfl, hlater⟩ := h
  intro p hp
  obtain ⟨e, he, hp⟩ := List.mem_flatMap.mp hp
  rcases List.mem_append.mp he with hfirst | hbehind
  · obtain ⟨g, hg, rfl⟩ := Option.map_eq_some_iff.mp (Option.mem_toList.mp hfirst)
    obtain ⟨text, htext⟩ := hloaded g hg
    exact isLines_of_mem_pieces_loaded htext hp
  · exact (hlater e hbehind).isLines_of_mem_pieces hloaded hp

/-- Without a grammar there is no sentence either, and the level makes no difference. -/
theorem errorsOf_eq (h : ShownWith none events) : errorsOf true events = errorsOf false events := by
  have htold : toldOf events = [] := by
    obtain ⟨later, rfl, hlater⟩ := h
    exact List.filterMap_eq_nil_iff.mpr fun e he => (hlater e he).told?_eq_none
  have hlines := h.debugLinesOf_eq
  rw [htold] at hlines
  have hnone : ∀ p ∈ piecesOf events, ¬ p.debug = true :=
    List.filter_eq_nil_iff.mp (List.map_eq_nil_iff.mp hlines)
  have hall : (piecesOf events).filter (!·.debug) = piecesOf events :=
    List.filter_eq_self.mpr fun p hp => by rw [Bool.eq_false_iff.mpr (hnone p hp), Bool.not_false]
  rw [errorsOf_true, errorsOf_false, hall]

end ShownWith

/-! ### What requests show -/

section Requests

variable {g : Grammar} {depth : Nat} {symbol : String}

/-- What is told for sentences. -/
theorem besides_of_batch {c : Chooser Source SourceError} {n : Nat} {s : Source}
    {events : List Event} {result : Except (DerivationError SourceError) Source}
    (h : batch (drawSentence g c depth symbol) n s = (events, result)) :
    ∀ e ∈ events, e.Besides (some g) := by
  intro e he
  obtain rfl : (batch (drawSentence g c depth symbol) n s).1 = events := congrArg Prod.fst h
  obtain ⟨text, s₁, s₂, hcall, rfl⟩ := exists_sentence_of_mem_batch he
  rw [Grammar.generate_eq_map] at hcall
  obtain ⟨t, hderive, rfl⟩ := Outcome.map_eq_ok_iff.mp hcall
  exact .sentence rfl (Grammar.derives_of_derive hderive)

/-- What a session shows behind a line. -/
theorem Session.besides_of_step {s : Session} {line : String} {events : List Event}
    {result : Except Ending Session} (h : Step g depth s line events result) :
    ∀ e ∈ events, e.Besides (some g) := by
  intro e he
  cases h with
  | blank => cases he
  | symbol =>
    obtain rfl := List.mem_singleton.mp he
    exact .question _
  | unknownSymbol | notANumber | negativeCount =>
    rcases List.mem_pair.mp he with rfl | rfl
    · exact .complaint _ _
    · exact .question _
  | batch hread hbatch =>
    rcases List.mem_append.mp he with htold | hend
    · exact besides_of_batch hbatch e htold
    · rcases List.mem_pair.mp hend with rfl | rfl
      · exact .batchEnd
      · exact .question _
  | failure hread hbatch => exact besides_of_batch hbatch e he

/-- What a session shows behind several lines. -/
theorem Session.besides_of_mem_answers {s : Session} {lines : List String} {e : Event}
    (he : e ∈ (answers g depth s lines).1) : e.Besides (some g) := by
  induction lines generalizing s with
  | nil => cases he
  | cons line lines ih =>
    have hstep := besides_of_step (step_answer g depth s line)
    rcases hanswer : s.answer g depth line with ⟨events, ending | s₁⟩
    · rw [answers_cons_of_error (congrArg Prod.snd hanswer)] at he
      exact hstep e he
    · rw [answers_cons_of_ok hanswer] at he
      rw [hanswer] at hstep
      exact (List.mem_append.mp he).elim (hstep e) ih

theorem shownWith_withGrammar {c : Command} {file : String} {loaded : Except LoadError Grammar}
    {next : Grammar → List Event × Ending}
    (hnext : ∀ g, ∀ e ∈ (next g).1, e.Besides (some g)) :
    ShownWith loaded.toOption (withGrammar c file loaded next).1 := by
  cases loaded with
  | ok g => exact ⟨(next g).1, rfl, hnext g⟩
  | error e =>
    cases e with
    | nulInPath => exact ⟨[], rfl, fun _ he => nomatch he⟩
    | refused e | undecodable fault | malformed e =>
      exact ⟨_, rfl, fun _ he => List.mem_singleton.mp he ▸ .complaint _ _⟩

theorem besides_of_mem_refuseGenerate {loaded : Option Grammar} {complaint? : Option Complaint}
    {e : Event} (he : e ∈ (refuseGenerate complaint?).1) : e.Besides loaded := by
  cases complaint? with
  | none => exact List.mem_singleton.mp he ▸ .usage _
  | some c =>
    rcases List.mem_pair.mp he with rfl | rfl
    · exact .usage _
    · exact .complaint _ _

/-- What is shown with a grammar for sentences or trees that were asked for. -/
theorem GenerateRequest.mem_runWith_cases {r : GenerateRequest} {limits : Limits} {entropy : Nat}
    {e : Event} (he : e ∈ (r.runWith limits entropy g).1) :
    (∃ complaint?, e ∈ (refuseGenerate complaint?).1) ∨
      ∃ symbol s s', r.draw limits g symbol s = .ok e s' := by
  rw [runWith] at he
  split at he
  · exact .inl ⟨_, he⟩
  · rename_i symbol _
    split at he
    · cases he
    · split at he
      all_goals
        rename_i hbatch
        obtain rfl := congrArg Prod.fst hbatch
        exact .inr ⟨symbol, exists_draw_of_mem_batch he⟩

/-- A tree or a sentence that is told. -/
theorem GenerateRequest.besides_of_draw {r : GenerateRequest} {limits : Limits} {s s' : Source}
    {e : Event} (h : r.draw limits g symbol s = .ok e s') : e.Besides (some g) := by
  obtain ⟨t, ht, ⟨-, text, -, rfl⟩ | ⟨-, rfl⟩⟩ := exists_tree_of_draw h
  · exact .document text
  · exact .sentence rfl ht

/-- The grammar that a request loads from the files, if there is one: a negative number of sentences
is refused before, and the command `config` has no use for a grammar. -/
def Request.grammar? (store : Store) : Request → Option Grammar
  | .generate r => if r.count.isNegative then none else (Grammar.load store r.file).toOption
  | .symbols file => (Grammar.load store file).toOption
  | .interactive file _ => (Grammar.load store file).toOption
  | .config _ => none

/-- A grammar that was loaded is the grammar of a text. -/
theorem Request.exists_ofText_of_grammar? {store : Store} {r : Request}
    (h : r.grammar? store = some g) : ∃ text, Grammar.ofText text = .ok g := by
  have hload : ∀ file, (Grammar.load store file).toOption = some g →
      ∃ text, Grammar.ofText text = .ok g := by
    intro file hfile
    cases hload : Grammar.load store file with
    | error e =>
      rw [hload] at hfile
      cases hfile
    | ok g' =>
      rw [hload] at hfile
      obtain rfl := Option.some.inj hfile
      exact Grammar.exists_ofText_of_load hload
  cases r with
  | generate r =>
    rw [grammar?] at h
    split at h
    · cases h
    · exact hload r.file h
  | symbols file => exact hload file h
  | interactive file seed => exact hload file h
  | config output => cases h

/-- **What a request shows**: the grammar that it loads, and then nothing else. -/
theorem shownWith_perform (env : Environment) (r : Request) :
    ShownWith (r.grammar? env.store) (env.perform r).1 := by
  cases r with
  | generate r =>
    rw [Request.grammar?]
    change ShownWith _ (r.run env.limits env.entropy (Grammar.load env.store r.file)).1
    rw [GenerateRequest.run]
    split
    · exact ⟨_, rfl, fun e he => besides_of_mem_refuseGenerate he⟩
    · refine shownWith_withGrammar fun g e he => ?_
      rcases GenerateRequest.mem_runWith_cases he with ⟨c, hrefused⟩ | ⟨symbol, s, s', hdraw⟩
      · exact besides_of_mem_refuseGenerate hrefused
      · exact GenerateRequest.besides_of_draw hdraw
  | symbols file =>
    change ShownWith _ (runSymbols file (Grammar.load env.store file)).1
    rw [Request.grammar?, runSymbols]
    refine shownWith_withGrammar fun g e he => ?_
    exact List.mem_singleton.mp he ▸ .listing _
  | interactive file seed =>
    change ShownWith _ (runInteractive file seed env.limits.depth env.entropy
      (Text.typedLines env.input) (Grammar.load env.store file)).1
    rw [Request.grammar?, runInteractive]
    refine shownWith_withGrammar fun g e he => ?_
    rcases List.mem_append.mp he with hopening | hanswers
    · simp only [Session.opening, List.mem_cons, List.not_mem_nil, or_false] at hopening
      rcases hopening with rfl | rfl | rfl
      · exact .heading
      · exact .listing _
      · exact .question _
    · rw [Session.run_eq] at hanswers
      exact Session.besides_of_mem_answers hanswers
  | config output =>
    refine ⟨(writeConfiguration env.store output).1, rfl, fun e he => ?_⟩
    unfold writeConfiguration at he
    split at he
    · exact List.mem_singleton.mp he ▸ .configuration
    · split at he
      · exact List.mem_singleton.mp he ▸ .configuration
      · split at he
        · cases he
        · split at he <;> cases he

theorem besides_of_mem_ofHelp {loaded : Option Grammar} {help? : Option String} {e : Event}
    (he : e ∈ (Refusal.ofHelp help?).events) : e.Besides loaded := by
  cases help? with
  | none => cases he
  | some text => exact List.mem_singleton.mp he ▸ .help text

/-- What is shown in the place of what was asked for. -/
theorem shownWith_of_prepare {read : Except ConfigError Config} {args : List String}
    {shown : List Event × Ending} (h : prepare read args = .error shown) :
    ShownWith none shown.1 := by
  refine ⟨shown.1, rfl, fun e he => ?_⟩
  unfold prepare at h
  split at h
  · obtain rfl := Except.error.inj h
    cases he
  · obtain rfl := Except.error.inj h
    cases he
  · obtain rfl := Except.error.inj h
    exact List.mem_singleton.mp he ▸ .complaint _ _
  · split at h
    · rename_i hrequest
      obtain rfl := Except.error.inj h
      rcases usual_of_request hrequest with text | hc | - | ⟨i, e⟩ | -
      · exact besides_of_mem_ofHelp he
      · exact besides_of_mem_ofHelp he
      · exact List.mem_singleton.mp he ▸ .version
      · rcases List.mem_pair.mp he with rfl | rfl
        · exact .usage i
        · exact .complaint _ _
      · rcases List.mem_pair.mp he with rfl | rfl
        · exact .usage mainInterface
        · exact .complaint _ _
    · split at h
      · obtain rfl := Except.error.inj h
        cases he
      · cases h

end Requests

/-! ### Sentences and trees on the output -/

section Output

variable {r : GenerateRequest} {limits : Limits} {entropy : Nat}
  {loaded : Except LoadError Grammar}

/-- Besides sentences or trees, a run that is asked for them writes nothing to the output. -/
theorem GenerateRequest.mem_run_cases {e : Event} (he : e ∈ (r.run limits entropy loaded).1) :
    e.output = "" ∧ e.told? = none ∨ (r.tree = true ∧ ∃ text, e = .document text) ∨
      r.tree = false ∧ ∃ symbol text, e = .sentence symbol text := by
  have hrefused : ∀ {complaint? : Option Complaint}, e ∈ (refuseGenerate complaint?).1 →
      e.output = "" ∧ e.told? = none := by
    intro complaint? hmem
    cases complaint? with
    | none =>
      obtain rfl := List.mem_singleton.mp hmem
      exact ⟨rfl, rfl⟩
    | some c =>
      rcases List.mem_pair.mp hmem with rfl | rfl
      · exact ⟨rfl, rfl⟩
      · exact ⟨rfl, rfl⟩
  rw [run] at he
  split at he
  · exact .inl (hrefused he)
  · cases loaded with
    | error e' =>
      cases e' with
      | nulInPath => cases he
      | refused e' | undecodable fault | malformed e' =>
        obtain rfl := List.mem_singleton.mp he
        exact .inl ⟨rfl, rfl⟩
    | ok g =>
      rcases List.mem_cons.mp he with rfl | he
      · exact .inl ⟨rfl, rfl⟩
      · rcases mem_runWith_cases he with ⟨c, hmem⟩ | ⟨symbol, s, s', hdraw⟩
        · exact .inl (hrefused hmem)
        · obtain ⟨t, -, ⟨htree, text, -, rfl⟩ | ⟨hplain, rfl⟩⟩ := exists_tree_of_draw hdraw
          · exact .inr (.inl ⟨htree, text, rfl⟩)
          · exact .inr (.inr ⟨hplain, symbol, t.sentence, rfl⟩)

/-- Trees are told without their sentences. -/
theorem GenerateRequest.toldOf_run_of_tree (htree : r.tree = true) :
    toldOf (r.run limits entropy loaded).1 = [] := by
  refine List.filterMap_eq_nil_iff.mpr fun e he => ?_
  rcases mem_run_cases he with ⟨-, htold⟩ | ⟨-, text, rfl⟩ | ⟨hplain, -⟩
  · exact htold
  · rfl
  · rw [hplain] at htree
    cases htree

/-- Without trees, the sentences that are told are all of the output. -/
theorem GenerateRequest.outputOf_run_of_plain (hplain : r.tree = false) :
    outputOf (r.run limits entropy loaded).1 =
      sentenceLines ((toldOf (r.run limits entropy loaded).1).map Prod.snd) := by
  suffices h : ∀ events : List Event, (∀ e ∈ events, e ∈ (r.run limits entropy loaded).1) →
      outputOf events = sentenceLines ((toldOf events).map Prod.snd) from h _ fun _ he => he
  intro events hevents
  induction events with
  | nil => rfl
  | cons e events ih =>
    obtain ⟨he, hevents⟩ := List.forall_mem_cons.mp hevents
    rw [outputOf_cons, ih hevents, toldOf_cons]
    rcases mem_run_cases he with ⟨houtput, htold⟩ | ⟨htree, -⟩ | ⟨-, symbol, text, rfl⟩
    · rw [houtput, String.empty_append, htold]
      rfl
    · rw [hplain] at htree
      cases htree
    · exact (String.join_cons ..).symm

end Output

/-! ### Runs at the four levels -/

/-- The run is accepted and loads the grammar. -/
def Environment.Loads (env : Environment) (args : List String) (g : Grammar) : Prop :=
  ∃ r debug, env.Asks args r debug ∧ r.grammar? env.store = some g

/-- Arguments of `generate`, `symbols` or `interactive` that give a level, in the place of which
every level can stand. It is the one that counts, as no other is given behind it. -/
inductive VariesLevel : (args : String → List String) → Prop
  | intro {c : Command} {words : String → List String} {front back : List String}
      (hc : c.interface.operands = .file) (hwords : GivesLevel c.interface.options words)
      (hfront : "--" ∉ front) (hback : LevelFree (c.interface.findings back)) :
      VariesLevel fun level => c.name :: (front ++ words level ++ back)

namespace VariesLevel

variable {args : String → List String}

/-- **What is done is the same at every level**, with debug lines at `DEBUG` only, or the same is
shown in its place. -/
theorem exists_prepare_eq (h : VariesLevel args) (read : Except ConfigError Config) :
    ∃ asked : Except (List Event × Ending) Request, ∀ level ∈ logLevels,
      prepare read (args level) = asked.map (·, level == "DEBUG") := by
  cases read with
  | error e => cases e <;> exact ⟨.error _, fun _ _ => rfl⟩
  | ok config =>
    obtain ⟨hc, hwords, hfront, hback⟩ := h
    obtain ⟨asked, hasked⟩ := request_of_givesLevel config hc hwords hfront hback
    refine ⟨asked.mapError fun r => (r.events, r.ending), fun level hlevel => ?_⟩
    have hshows : showsDebug? (.text level) = some (level == "DEBUG") := by
      rw [showsDebug?, if_pos (List.contains_iff_mem.mpr hlevel)]
    simp only [prepare, hasked level hlevel]
    cases asked with
    | error refusal => rfl
    | ok r => simp only [Except.map, Except.mapError, hshows]

/-- **Runs at the four levels** load the same grammar, show the same and end in the same way. -/
theorem exists_run (h : VariesLevel args) (env : Environment) :
    ∃ (loaded : Option Grammar) (events : List Event) (ending : Ending) (store : Store),
      ShownWith loaded events ∧ (∀ g, loaded = some g → ∃ text, Grammar.ofText text = .ok g) ∧
      ∀ level ∈ logLevels, (∀ g, loaded = some g ↔ env.Loads (args level) g) ∧
        (env.run (args level)).events = events ∧ (env.run (args level)).ending = ending ∧
        (env.run (args level)).store = store ∧
        (env.run (args level)).errors = errorsOf (level == "DEBUG") events := by
  obtain ⟨asked, hprepare⟩ :=
    h.exists_prepare_eq (Config.read env.loads (.ofStore env.store) none)
  cases asked with
  | error shown =>
    have hnone := shownWith_of_prepare (hprepare "DEBUG" (by decide))
    refine ⟨none, shown.1, shown.2, env.store, hnone, fun g hg => (nomatch hg),
      fun level hlevel => ?_⟩
    rw [Environment.run_of_prepare_eq_error (hprepare level hlevel)]
    refine ⟨fun g => ⟨fun hg => (nomatch hg), ?_⟩, rfl, rfl, rfl, ?_⟩
    · rintro ⟨r, debug, hasks, -⟩
      rw [Environment.Asks, hprepare level hlevel] at hasks
      cases hasks
    · cases level == "DEBUG" with
      | true => exact hnone.errorsOf_eq.symm
      | false => rfl
  | ok r =>
    refine ⟨r.grammar? env.store, (env.perform r).1, (env.perform r).2.1, (env.perform r).2.2,
      shownWith_perform env r, fun g => Request.exists_ofText_of_grammar?, fun level hlevel => ?_⟩
    have hasks : env.Asks (args level) r (level == "DEBUG") := hprepare level hlevel
    rw [hasks.run_eq]
    refine ⟨fun g => ⟨fun hg => ⟨r, _, hasks, hg⟩, ?_⟩, rfl, rfl, rfl, rfl⟩
    rintro ⟨r', debug, hasks', hg⟩
    obtain ⟨rfl, -⟩ := Prod.mk.inj (Except.ok.inj (hasks.symm.trans hasks'))
    exact hg

end VariesLevel

/-- **The log level is visible in nothing but the debug lines.** Let the arguments of `generate`,
`symbols` or `interactive` give a level, in any spelling and with anything in front of it and behind
it, but no other level behind it. Whatever the files, the configuration among them, the input and
the seeds, the output, the ending and the files that are left are the same at the four levels. The
error stream of the run at `DEBUG` is a list of pieces, each of them whole lines, and that of the
other runs are these pieces without the debug lines, each of which is a single line. There is one
debug line for the grammar if one is loaded, with the number of its rules and its symbols in the
order in which they are defined, and then one for each sentence that is told, in this order and with
this sentence; for trees there are none, and without them the output of `generate` is these
sentences, one a line. -/
theorem errors_of_level (env : Environment) {args : String → List String} (h : VariesLevel args) :
    (∀ level ∈ logLevels, (env.run (args level)).output = (env.run (args "DEBUG")).output ∧
      (env.run (args level)).ending = (env.run (args "DEBUG")).ending ∧
      (env.run (args level)).store = (env.run (args "DEBUG")).store) ∧
    ∃ (loaded : Option Grammar) (told : List (String × String)) (pieces : List Piece),
      (∀ p ∈ pieces, p.IsLines) ∧
      (env.run (args "DEBUG")).errors = textOf pieces ∧
      (∀ level ∈ logLevels, level ≠ "DEBUG" →
        (env.run (args level)).errors = textOf (pieces.filter (!·.debug))) ∧
      (pieces.filter (·.debug)).map (·.text) =
        loaded.toList.map loadedLine ++ told.map generatedLine ∧
      ∀ level ∈ logLevels, (∀ g, loaded = some g ↔ env.Loads (args level) g) ∧
        toldOf (env.run (args level)).events = told ∧
        ∀ r debug, env.Asks (args level) (.generate r) debug →
          if r.tree then told = []
          else (env.run (args level)).output = sentenceLines (told.map Prod.snd) := by
  obtain ⟨loaded, events, ending, store, hshown, hloaded, hrun⟩ := h.exists_run env
  have hdebug : "DEBUG" ∈ logLevels := by decide
  refine ⟨fun level hlevel => ?_, loaded, toldOf events, piecesOf events, hshown.isLines hloaded,
    ?_, fun level hlevel hne => ?_, hshown.debugLinesOf_eq, fun level hlevel => ?_⟩
  · obtain ⟨-, hevents, hending, hstore, -⟩ := hrun level hlevel
    obtain ⟨-, hevents', hending', hstore', -⟩ := hrun "DEBUG" hdebug
    rw [Report.output, hevents, hending, hstore, Report.output, hevents', hending', hstore']
    exact ⟨rfl, rfl, rfl⟩
  · obtain ⟨-, -, -, -, herrors⟩ := hrun "DEBUG" hdebug
    rw [herrors, beq_self_eq_true, errorsOf_true]
  · obtain ⟨-, -, -, -, herrors⟩ := hrun level hlevel
    rw [herrors, beq_false_of_ne hne, errorsOf_false]
  · obtain ⟨hloads, hevents, -⟩ := hrun level hlevel
    refine ⟨hloads, congrArg toldOf hevents, fun r debug hasks => ?_⟩
    have hasked : (env.run (args level)).events =
        (r.run env.limits env.entropy (Grammar.load env.store r.file)).1 :=
      congrArg Prod.fst hasks.run_generate
    rw [Report.output, hasked, ← hevents, hasked]
    split
    · rename_i htree
      exact GenerateRequest.toldOf_run_of_tree htree
    · rename_i hplain
      exact GenerateRequest.outputOf_run_of_plain (Bool.eq_false_iff.mpr hplain)

/-- A session in which an unknown symbol is typed: the debug line for the grammar stands in front of
the complaint, which is all that is left at the other levels. -/
theorem errors_of_level_unknown :
    let env : Environment := .single .usual "s::=a b" "x"
    let args : String → List String := fun level => ["interactive", "-l", level, "g"]
    let complaint := "grammargen interactive: error: unknown symbol x; available symbols are [s]\n"
    VariesLevel args ∧ env.Loads (args "DEBUG") ⟨[⟨"s", [["a", "b"]]⟩]⟩ ∧
      (∀ level ∈ logLevels, (env.run (args level)).output = (env.run (args "DEBUG")).output ∧
        (env.run (args level)).ending = .exit success) ∧
      (env.run (args "DEBUG")).errors =
        "DEBUG:GrammarTable:Loaded 1 rules for s\n" ++ complaint ∧
      ∀ level ∈ logLevels, level ≠ "DEBUG" → (env.run (args level)).errors = complaint := by
  intro env args complaint
  let g : Grammar := ⟨[⟨"s", [["a", "b"]]⟩]⟩
  let source : Source := sourceOf env.entropy none
  have hload : Grammar.load env.store "g" = .ok g := by decide +kernel
  have hlines : Text.typedLines env.input ++ ["", ""] = ["x", "", ""] := by decide +kernel
  have hback : Command.interactive.interface.findings ["g"] = [.operands ["g"]] := by
    decide +kernel
  have hfree : LevelFree (Command.interactive.interface.findings ["g"]) := by
    intro o spelling value hmem
    rw [hback] at hmem
    cases List.mem_singleton.mp hmem
  have hvaries : VariesLevel args :=
    .intro rfl (Command.givesLevel (c := .interactive) rfl).1 List.not_mem_nil hfree
  have hasks : ∀ level ∈ logLevels,
      env.Asks (args level) (.interactive "g" none) (level == "DEBUG") := by
    simp only [logLevels, List.forall_mem_cons]
    exact ⟨.of_single _ _ _ (by decide +kernel), .of_single _ _ _ (by decide +kernel),
      .of_single _ _ _ (by decide +kernel), .of_single _ _ _ (by decide +kernel), nofun⟩
  have htyped : Text.trimString "x" = "x" := by decide +kernel
  have hlisting : g.listing = "[s]" := by decide +kernel
  have hunknown : Session.Step g env.limits.depth (Session.start source) "x" _
      (.ok ⟨source, .symbol⟩) :=
    .unknownSymbol source (by decide +kernel) (by decide +kernel)
  have hblank : Session.Step g env.limits.depth ⟨source, .symbol⟩ "" _ (.error (.exit success)) :=
    .blank source (by decide +kernel)
  have hrun : ∀ level ∈ logLevels, env.run (args level) =
      ⟨Session.shownBy g [.complaint Session.program (.unknownSymbol "x" "[s]"), .question .symbol],
        level == "DEBUG", .exit success, env.store⟩ := by
    intro level hlevel
    rw [(hasks level hlevel).run_interactive hload, Session.run_eq, hlines,
      Session.answers_cons_of_ok hunknown.answer_eq,
      Session.answers_cons_of_error (congrArg Prod.snd hblank.answer_eq), hblank.answer_eq, htyped,
      hlisting]
    rfl
  obtain ⟨hsame, -⟩ := errors_of_level env hvaries
  have hdebug : "DEBUG" ∈ logLevels := by decide
  refine ⟨hvaries, ⟨_, _, hasks _ hdebug, ?_⟩, fun level hlevel => ⟨(hsame level hlevel).1, ?_⟩,
    ?_, fun level hlevel hne => ?_⟩
  · rw [Request.grammar?, hload]
    rfl
  · rw [hrun level hlevel]
  · rw [hrun _ hdebug]
    decide +kernel
  · rw [hrun level hlevel, beq_false_of_ne hne]
    decide +kernel

end Cli

end SentenceGen
