import SentenceGen.Proofs.Cli.Agreement
import SentenceGen.Proofs.Derivation.TreeText
import SentenceGen.Proofs.Derivation.Words

/-!
# Trees and sentences

The command `generate` writes derivation trees in the place of sentences when it is told so. It
derives them by the same draws, so that both runs are one list of trees, each tree flattened to its
sentence in the one and written as JSON in the other (`trees_agree`). Neither a sentence nor a tree
on a single line holds a line end, so the lines of the two runs belong together one by one.

A run has room for a tree if the tree is no higher than the depth of derivations in it, and a run
that writes the tree needs room for the arrays of its JSON text, too (`Limits.HoldsText`). Nothing
else cuts a run off.
-/

namespace SentenceGen.Cli

/-! ### Draws of trees -/

/-- There is room for a tree and for its JSON text. -/
def Limits.HoldsText (limits : Limits) (layout : Json.Layout) (t : Tree) : Prop :=
  t.height ≤ limits.depth ∧ t.toJson.nesting ≤ limits.nesting layout

section Draws

variable {σ ε : Type} {g : Grammar} {c : Chooser σ ε} {limits : Limits} {layout : Json.Layout}
  {symbol : String} {symbols : List String} {s s' : σ}

theorem drawDocument_of_text {t : Tree} {text : String}
    (h : g.derive c limits.depth symbol s = .ok t s')
    (htext : t.jsonText? (limits.nesting layout) layout = some text) :
    drawDocument g c limits layout symbol s = .ok (.document text) s' := by
  simp only [drawDocument, bind, EStateM.bind, h, htext]
  rfl

theorem drawDocument_of_no_text {t : Tree} (h : g.derive c limits.depth symbol s = .ok t s')
    (hnone : t.jsonText? (limits.nesting layout) layout = none) :
    drawDocument g c limits layout symbol s = .error .tooDeep s' := by
  simp only [drawDocument, bind, EStateM.bind, h, hnone]
  rfl

theorem drawDocument_of_error {e : DerivationError ε}
    (h : g.derive c limits.depth symbol s = .error e s') :
    drawDocument g c limits layout symbol s = .error e s' := by
  simp only [drawDocument, bind, EStateM.bind, h]

/-- **Trees that are written** are those that are derived, and each has a text. -/
theorem mapM_drawDocument_eq_ok_iff {events : List Event} :
    symbols.mapM (drawDocument g c limits layout) s = .ok events s' ↔
      ∃ trees texts, symbols.mapM (g.derive c limits.depth) s = .ok trees s' ∧
        List.Forall₂ (fun t text => t.jsonText? (limits.nesting layout) layout = some text)
          trees texts ∧ events = texts.map .document := by
  induction symbols generalizing s events with
  | nil =>
    constructor
    · intro h
      obtain ⟨rfl, rfl⟩ := EStateM.Result.ok.inj h
      exact ⟨[], [], rfl, .nil, rfl⟩
    · rintro ⟨trees, texts, htrees, htexts, rfl⟩
      obtain ⟨rfl, rfl⟩ := EStateM.Result.ok.inj htrees
      rw [List.forall₂_nil_left_iff.mp htexts]
      rfl
  | cons symbol symbols ih =>
    cases hcall : g.derive c limits.depth symbol s with
    | error e s₁ =>
      rw [Grammar.mapM_cons_of_error (drawDocument_of_error hcall),
        Grammar.mapM_cons_of_error hcall]
      exact iff_of_false nofun fun ⟨_, _, h, _⟩ => nomatch h
    | ok t s₁ =>
      rw [Grammar.mapM_cons_of_ok hcall]
      cases htext : t.jsonText? (limits.nesting layout) layout with
      | none =>
        rw [Grammar.mapM_cons_of_error (drawDocument_of_no_text hcall htext)]
        refine iff_of_false nofun ?_
        rintro ⟨trees, texts, htrees, htexts, -⟩
        obtain ⟨rest, -, rfl⟩ := Outcome.map_eq_ok_iff.mp htrees
        obtain ⟨text, _, hfirst, -, -⟩ := List.forall₂_cons_left_iff.mp htexts
        rw [htext] at hfirst
        cases hfirst
      | some text =>
        rw [Grammar.mapM_cons_of_ok (drawDocument_of_text hcall htext), Outcome.map_eq_ok_iff]
        constructor
        · rintro ⟨more, hmore, rfl⟩
          obtain ⟨trees, texts, htrees, htexts, rfl⟩ := ih.mp hmore
          exact ⟨t :: trees, text :: texts, by rw [htrees]; rfl, .cons htext htexts, rfl⟩
        · rintro ⟨trees, texts, htrees, htexts, rfl⟩
          obtain ⟨rest, hrest, rfl⟩ := Outcome.map_eq_ok_iff.mp htrees
          obtain ⟨text', texts, hfirst, hothers, rfl⟩ := List.forall₂_cons_left_iff.mp htexts
          obtain rfl : text = text' := Option.some.inj (htext.symm.trans hfirst)
          exact ⟨texts.map .document, ih.mpr ⟨rest, texts, hrest, hothers, rfl⟩, rfl⟩

/-- An honest chooser is never the cause why a tree is not written. -/
theorem unrefused_drawDocument {I : σ → Prop} (hg : g.WellFormed) (hc : c.HonestOn I)
    (hsymbol : g.defines symbol = true) (hs : I s) :
    Outcome.Unrefused I (drawDocument g c limits layout symbol s) := by
  have hderive := Grammar.unrefused_derive hg hc limits.depth hsymbol hs
  cases hcall : g.derive c limits.depth symbol s with
  | error e s₁ =>
    rw [hcall] at hderive
    rw [drawDocument_of_error hcall]
    cases hderive with
    | tooDeep => exact .tooDeep s₁
  | ok t s₁ =>
    rw [hcall] at hderive
    cases hderive with
    | ok _ hs₁ =>
      cases htext : t.jsonText? (limits.nesting layout) layout with
      | none =>
        rw [drawDocument_of_no_text hcall htext]
        exact .tooDeep s₁
      | some text =>
        rw [drawDocument_of_text hcall htext]
        exact .ok _ hs₁

end Draws

/-- Trees of a generator are written, unless there is no room for them. -/
theorem unrefused_mapM_drawDocument {g : Grammar} (hg : g.WellFormed) {symbol : String}
    (hsymbol : g.defines symbol = true) (limits : Limits) (layout : Json.Layout) (n : Nat)
    {s : Source} (hs : ∃ t, s = .twister t) :
    Outcome.Unrefused (fun s => ∃ t, s = .twister t)
      ((List.replicate n symbol).mapM (drawDocument g Source.chooser limits layout) s) := by
  refine Grammar.unrefused_mapM (fun x hx s hs => ?_) hs
  rw [List.eq_of_mem_replicate hx]
  exact unrefused_drawDocument hg Source.honestOn_twister hsymbol hs

/-- Trees with room for their texts have texts. -/
theorem exists_texts {limits : Limits} {layout : Json.Layout} {trees : List Tree}
    (h : ∀ t ∈ trees, limits.HoldsText layout t) :
    ∃ texts, List.Forall₂ (fun t text => t.jsonText? (limits.nesting layout) layout = some text)
      trees texts := by
  induction trees with
  | nil => exact ⟨[], .nil⟩
  | cons t trees ih =>
    obtain ⟨hfirst, hothers⟩ := List.forall_mem_cons.mp h
    obtain ⟨texts, htexts⟩ := ih hothers
    exact ⟨_ :: texts, .cons (Tree.jsonText?_eq_some_iff.mpr ⟨hfirst.2, rfl⟩) htexts⟩

/-- Trees that have texts have room for them. -/
theorem nesting_le_of_texts {limits : Limits} {layout : Json.Layout} {trees : List Tree}
    {texts : List String}
    (h : List.Forall₂ (fun t text => t.jsonText? (limits.nesting layout) layout = some text)
      trees texts) : ∀ t ∈ trees, t.toJson.nesting ≤ limits.nesting layout := by
  induction h with
  | nil => exact fun _ hmem => absurd hmem List.not_mem_nil
  | cons hfirst _ ih =>
    exact List.forall_mem_cons.mpr ⟨(Tree.jsonText?_eq_some_iff.mp hfirst).1, ih⟩

/-! ### Trees that are generated -/

theorem outputOf_documents (documents : List String) :
    outputOf (documents.map .document) = sentenceLines documents := by
  rw [outputOf, List.map_map]
  rfl

section Runs

variable {env : Environment} {g : Grammar} {file symbol : String} {n depth : Nat} {seed : Int}
  {trees : List Tree} {rest : Source} {level : Option String} {pretty : Bool}

/-- **The command `generate` writes the documents of so many draws**, if none fails. -/
theorem output_of_run_generate_tree (hg : g.WellFormed)
    (hload : Grammar.load env.store file = .ok g) (hsymbol : g.defines symbol = true)
    {texts : List String}
    (h : (List.replicate n symbol).mapM
      (drawDocument g Source.chooser env.limits (prettyLayout pretty)) (Source.seeded seed) =
        .ok (texts.map .document) rest)
    (haccepts : env.Accepts (treeArgs file symbol n seed pretty level)) :
    (env.run (treeArgs file symbol n seed pretty level)).output = sentenceLines texts ∧
      (env.run (treeArgs file symbol n seed pretty level)).ending = .exit success := by
  have hbatch : batch (GenerateRequest.draw
      ⟨file, some (.text symbol), .whole n, true, prettyLayout pretty, some (.whole seed)⟩
      env.limits g symbol) n (Source.seeded seed) = (texts.map .document, .ok rest) :=
    batch_of_draws_ok h
  obtain ⟨-, hrun⟩ := run_generate_tree haccepts
  rw [hload, GenerateRequest.run_of_batch_ok hg hsymbol rfl rfl rfl hbatch] at hrun
  obtain ⟨hevents, hending⟩ := Prod.mk.inj hrun
  refine ⟨?_, hending⟩
  rw [Report.output, hevents, outputOf_cons, outputOf_documents]
  exact String.empty_append

/-- It fails where one of the draws does. -/
theorem ending_of_run_generate_tree (hg : g.WellFormed)
    (hload : Grammar.load env.store file = .ok g) (hsymbol : g.defines symbol = true)
    {e : DerivationError SourceError}
    (h : (List.replicate n symbol).mapM
      (drawDocument g Source.chooser env.limits (prettyLayout pretty)) (Source.seeded seed) =
        .error e rest)
    (haccepts : env.Accepts (treeArgs file symbol n seed pretty level)) :
    (env.run (treeArgs file symbol n seed pretty level)).ending = .fault (.derivation e) := by
  have hbatch : (batch (GenerateRequest.draw
      ⟨file, some (.text symbol), .whole n, true, prettyLayout pretty, some (.whole seed)⟩
      env.limits g symbol) n (Source.seeded seed)).2 = .error e :=
    batch_of_draws_error h
  obtain ⟨-, hrun⟩ := run_generate_tree haccepts
  have hending := congrArg Prod.snd hrun
  rw [hload] at hending
  exact hending.trans (GenerateRequest.run_of_batch_error hg hsymbol rfl rfl rfl hbatch env.entropy)

/-- **A run for sentences writes those of the trees**, if it has room for them, and else it is cut
off. -/
theorem run_generate_of_trees (hg : g.WellFormed) (hload : Grammar.load env.store file = .ok g)
    (hsymbol : g.defines symbol = true)
    (htrees : (List.replicate n symbol).mapM (g.derive Source.chooser depth) (Source.seeded seed) =
      .ok trees rest)
    (haccepts : env.Accepts (generateArgs file symbol n seed level)) :
    (∀ t ∈ trees, t.height ≤ env.limits.depth) ∧
        (env.run (generateArgs file symbol n seed level)).output =
            sentenceLines (trees.map Tree.sentence) ∧
          (env.run (generateArgs file symbol n seed level)).ending = .exit success ∨
      (∃ t ∈ trees, env.limits.depth < t.height) ∧
        (env.run (generateArgs file symbol n seed level)).ending =
          .fault (.derivation .tooDeep) := by
  have hsymbols := Grammar.defines_of_mem_replicate hsymbol n
  have hseeded : ∃ t, Source.seeded seed = .twister t := ⟨_, rfl⟩
  have hsentences := Grammar.mapM_generate g Source.chooser env.limits.depth
    (List.replicate n symbol) (Source.seeded seed)
  rcases Grammar.mapM_derive_cases hg Source.honestOn_twister hsymbols hseeded htrees
    env.limits.depth with ⟨hroom, hcalls⟩ | ⟨hhigh, s₁, hcalls⟩
  · rw [hcalls] at hsentences
    exact Or.inl ⟨hroom, output_of_run_generate hg hload hsymbol hsentences haccepts⟩
  · rw [hcalls] at hsentences
    exact Or.inr ⟨hhigh, ending_of_run_generate hg hload hsymbol hsentences haccepts⟩

/-- **A run for trees writes their JSON texts**, if it has room for them, and else it is cut off. -/
theorem run_generate_tree_of_trees (hg : g.WellFormed)
    (hload : Grammar.load env.store file = .ok g) (hsymbol : g.defines symbol = true)
    (htrees : (List.replicate n symbol).mapM (g.derive Source.chooser depth) (Source.seeded seed) =
      .ok trees rest)
    (haccepts : env.Accepts (treeArgs file symbol n seed pretty level)) :
    (∀ t ∈ trees, env.limits.HoldsText (prettyLayout pretty) t) ∧
        (∃ texts, List.Forall₂ (fun t text =>
            t.jsonText? (env.limits.nesting (prettyLayout pretty)) (prettyLayout pretty) =
              some text) trees texts ∧
          (env.run (treeArgs file symbol n seed pretty level)).output = sentenceLines texts ∧
          (env.run (treeArgs file symbol n seed pretty level)).ending = .exit success) ∨
      (∃ t ∈ trees, ¬ env.limits.HoldsText (prettyLayout pretty) t) ∧
        (env.run (treeArgs file symbol n seed pretty level)).ending =
          .fault (.derivation .tooDeep) := by
  by_cases hroom : ∀ t ∈ trees, env.limits.HoldsText (prettyLayout pretty) t
  · obtain ⟨texts, htexts⟩ := exists_texts hroom
    have hcalls := (Grammar.mapM_derive_iff htrees).mpr fun t ht => (hroom t ht).1
    have hdraws := mapM_drawDocument_eq_ok_iff.mpr ⟨trees, texts, hcalls, htexts, rfl⟩
    exact Or.inl ⟨hroom, texts, htexts,
      output_of_run_generate_tree hg hload hsymbol hdraws haccepts⟩
  · have hunrefused := unrefused_mapM_drawDocument hg hsymbol env.limits (prettyLayout pretty) n
      (s := Source.seeded seed) ⟨_, rfl⟩
    cases hdraws : (List.replicate n symbol).mapM
        (drawDocument g Source.chooser env.limits (prettyLayout pretty)) (Source.seeded seed) with
    | ok events s₁ =>
      -- what was written are these trees, so there was room for them
      obtain ⟨trees', texts, hcalls, htexts, -⟩ := mapM_drawDocument_eq_ok_iff.mp hdraws
      obtain ⟨rfl, -⟩ := Grammar.mapM_derive_unique htrees hcalls
      exact absurd (fun t ht => ⟨(Grammar.mapM_derive_iff hcalls).mp hcalls t ht,
        nesting_le_of_texts htexts t ht⟩) hroom
    | error e s₁ =>
      simp only [not_forall, exists_prop] at hroom
      rw [hdraws] at hunrefused
      cases hunrefused with
      | tooDeep =>
        exact Or.inr ⟨hroom, ending_of_run_generate_tree hg hload hsymbol hdraws haccepts⟩

/-- **Where no depth is enough, every run is cut off.** -/
theorem ending_of_no_trees (hg : g.WellFormed) (hload : Grammar.load env.store file = .ok g)
    (hsymbol : g.defines symbol = true)
    (h : ∀ depth, ∃ rest, (List.replicate n symbol).mapM (g.derive Source.chooser depth)
      (Source.seeded seed) = .error .tooDeep rest) :
    (env.Accepts (generateArgs file symbol n seed level) →
        (env.run (generateArgs file symbol n seed level)).ending =
          .fault (.derivation .tooDeep)) ∧
      (env.Accepts (treeArgs file symbol n seed pretty level) →
        (env.run (treeArgs file symbol n seed pretty level)).ending =
          .fault (.derivation .tooDeep)) := by
  obtain ⟨rest, hcalls⟩ := h env.limits.depth
  refine ⟨fun haccepts => ?_, fun haccepts => ?_⟩
  · have hsentences := Grammar.mapM_generate g Source.chooser env.limits.depth
      (List.replicate n symbol) (Source.seeded seed)
    rw [hcalls] at hsentences
    exact ending_of_run_generate hg hload hsymbol hsentences haccepts
  · have hunrefused := unrefused_mapM_drawDocument hg hsymbol env.limits (prettyLayout pretty) n
      (s := Source.seeded seed) ⟨_, rfl⟩
    cases hdraws : (List.replicate n symbol).mapM
        (drawDocument g Source.chooser env.limits (prettyLayout pretty)) (Source.seeded seed) with
    | ok events s₁ =>
      obtain ⟨trees, texts, hcalls', -⟩ := mapM_drawDocument_eq_ok_iff.mp hdraws
      rw [hcalls] at hcalls'
      cases hcalls'
    | error e s₁ =>
      rw [hdraws] at hunrefused
      cases hunrefused with
      | tooDeep => exact ending_of_run_generate_tree hg hload hsymbol hdraws haccepts

end Runs

/-! ### Lines -/

/-- **Trees from a generator**: at some depth there is one for every call, and its sentence holds no
line end; or no depth is enough. -/
theorem exists_trees_or_tooDeep {g : Grammar} (hg : g.WellFormed) {symbol : String}
    (hsymbol : g.defines symbol = true) (n : Nat) {s : Source} (hs : ∃ t, s = .twister t) :
    (∃ (depth : Nat) (trees : List Tree) (rest : Source),
      (List.replicate n symbol).mapM (g.derive Source.chooser depth) s = .ok trees rest ∧
        trees.length = n ∧ ∀ t ∈ trees, ∀ ch ∈ t.sentence.toList, Text.isLineEnd ch = false) ∨
      ∀ depth, ∃ rest : Source,
        (List.replicate n symbol).mapM (g.derive Source.chooser depth) s =
          .error .tooDeep rest := by
  by_cases hsome : ∃ depth trees rest,
      (List.replicate n symbol).mapM (g.derive Source.chooser depth) s = .ok trees rest
  · obtain ⟨depth, trees, rest, hcalls⟩ := hsome
    refine Or.inl ⟨depth, trees, rest, hcalls, ?_, fun t ht => ?_⟩
    · rw [Grammar.length_of_mapM_ok hcalls, List.length_replicate]
    · obtain ⟨_, -, s₁, s₂, hcall⟩ := Grammar.exists_call_of_mem_mapM hcalls ht
      exact (hg.isSpaced_sentence (Grammar.derives_of_derive hcall)).isLineEnd_eq_false
  · refine Or.inr fun depth => ?_
    have hunrefused := Grammar.unrefused_mapM_derive hg Source.honestOn_twister depth
      (Grammar.defines_of_mem_replicate hsymbol n) hs
    cases hcalls : (List.replicate n symbol).mapM (g.derive Source.chooser depth) s with
    | ok trees rest => exact absurd ⟨depth, trees, rest, hcalls⟩ hsome
    | error e rest =>
      rw [hcalls] at hunrefused
      cases hunrefused with
      | tooDeep => exact ⟨rest, rfl⟩

/-- A tree on a single line holds no line end. -/
theorem isLineEnd_of_mem_jsonText {limit : Nat} {t : Tree} {text : String}
    (h : t.jsonText? limit .compact = some text) :
    ∀ ch ∈ text.toList, Text.isLineEnd ch = false := by
  obtain ⟨-, rfl⟩ := Tree.jsonText?_eq_some_iff.mp h
  intro ch hch
  rcases Json.allows_of_mem_write hch with ⟨hlow, hhigh⟩ | ⟨hlayout, -⟩
  · simp only [Text.isLineEnd, Bool.or_eq_false_iff, Bool.and_eq_false_iff, decide_eq_false_iff_not,
      beq_eq_false_iff_ne]
    omega
  · cases hlayout

/-- **Trees and sentences agree line by line.** Let a grammar be loaded from a file, and let so many
sentences of one of its symbols be asked for with a seed. Then either there is a tree for each of
them, derived by the choices that the seed makes:

* every run for sentences that is accepted writes the sentences of these trees, one a line, and ends
  well, if it has room for the trees, and else it is cut off;
* every run for trees that is accepted writes their JSON texts in its layout, in the same order, and
  ends well, if it has room for the trees and the texts, and else it is cut off;
* the sentences and the texts in the compact layout hold no line end, and in either layout a text is
  read back as the tree that it was written for.

Or a tree is nested too deep for every depth, and all these runs are cut off. -/
theorem trees_agree {store : Store} {file symbol : String} {g : Grammar}
    (hload : Grammar.load store file = .ok g) (hsymbol : g.defines symbol = true) (n : Nat)
    (seed : Int) :
    (∃ (depth : Nat) (trees : List Tree) (rest : Source),
      (List.replicate n symbol).mapM (g.derive Source.chooser depth) (Source.seeded seed) =
          .ok trees rest ∧
        trees.length = n ∧
        (∀ (env : Environment) (level : Option String), env.store = store →
          let args := generateArgs file symbol n seed level
          env.Accepts args →
          (∀ t ∈ trees, t.height ≤ env.limits.depth) ∧
              (env.run args).output = sentenceLines (trees.map Tree.sentence) ∧
              (env.run args).ending = .exit success ∨
            (∃ t ∈ trees, env.limits.depth < t.height) ∧
              (env.run args).ending = .fault (.derivation .tooDeep)) ∧
        (∀ (env : Environment) (pretty : Bool) (level : Option String), env.store = store →
          let args := treeArgs file symbol n seed pretty level
          let layout := prettyLayout pretty
          env.Accepts args →
          (∀ t ∈ trees, env.limits.HoldsText layout t) ∧
              (∃ texts, List.Forall₂ (fun t text =>
                  t.jsonText? (env.limits.nesting layout) layout = some text) trees texts ∧
                (env.run args).output = sentenceLines texts ∧
                (env.run args).ending = .exit success) ∨
            (∃ t ∈ trees, ¬ env.limits.HoldsText layout t) ∧
              (env.run args).ending = .fault (.derivation .tooDeep)) ∧
        ∀ t ∈ trees, (∀ ch ∈ t.sentence.toList, Text.isLineEnd ch = false) ∧
          ∀ limit layout text, t.jsonText? limit layout = some text →
            Tree.ofJsonText? text = some t ∧
              (layout = .compact → ∀ ch ∈ text.toList, Text.isLineEnd ch = false)) ∨
      (∀ depth, ∃ rest : Source,
        (List.replicate n symbol).mapM (g.derive Source.chooser depth) (Source.seeded seed) =
          .error .tooDeep rest) ∧
        ∀ (env : Environment) (pretty : Bool) (level : Option String), env.store = store →
          (env.Accepts (generateArgs file symbol n seed level) →
            (env.run (generateArgs file symbol n seed level)).ending =
              .fault (.derivation .tooDeep)) ∧
          (env.Accepts (treeArgs file symbol n seed pretty level) →
            (env.run (treeArgs file symbol n seed pretty level)).ending =
              .fault (.derivation .tooDeep)) := by
  have hg : g.WellFormed := Grammar.wellFormed_of_load hload
  rcases exists_trees_or_tooDeep hg hsymbol n (s := Source.seeded seed) ⟨_, rfl⟩ with
    ⟨depth, trees, rest, hcalls, hlength, hlines⟩ | hnone
  · refine Or.inl ⟨depth, trees, rest, hcalls, hlength, ?_, ?_, fun t ht => ⟨hlines t ht, ?_⟩⟩
    · rintro env level rfl
      exact run_generate_of_trees hg hload hsymbol hcalls
    · rintro env pretty level rfl
      exact run_generate_tree_of_trees hg hload hsymbol hcalls
    · intro limit layout text htext
      refine ⟨Tree.ofJsonText?_of_jsonText? htext, ?_⟩
      rintro rfl
      exact isLineEnd_of_mem_jsonText htext
  · refine Or.inr ⟨hnone, ?_⟩
    rintro env pretty level rfl
    exact ending_of_no_trees hg hload hsymbol hnone

/-- Two trees from a symbol of two alternatives: their sentences and their texts in both layouts. -/
theorem trees_agree_pair :
    let env : Environment := .single .usual "s::=a|b c" ""
    env.Accepts (generateArgs "g" "s" 2 7 none) ∧
      env.Accepts (treeArgs "g" "s" 2 7 false (some "DEBUG")) ∧
      env.Accepts (treeArgs "g" "s" 2 7 true none) ∧
      ∃ (t u : Tree) (compact₁ compact₂ indented₁ indented₂ : String),
        (env.run (generateArgs "g" "s" 2 7 none)).output =
            sentenceLines [t.sentence, u.sentence] ∧
          (env.run (treeArgs "g" "s" 2 7 false (some "DEBUG"))).output =
            sentenceLines [compact₁, compact₂] ∧
          (env.run (treeArgs "g" "s" 2 7 true none)).output =
            sentenceLines [indented₁, indented₂] ∧
          (∀ ch ∈ compact₁.toList, Text.isLineEnd ch = false) ∧
          Tree.ofJsonText? compact₁ = some t ∧ Tree.ofJsonText? indented₂ = some u := by
  intro env
  let g : Grammar := ⟨[⟨"s", [["a"], ["b", "c"]]⟩]⟩
  have hload : Grammar.load env.store "g" = .ok g := by decide +kernel
  have hplain : env.Asks (generateArgs "g" "s" 2 7 none)
      (.generate ⟨"g", some (.text "s"), .whole 2, false, .compact, some (.whole 7)⟩) false :=
    .of_single _ _ _ (by decide +kernel)
  have hcompact : env.Asks (treeArgs "g" "s" 2 7 false (some "DEBUG"))
      (.generate ⟨"g", some (.text "s"), .whole 2, true, .compact, some (.whole 7)⟩) true :=
    .of_single _ _ _ (by decide +kernel)
  have hindented : env.Asks (treeArgs "g" "s" 2 7 true none)
      (.generate ⟨"g", some (.text "s"), .whole 2, true, .indented, some (.whole 7)⟩) false :=
    .of_single _ _ _ (by decide +kernel)
  have hdefined : g.defines "s" = true := by decide +kernel
  have hg : g.WellFormed := Grammar.wellFormed_of_load hload
  -- no tree is higher than one level
  obtain ⟨sentences, rest', hgenerate⟩ : ∃ sentences rest', (List.replicate 2 "s").mapM
      (g.generate Source.chooser 1) (Source.seeded 7) = .ok sentences rest' :=
    Grammar.exists_mapM_generate hg Source.honestOn_twister (by decide +kernel)
      (fun symbol _ => Grammar.acyclic_of_terminal hg (by decide +kernel) symbol) (by decide)
      ⟨_, rfl⟩
  rw [Grammar.mapM_generate] at hgenerate
  obtain ⟨low, hlow, -⟩ := Outcome.map_eq_ok_iff.mp hgenerate
  refine ⟨hplain.accepts, hcompact.accepts, hindented.accepts, ?_⟩
  rcases trees_agree hload hdefined 2 7 with
    ⟨depth, trees, rest, hcalls, hlength, hsentences, htexts, htrees⟩ | ⟨hnone, -⟩
  · obtain ⟨rfl, -⟩ := Grammar.mapM_derive_unique hcalls hlow
    have hheight : ∀ t ∈ low, t.height ≤ 1 := (Grammar.mapM_derive_iff hlow).mp hlow
    have hholds : ∀ layout, ∀ t ∈ low, env.limits.HoldsText layout t := by
      intro layout t ht
      refine ⟨(hheight t ht).trans (show 1 ≤ 496 by omega), ?_⟩
      calc t.toJson.nesting ≤ 2 * t.height + 2 := Tree.nesting_toJson_le t
        _ ≤ 991 := by have := hheight t ht; omega
    obtain ⟨t, u, rfl⟩ := List.length_eq_two.mp hlength
    rcases hsentences env none rfl hplain.accepts with
      ⟨-, houtput, -⟩ | ⟨⟨v, hv, hhigh⟩, -⟩
    swap
    · exact absurd (hholds .compact v hv).1 (Nat.not_le.mpr hhigh)
    rcases htexts env false (some "DEBUG") rfl hcompact.accepts with
      ⟨-, texts, hwritten, houtput', -⟩ | ⟨⟨v, hv, hroom⟩, -⟩
    swap
    · exact absurd (hholds _ v hv) hroom
    rcases htexts env true none rfl hindented.accepts with
      ⟨-, texts', hwritten', houtput'', -⟩ | ⟨⟨v, hv, hroom⟩, -⟩
    swap
    · exact absurd (hholds _ v hv) hroom
    have hpair : ∀ {R : Tree → String → Prop} {texts : List String},
        List.Forall₂ R [t, u] texts → ∃ first second, texts = [first, second] ∧
          R t first ∧ R u second := by
      rintro R _ (_ | ⟨hfirst, _ | ⟨hsecond, _ | _⟩⟩)
      exact ⟨_, _, rfl, hfirst, hsecond⟩
    obtain ⟨compact₁, compact₂, rfl, hfirst, -⟩ := hpair hwritten
    obtain ⟨indented₁, indented₂, rfl, -, hsecond⟩ := hpair hwritten'
    obtain ⟨hread, hline⟩ := (htrees t (by simp)).2 _ _ _ hfirst
    obtain ⟨hread', -⟩ := (htrees u (by simp)).2 _ _ _ hsecond
    exact ⟨t, u, compact₁, compact₂, indented₁, indented₂, houtput, houtput', houtput'',
      hline rfl, hread, hread'⟩
  · obtain ⟨rest, hdeep⟩ := hnone 1
    rw [hlow] at hdeep
    cases hdeep

end SentenceGen.Cli
