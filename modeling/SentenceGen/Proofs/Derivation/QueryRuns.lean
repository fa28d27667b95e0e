import SentenceGen.Derivation.Query
import SentenceGen.Proofs.Derivation.Picks

/-!
# Queries one after the other

A grammar answers queries together with a chooser, whose state goes from one query to the next.
`Query.Answered` says how each query is answered, with the numbers that the chooser was asked for
and what it gave for them: only a derivation of a symbol that is defined, without a chooser of its
own, asks for any, and these account for its result.

So the state before a query is that after asking for the numbers of all queries in front of it, one
segment for each of them (`Query.answers_in_segments`). A query that fails half-way spends what it
has asked for up to there, and the next one goes on behind it.
-/

namespace SentenceGen

variable {σ ε : Type}

/-! ### Watching a derivation -/

section Watch

variable {α : Type} {c : Chooser σ ε}
  {d : Chooser (σ × List Nat) ε → EStateM (DerivationError ε) (σ × List Nat) α} {s : σ}

/-- What is watched is read off the outcome with a chooser that records. -/
theorem Chooser.watch_eq : c.watch d s = (Outcome.result (d c.recording (s, [])),
    (Outcome.state (d c.recording (s, []))).2, (Outcome.state (d c.recording (s, []))).1) := by
  rw [watch]
  cases d c.recording (s, []) <;> rfl

/-- What is watched are the numbers that account for the result. -/
theorem Chooser.spends_watch
    (h : Outcome.SpendsFrom c (s, []) (d c.recording (s, []))) :
    (c.watch d s).2.2 = (c.askAll (c.watch d s).2.1 s).2 ∧
      Spends (c.watch d s).1 (c.watch d s).2.1 (c.askAll (c.watch d s).2.1 s).1 := by
  obtain ⟨counts, hstate, hspends⟩ := h
  rw [watch_eq, hstate]
  exact ⟨rfl, hspends⟩

end Watch

namespace Grammar

variable (g : Grammar) (c : Chooser σ ε) (depth : Nat) {symbol : String}

theorem spends_derive (h : g.defines symbol = true) (start : σ × List Nat) :
    Outcome.SpendsFrom c start (g.derive c.recording depth symbol start) := by
  rw [derive_of_defines g _ depth h]
  exact g.spends_expand c depth symbol start

theorem spends_generate (h : g.defines symbol = true) (start : σ × List Nat) :
    Outcome.SpendsFrom c start (g.generate c.recording depth symbol start) := by
  rw [generate_eq_map]
  exact (g.spends_derive c depth h start).map _

theorem watch_derive_of_not_defines (h : g.defines symbol = false) (s : σ) :
    c.watch (g.derive · depth symbol) s = (.error (.unknownSymbol symbol), [], s) := by
  rw [Chooser.watch_eq, derive_of_not_defines g _ depth h]
  rfl

theorem watch_generate_of_not_defines (h : g.defines symbol = false) (s : σ) :
    c.watch (g.generate · depth symbol) s = (.error (.unknownSymbol symbol), [], s) := by
  rw [Chooser.watch_eq, generate_eq_map, derive_of_not_defines g _ depth h]
  rfl

end Grammar

namespace Query

/-! ### One query -/

/-- The numbers that a query has asked the chooser of the grammar for, as its answer tells. -/
def spent : Query σ ε → Answer ε → List Nat
  | generate _ none, .sentence _ asked => asked
  | derive _ none, .tree _ asked => asked
  | _, _ => []

/-- How a query is answered, with the numbers that the chooser of the grammar was asked for and what
it gave for them. -/
inductive Answered (g : Grammar) (depth : Nat) :
    Query σ ε → Answer ε → List Nat → List (Except ε Int) → Prop
  | contains (symbol : Option String) :
      Answered g depth (.contains symbol) (.contained (g.contains symbol)) [] []
  | listing : Answered g depth .listing (.text g.listing) [] []
  | symbols : Answered g depth .symbols (.texts g.symbols) [] []
  | rules : Answered g depth .rules (.rules g.rules) [] []
  | lines : Answered g depth .lines (.texts g.lines) [] []
  | display : Answered g depth .display (.text g.display) [] []
  | ownGenerate (symbol : String) (own : Chooser σ ε) (start : σ) :
      Answered g depth (.generate symbol (some (own, start)))
        (.sentence (own.watch (g.generate · depth symbol) start).1
          (own.watch (g.generate · depth symbol) start).2.1) [] []
  | ownDerive (symbol : String) (own : Chooser σ ε) (start : σ) :
      Answered g depth (.derive symbol (some (own, start)))
        (.tree (own.watch (g.derive · depth symbol) start).1
          (own.watch (g.derive · depth symbol) start).2.1) [] []
  | unknownGenerate {symbol : String} (h : g.defines symbol = false) :
      Answered g depth (.generate symbol none) (.sentence (.error (.unknownSymbol symbol)) []) [] []
  | unknownDerive {symbol : String} (h : g.defines symbol = false) :
      Answered g depth (.derive symbol none) (.tree (.error (.unknownSymbol symbol)) []) [] []
  | generate {symbol : String} (h : g.defines symbol = true)
      {result : Except (DerivationError ε) String} {counts : List Nat}
      {given : List (Except ε Int)} (hspends : Spends result counts given) :
      Answered g depth (.generate symbol none) (.sentence result counts) counts given
  | derive {symbol : String} (h : g.defines symbol = true)
      {result : Except (DerivationError ε) Tree} {counts : List Nat}
      {given : List (Except ε Int)} (hspends : Spends result counts given) :
      Answered g depth (.derive symbol none) (.tree result counts) counts given

variable (g : Grammar) (c : Chooser σ ε) (depth : Nat)

/-- **Each query leaves the state after asking for what it has spent.** -/
theorem answered_answer (q : Query σ ε) (s : σ) :
    (q.answer g c depth s).2 = (c.askAll (q.spent (q.answer g c depth s).1) s).2 ∧
      q.Answered g depth (q.answer g c depth s).1 (q.spent (q.answer g c depth s).1)
        (c.askAll (q.spent (q.answer g c depth s).1) s).1 := by
  cases q with
  | contains symbol => exact ⟨rfl, .contains symbol⟩
  | listing => exact ⟨rfl, .listing⟩
  | symbols => exact ⟨rfl, .symbols⟩
  | rules => exact ⟨rfl, .rules⟩
  | lines => exact ⟨rfl, .lines⟩
  | display => exact ⟨rfl, .display⟩
  | generate symbol own =>
    cases own with
    | some own => exact ⟨rfl, .ownGenerate symbol own.1 own.2⟩
    | none =>
      cases hsymbol : g.defines symbol with
      | false =>
        simp only [answer, g.watch_generate_of_not_defines c depth hsymbol]
        exact ⟨rfl, .unknownGenerate hsymbol⟩
      | true =>
        obtain ⟨hstate, hspends⟩ := Chooser.spends_watch (d := (g.generate · depth symbol))
          (g.spends_generate c depth hsymbol (s, []))
        exact ⟨hstate, .generate hsymbol hspends⟩
  | derive symbol own =>
    cases own with
    | some own => exact ⟨rfl, .ownDerive symbol own.1 own.2⟩
    | none =>
      cases hsymbol : g.defines symbol with
      | false =>
        simp only [answer, g.watch_derive_of_not_defines c depth hsymbol]
        exact ⟨rfl, .unknownDerive hsymbol⟩
      | true =>
        obtain ⟨hstate, hspends⟩ := Chooser.spends_watch (d := (g.derive · depth symbol))
          (g.spends_derive c depth hsymbol (s, []))
        exact ⟨hstate, .derive hsymbol hspends⟩

/-! ### Several queries -/

/-- The numbers that queries have asked the chooser of the grammar for, as their answers tell, one
segment after the other. -/
def spentAll (qs : List (Query σ ε)) (answers : List (Answer ε)) : List Nat :=
  (List.zipWith spent qs answers).flatten

variable {before after : List (Query σ ε)}

theorem answers_cons (q : Query σ ε) (qs : List (Query σ ε)) (s : σ) :
    answers g c depth (q :: qs) s =
      ((q.answer g c depth s).1 :: (answers g c depth qs (q.answer g c depth s).2).1,
        (answers g c depth qs (q.answer g c depth s).2).2) :=
  rfl

theorem length_answers (qs : List (Query σ ε)) (s : σ) :
    (answers g c depth qs s).1.length = qs.length := by
  induction qs generalizing s with
  | nil => rfl
  | cons q qs ih => rw [answers_cons, List.length_cons, List.length_cons, ih]

theorem answers_append (before after : List (Query σ ε)) (s : σ) :
    answers g c depth (before ++ after) s =
      ((answers g c depth before s).1 ++
          (answers g c depth after (answers g c depth before s).2).1,
        (answers g c depth after (answers g c depth before s).2).2) := by
  induction before generalizing s with
  | nil => rfl
  | cons q before ih => rw [List.cons_append, answers_cons, ih, answers_cons, List.cons_append]

theorem spentAll_cons (q : Query σ ε) (a : Answer ε) (qs : List (Query σ ε))
    (answers : List (Answer ε)) :
    spentAll (q :: qs) (a :: answers) = q.spent a ++ spentAll qs answers :=
  rfl

theorem spentAll_append {shown later : List (Answer ε)} (h : before.length = shown.length) :
    spentAll (before ++ after) (shown ++ later) =
      spentAll before shown ++ spentAll after later := by
  rw [spentAll, List.zipWith_append h, List.flatten_append, ← spentAll, ← spentAll]

/-- **A run leaves the state after asking for what it has spent**, query by query. -/
theorem state_answers (qs : List (Query σ ε)) (s : σ) :
    (answers g c depth qs s).2 = (c.askAll (spentAll qs (answers g c depth qs s).1) s).2 := by
  induction qs generalizing s with
  | nil => rfl
  | cons q qs ih =>
    obtain ⟨hstate, -⟩ := answered_answer g c depth q s
    rw [answers_cons, spentAll_cons, Chooser.askAll_append, ← hstate, ih]

/-- **Every query of a run is answered as by itself, with the picks that are left.** In a run of any
queries, the one that stands behind some others gets the answer that it would get as the first one,
in the state after asking the chooser for all that the others have spent; this is one of the answers
that `Query.Answered` lists. The views are those of the grammar throughout, and only a derivation of
a symbol that is defined, without a chooser of its own, spends anything. What the chooser gives over
the run are the segments of the queries, one after the other, and the state at the end is that
behind the last one. -/
theorem answers_in_segments (g : Grammar) (c : Chooser σ ε) (depth : Nat)
    (before : List (Query σ ε)) (q : Query σ ε) (after : List (Query σ ε)) (s : σ) :
    ∃ (shown later : List (Answer ε)) (a : Answer ε) (s₁ s₂ s₃ : σ)
      (given₁ given given₂ : List (Except ε Int)),
      answers g c depth (before ++ q :: after) s = (shown ++ a :: later, s₃) ∧
        answers g c depth before s = (shown, s₁) ∧
        q.answer g c depth s₁ = (a, s₂) ∧
        answers g c depth after s₂ = (later, s₃) ∧
        c.askAll (spentAll before shown) s = (given₁, s₁) ∧
        c.askAll (q.spent a) s₁ = (given, s₂) ∧
        c.askAll (spentAll after later) s₂ = (given₂, s₃) ∧
        c.askAll (spentAll (before ++ q :: after) (shown ++ a :: later)) s =
          (given₁ ++ given ++ given₂, s₃) ∧
        q.Answered g depth a (q.spent a) given := by
  obtain ⟨shown, s₁, hshown⟩ : ∃ shown s₁, answers g c depth before s = (shown, s₁) := ⟨_, _, rfl⟩
  obtain ⟨a, s₂, hanswer⟩ : ∃ a s₂, q.answer g c depth s₁ = (a, s₂) := ⟨_, _, rfl⟩
  obtain ⟨later, s₃, hlater⟩ : ∃ later s₃, answers g c depth after s₂ = (later, s₃) :=
    ⟨_, _, rfl⟩
  -- the state behind each part of the run is that after asking for what the part has spent
  have hbefore : c.askAll (spentAll before shown) s =
      ((c.askAll (spentAll before shown) s).1, s₁) := by
    have hstate := state_answers g c depth before s
    rw [hshown] at hstate
    exact Prod.ext rfl hstate.symm
  have hafter : c.askAll (spentAll after later) s₂ =
      ((c.askAll (spentAll after later) s₂).1, s₃) := by
    have hstate := state_answers g c depth after s₂
    rw [hlater] at hstate
    exact Prod.ext rfl hstate.symm
  obtain ⟨hstate, hanswered⟩ := answered_answer g c depth q s₁
  rw [hanswer] at hstate hanswered
  have hquery : c.askAll (q.spent a) s₁ = ((c.askAll (q.spent a) s₁).1, s₂) :=
    Prod.ext rfl hstate.symm
  have hlength : before.length = shown.length := by
    rw [← length_answers g c depth before s, hshown]
  refine ⟨shown, later, a, s₁, s₂, s₃, _, _, _, ?_, hshown, hanswer, hlater, hbefore, hquery,
    hafter, ?_, hanswered⟩
  · rw [answers_append, hshown, answers_cons, hanswer, hlater]
  · rw [spentAll_append hlength, spentAll_cons, Chooser.askAll_append, Chooser.askAll_append,
      hbefore, hquery, hafter, List.append_assoc]

/-- With a script, the picks that are left are those behind as many as were asked for. -/
theorem getElem?_answers_script (g : Grammar) (depth : Nat)
    (before : List (Query Source SourceError)) (q : Query Source SourceError)
    (after : List (Query Source SourceError)) (picks : List Int) :
    let shown := (answers g Source.chooser depth before (.script picks)).1
    (answers g Source.chooser depth (before ++ q :: after) (.script picks)).1[before.length]? =
      some (q.answer g Source.chooser depth
        (.script (picks.drop (spentAll before shown).length))).1 := by
  intro shown
  have hstate : (answers g Source.chooser depth before (.script picks)).2 =
      .script (picks.drop (spentAll before shown).length) := by
    rw [state_answers, Chooser.askAll_script]
  rw [answers_append, hstate, answers_cons,
    ← length_answers g Source.chooser depth before (.script picks)]
  rw [List.getElem?_append_right (Nat.le_refl _), Nat.sub_self]
  rfl

/-- A pick that is out of range is spent, and a call that fails for its symbol or brings its own
picks spends none. -/
example :
    (answers ⟨[⟨"s", [["n", "n"]]⟩, ⟨"n", [["a"], ["b"]]⟩]⟩ Source.chooser 3
      [.derive "s" none, .generate "t" none,
        .generate "s" (some (Source.chooser, .script [0, 0, 0])), .derive "n" none]
      (.script [0, 9, 1, 5])).2 = .script [5] :=
  rfl

end Query

end SentenceGen
