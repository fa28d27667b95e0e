import Mathlib.Data.List.Basic
import SentenceGen.Derivation.Basic

/-!
# Expansion, case by case

An expansion draws an alternative and then deals with its tokens one after the other, so whatever
holds of expansions is proved together with what holds of lists of tokens. `expand_induction` does
that induction once: its hypotheses are the eight things that can happen, with the outcome of each.
-/

namespace SentenceGen

/-- What comes of a derivation: a value or an error, with the state of the chooser that is left. -/
abbrev Outcome (ε σ α : Type) : Type :=
  EStateM.Result (DerivationError ε) σ α

namespace Outcome

variable {ε σ α β : Type}

/-- Does something to the value, if there is one. -/
def map (f : α → β) : Outcome ε σ α → Outcome ε σ β
  | .ok a s => .ok (f a) s
  | .error e s => .error e s

@[simp] theorem map_ok (f : α → β) (a : α) (s : σ) :
    map f (.ok a s : Outcome ε σ α) = .ok (f a) s :=
  rfl

@[simp] theorem map_error (f : α → β) (e : DerivationError ε) (s : σ) :
    map f (.error e s : Outcome ε σ α) = .error e s :=
  rfl

theorem map_eq_ok_iff {f : α → β} {r : Outcome ε σ α} {b : β} {s : σ} :
    map f r = .ok b s ↔ ∃ a, r = .ok a s ∧ f a = b := by
  cases r with
  | ok a s' =>
    simp only [map_ok, EStateM.Result.ok.injEq]
    constructor
    · rintro ⟨rfl, rfl⟩
      exact ⟨a, ⟨rfl, rfl⟩, rfl⟩
    · rintro ⟨a', ⟨rfl, rfl⟩, rfl⟩
      exact ⟨rfl, rfl⟩
  | error e s' => simp

theorem map_eq_error_iff {f : α → β} {r : Outcome ε σ α} {e : DerivationError ε} {s : σ} :
    map f r = .error e s ↔ r = .error e s := by
  cases r <;> simp

/-- The derivation was not broken off for being nested too deep. -/
def WithinDepth (r : Outcome ε σ α) : Prop :=
  ∀ s, r ≠ .error .tooDeep s

@[simp] theorem withinDepth_map {f : α → β} {r : Outcome ε σ α} :
    (map f r).WithinDepth ↔ r.WithinDepth := by
  cases r <;> simp [WithinDepth]

end Outcome

namespace Grammar

/-! ### Alternatives by number -/

variable {alternatives : List Alternative} {tokens : Alternative} {index : Int}

theorem select?_eq_some_iff :
    select? alternatives index = some tokens ↔
      0 ≤ index ∧ alternatives[index.toNat]? = some tokens := by
  rw [select?]
  split_ifs with h
  · exact iff_of_false (by simp) fun hs => absurd hs.1 (by omega)
  · simp [Int.not_lt.mp h]

/-- The numbers of alternatives are those from zero up to their count. -/
theorem select?_eq_none_iff :
    select? alternatives index = none ↔ ¬ (0 ≤ index ∧ index < alternatives.length) := by
  rw [select?]
  split_ifs with h
  · exact iff_of_true rfl (by omega)
  · rw [List.getElem?_eq_none_iff]
    omega

theorem mem_of_select? (h : select? alternatives index = some tokens) : tokens ∈ alternatives :=
  List.mem_of_getElem? (select?_eq_some_iff.mp h).2

/-- Every alternative has a number. -/
theorem exists_select?_of_mem (h : tokens ∈ alternatives) :
    ∃ index, select? alternatives index = some tokens := by
  obtain ⟨i, hi, rfl⟩ := List.getElem_of_mem h
  refine ⟨i, select?_eq_some_iff.mpr ⟨Int.natCast_nonneg i, ?_⟩⟩
  rw [Int.toNat_natCast, List.getElem?_eq_getElem hi]

/-! ### Draws -/

variable {σ ε : Type}

/-- Draws one of the alternatives of a symbol. -/
def draw (g : Grammar) (c : Chooser σ ε) (symbol : String) :
    EStateM (DerivationError ε) σ Alternative :=
  choose c symbol ((g.alternatives? symbol).getD [])

/-- What comes of a draw is told by the answer of the chooser. -/
theorem draw_of_ask_ok {g : Grammar} {c : Chooser σ ε} {symbol : String} {s s' : σ}
    (hrule : g.alternatives? symbol = some alternatives)
    (hask : c.ask alternatives.length s = .ok index s') :
    g.draw c symbol s =
      match select? alternatives index with
      | none => .error (.ofIndex index alternatives.length symbol) s'
      | some tokens => .ok tokens s' := by
  cases hselect : select? alternatives index <;>
    simp only [draw, choose, hrule, Option.getD_some, hask, hselect]

theorem draw_of_ask_error {g : Grammar} {c : Chooser σ ε} {symbol : String} {s s' : σ} {e : ε}
    (hrule : g.alternatives? symbol = some alternatives)
    (hask : c.ask alternatives.length s = .error e s') :
    g.draw c symbol s = .error (.choice e) s' := by
  simp only [draw, choose, hrule, Option.getD_some, hask]

/-- A draw only gives alternatives that the grammar has. -/
theorem exists_rule_of_draw {g : Grammar} {c : Chooser σ ε} {symbol : String} {s s' : σ}
    (h : g.draw c symbol s = .ok tokens s') :
    ∃ alternatives, g.alternatives? symbol = some alternatives ∧ tokens ∈ alternatives := by
  cases hrule : g.alternatives? symbol with
  | none =>
    -- there is nothing to select from
    simp only [draw, choose, hrule, Option.getD_none] at h
    split at h
    · cases h
    · rw [select?_eq_none_iff.mpr (by simp)] at h
      cases h
  | some alternatives =>
    refine ⟨alternatives, rfl, ?_⟩
    cases hask : c.ask alternatives.length s with
    | error e s'' =>
      rw [draw_of_ask_error hrule hask] at h
      cases h
    | ok index s'' =>
      rw [draw_of_ask_ok hrule hask] at h
      cases hselect : select? alternatives index with
      | none => simp [hselect] at h
      | some tokens' =>
        simp only [hselect, EStateM.Result.ok.injEq] at h
        exact h.1 ▸ mem_of_select? hselect

/-! ### One step of an expansion -/

/-- Expands the nonterminals among the tokens and makes leaves of the others. -/
def expandTokens (g : Grammar) (c : Chooser σ ε) (depth : Nat) :
    List String → EStateM (DerivationError ε) σ (List Tree) :=
  forTokens fun token => if g.defines token then expand g c depth token else pure (.leaf token)

variable (g : Grammar) (c : Chooser σ ε) (depth : Nat) {symbol token : String}
  {tokens : List String} {s s' : σ}

theorem expand_zero (symbol : String) (s : σ) :
    g.expand c 0 symbol s = .error .tooDeep s :=
  rfl

theorem expand_succ_of_error {e : DerivationError ε} (h : g.draw c symbol s = .error e s') :
    g.expand c (depth + 1) symbol s = .error e s' := by
  rw [draw] at h
  simp only [expand, bind, EStateM.bind, h]

theorem expand_succ_of_nil (h : g.draw c symbol s = .ok [] s') :
    g.expand c (depth + 1) symbol s = .ok (.node symbol [.leaf ""]) s' := by
  rw [draw] at h
  simp [expand, bind, EStateM.bind, h, pure, EStateM.pure]

theorem expand_succ_of_cons (h : g.draw c symbol s = .ok (token :: tokens) s') :
    g.expand c (depth + 1) symbol s =
      Outcome.map (.node symbol) (g.expandTokens c depth (token :: tokens) s') := by
  rw [draw] at h
  simp only [expand, expandTokens, bind, EStateM.bind, h, List.isEmpty_cons, Bool.false_eq_true,
    if_false]
  cases forTokens _ (token :: tokens) s' <;> rfl

theorem expandTokens_nil (s : σ) : g.expandTokens c depth [] s = .ok [] s :=
  rfl

/-- A terminal becomes a leaf, and nothing is asked. -/
theorem expandTokens_of_terminal (h : g.defines token = false) (tokens : List String) (s : σ) :
    g.expandTokens c depth (token :: tokens) s =
      Outcome.map (.leaf token :: ·) (g.expandTokens c depth tokens s) := by
  simp only [expandTokens, forTokens, bind, EStateM.bind, h, Bool.false_eq_true, if_false, pure,
    EStateM.pure]
  cases forTokens _ tokens s <;> rfl

theorem expandTokens_of_error {e : DerivationError ε} (h : g.defines token = true)
    (hchild : g.expand c depth token s = .error e s') (tokens : List String) :
    g.expandTokens c depth (token :: tokens) s = .error e s' := by
  simp only [expandTokens, forTokens, bind, EStateM.bind, h, if_true, hchild]

theorem expandTokens_of_ok {child : Tree} (h : g.defines token = true)
    (hchild : g.expand c depth token s = .ok child s') (tokens : List String) :
    g.expandTokens c depth (token :: tokens) s =
      Outcome.map (child :: ·) (g.expandTokens c depth tokens s') := by
  simp only [expandTokens, forTokens, bind, EStateM.bind, h, if_true, hchild]
  cases forTokens _ tokens s' <;> rfl

/-! ### Derivations and sentences -/

theorem generate_eq_map (symbol : String) (s : σ) :
    g.generate c depth symbol s = Outcome.map Tree.sentence (g.derive c depth symbol s) := by
  simp only [generate, Functor.map, EStateM.map]
  cases g.derive c depth symbol s <;> rfl

theorem derive_of_defines (h : g.defines symbol = true) :
    g.derive c depth symbol = g.expand c depth symbol := by
  rw [derive, if_pos h]

/-- A symbol that the grammar does not define is refused before anything is asked. -/
theorem derive_of_not_defines (h : g.defines symbol = false) (s : σ) :
    g.derive c depth symbol s = .error (.unknownSymbol symbol) s := by
  simp only [derive, h, Bool.false_eq_true, if_false]
  rfl

/-! ### The induction -/

/-- **What holds of expansions and of lists of tokens**, proved together: `P` of the outcome of an
expansion at a depth, and `Q` of that of the tokens of an alternative, which are one level deeper.
There is one hypothesis for each thing that can happen. -/
theorem expand_induction {P : Nat → String → σ → Outcome ε σ Tree → Prop}
    {Q : Nat → List String → σ → Outcome ε σ (List Tree) → Prop}
    (tooDeep : ∀ symbol s, P 0 symbol s (.error .tooDeep s))
    (refused : ∀ depth symbol s e s', g.draw c symbol s = .error e s' →
      P (depth + 1) symbol s (.error e s'))
    (empty : ∀ depth symbol s s', g.draw c symbol s = .ok [] s' →
      P (depth + 1) symbol s (.ok (.node symbol [.leaf ""]) s'))
    (expansion : ∀ depth symbol s token tokens s', g.draw c symbol s = .ok (token :: tokens) s' →
      Q depth (token :: tokens) s' (g.expandTokens c depth (token :: tokens) s') →
      P (depth + 1) symbol s
        (Outcome.map (.node symbol) (g.expandTokens c depth (token :: tokens) s')))
    (nil : ∀ depth s, Q depth [] s (.ok [] s))
    (terminal : ∀ depth token tokens s, g.defines token = false →
      Q depth tokens s (g.expandTokens c depth tokens s) →
      Q depth (token :: tokens) s
        (Outcome.map (.leaf token :: ·) (g.expandTokens c depth tokens s)))
    (failed : ∀ depth token tokens s e s', g.defines token = true →
      P depth token s (.error e s') → Q depth (token :: tokens) s (.error e s'))
    (nonterminal : ∀ depth token tokens s child s', g.defines token = true →
      P depth token s (.ok child s') → Q depth tokens s' (g.expandTokens c depth tokens s') →
      Q depth (token :: tokens) s
        (Outcome.map (child :: ·) (g.expandTokens c depth tokens s'))) :
    (∀ depth symbol s, P depth symbol s (g.expand c depth symbol s)) ∧
      ∀ depth tokens s, Q depth tokens s (g.expandTokens c depth tokens s) := by
  -- the tokens at a depth, once the expansions at this depth are known
  have htokens : ∀ depth, (∀ symbol s, P depth symbol s (g.expand c depth symbol s)) →
      ∀ tokens s, Q depth tokens s (g.expandTokens c depth tokens s) := by
    intro depth hP tokens
    induction tokens with
    | nil =>
      intro s
      rw [expandTokens_nil]
      exact nil depth s
    | cons token tokens ih =>
      intro s
      cases hdef : g.defines token with
      | false =>
        rw [expandTokens_of_terminal g c depth hdef]
        exact terminal depth token tokens s hdef (ih s)
      | true =>
        have hchild := hP token s
        cases hrun : g.expand c depth token s with
        | error e s' =>
          rw [hrun] at hchild
          rw [expandTokens_of_error g c depth hdef hrun]
          exact failed depth token tokens s e s' hdef hchild
        | ok child s' =>
          rw [hrun] at hchild
          rw [expandTokens_of_ok g c depth hdef hrun]
          exact nonterminal depth token tokens s child s' hdef hchild (ih s')
  -- the expansions one level up, once the tokens at a depth are known
  have hexpand : ∀ depth symbol s, P depth symbol s (g.expand c depth symbol s) := by
    intro depth
    induction depth with
    | zero =>
      intro symbol s
      rw [expand_zero]
      exact tooDeep symbol s
    | succ depth ih =>
      intro symbol s
      cases hdraw : g.draw c symbol s with
      | error e s' =>
        rw [expand_succ_of_error g c depth hdraw]
        exact refused depth symbol s e s' hdraw
      | ok tokens s' =>
        cases tokens with
        | nil =>
          rw [expand_succ_of_nil g c depth hdraw]
          exact empty depth symbol s s' hdraw
        | cons token tokens =>
          rw [expand_succ_of_cons g c depth hdraw]
          exact expansion depth symbol s token tokens s' hdraw (htokens depth ih _ _)
  exact ⟨hexpand, fun depth => htokens depth (hexpand depth)⟩

end Grammar

end SentenceGen
