import SentenceGen.Choice.Source
import SentenceGen.Derivation.Rewriting
import SentenceGen.Proofs.Derivation.Expansion
import SentenceGen.Proofs.Grammar.WellFormed

/-!
# Leftmost rewriting by a script

`Grammar.Rewriting` relates two forms by the picks in between. Here `Grammar.rewrite` follows a
script as far as it leads: it stops at a form without nonterminals, or at a pick that is no number
of an alternative, or at the end of the script. It asks as a recording chooser does, and its outcome
is of the same kind as that of a derivation.

The two descriptions agree (`rewrite_eq_ok_iff`). Rewriting is deterministic, in that what begins
with given picks passes through the form that these lead to (`Rewriting.of_append`).
-/

namespace SentenceGen.Grammar

variable {g : Grammar} {form front back final : List String} {symbol : String}
  {alternatives : List Alternative} {tokens : Alternative}

/-- A list of tokens without nonterminals. -/
def AllTerminal (g : Grammar) (tokens : List String) : Prop :=
  ∀ token ∈ tokens, g.defines token = false

theorem AllTerminal.append {tokens tokens' : List String} (h : g.AllTerminal tokens)
    (h' : g.AllTerminal tokens') : g.AllTerminal (tokens ++ tokens') :=
  List.forall_mem_append.mpr ⟨h, h'⟩

/-! ### The leftmost nonterminal -/

theorem defines_of_leftmost? (h : g.leftmost? form = some (front, symbol, back)) :
    g.defines symbol = true := by
  induction form generalizing front with
  | nil => simp [leftmost?] at h
  | cons token tokens ih =>
    rw [leftmost?] at h
    split_ifs at h with hdef
    · obtain ⟨-, rfl, -⟩ := Prod.mk.inj (Option.some.inj h)
      exact hdef
    · obtain ⟨⟨front', symbol', back'⟩, hrest, heq⟩ := Option.map_eq_some_iff.mp h
      obtain ⟨-, rfl, rfl⟩ := Prod.mk.inj heq
      exact ih hrest

/-- There is no leftmost nonterminal only if there is no nonterminal. -/
theorem leftmost?_eq_none_iff : g.leftmost? form = none ↔ g.AllTerminal form := by
  induction form with
  | nil => simp [leftmost?, AllTerminal]
  | cons token tokens ih =>
    rw [AllTerminal, List.forall_mem_cons, ← AllTerminal, ← ih, leftmost?]
    cases hdef : g.defines token <;> simp

/-- Terminals in front of a nonterminal do not hide it. -/
theorem leftmost?_append_cons (hfront : g.AllTerminal front) (hsymbol : g.defines symbol = true)
    (back : List String) : g.leftmost? (front ++ symbol :: back) = some (front, symbol, back) := by
  induction front with
  | nil => rw [List.nil_append, leftmost?, if_pos hsymbol]
  | cons token tokens ih =>
    have htoken : g.defines token = false := hfront token List.mem_cons_self
    have hrest := ih fun t ht => hfront t (List.mem_cons_of_mem _ ht)
    rw [List.cons_append, leftmost?, hrest]
    simp [htoken]

/-- A leftmost nonterminal has a rule. -/
theorem exists_rule_of_leftmost? (h : g.leftmost? form = some (front, symbol, back)) :
    ∃ alternatives, g.alternatives? symbol = some alternatives := by
  rw [← Option.isSome_iff_exists, ← defines_eq_isSome]
  exact defines_of_leftmost? h

/-! ### Determinism -/

/-- **Rewriting is deterministic.** A rewriting that begins with picks that lead to `mid` goes on
from there. -/
theorem Rewriting.of_append {mid : List String} {picks more : List Int} {counts all : List Nat}
    (hmid : g.Rewriting form picks counts mid) (h : g.Rewriting form (picks ++ more) all final) :
    ∃ counts', g.Rewriting mid more counts' final := by
  induction hmid generalizing all with
  | refl form => exact ⟨all, h⟩
  | step hleft hrule hpick _ ih =>
    rw [List.cons_append] at h
    cases h with
    | step hleft' hrule' hpick' hrest' =>
      -- the same nonterminal, the same alternatives and the same pick
      obtain ⟨rfl, rfl, rfl⟩ := Option.some.inj (hleft.symm.trans hleft')
      obtain rfl := Option.some.inj (hrule.symm.trans hrule')
      obtain rfl := Option.some.inj (hpick.symm.trans hpick')
      exact ih hrest'

/-- Where there is a pick to come, there is a nonterminal left. -/
theorem Rewriting.exists_nonterminal {picks : List Int} {counts : List Nat}
    (h : g.Rewriting form picks counts final) (hne : picks ≠ []) :
    ∃ token ∈ form, g.defines token = true := by
  cases h with
  | refl form => exact absurd rfl hne
  | step hleft _ _ _ =>
    refine ⟨_, ?_, defines_of_leftmost? hleft⟩
    rw [eq_append_of_leftmost? hleft]
    exact List.mem_append_right _ List.mem_cons_self

/-- A form that fewer of the picks lead to has a nonterminal left. -/
theorem Rewriting.exists_nonterminal_of_take {mid : List String} {picks : List Int} {j k : Nat}
    {counts counts' : List Nat} (h : g.Rewriting form (picks.take k) counts final)
    (hk : k ≤ picks.length) (hj : j < k) (hmid : g.Rewriting form (picks.take j) counts' mid) :
    ∃ token ∈ mid, g.defines token = true := by
  have hsplit : picks.take k = picks.take j ++ (picks.drop j).take (k - j) := by
    rw [← List.take_add, Nat.add_sub_cancel' (Nat.le_of_lt hj)]
  rw [hsplit] at h
  -- `mid` is rewritten further, by the picks from the `j`-th on
  obtain ⟨counts'', hrest⟩ := hmid.of_append h
  refine hrest.exists_nonterminal ?_
  rw [← List.length_pos_iff, List.length_take, List.length_drop]
  omega

/-! ### Rewriting by a script -/

/-- Rewrites the form by the picks, as far as they lead, with the numbers that were asked for so
far. -/
def rewrite (g : Grammar) :
    (picks : List Int) → (form : List String) → (asked : List Nat) →
      Outcome SourceError (Source × List Nat) (List String)
  | [], form, asked =>
    match g.leftmost? form with
    | none => .ok form (.script [], asked)
    | some (_, symbol, _) =>
      .error (.choice .exhausted)
        (.script [], asked ++ [((g.alternatives? symbol).getD []).length])
  | pick :: picks, form, asked =>
    match g.leftmost? form with
    | none => .ok form (.script (pick :: picks), asked)
    | some (front, symbol, back) =>
      let alternatives := (g.alternatives? symbol).getD []
      match select? alternatives pick with
      | none =>
        .error (.ofIndex pick alternatives.length symbol)
          (.script picks, asked ++ [alternatives.length])
      | some tokens => rewrite g picks (front ++ tokens ++ back) (asked ++ [alternatives.length])

theorem rewrite_of_allTerminal (h : g.AllTerminal form) (picks : List Int) (asked : List Nat) :
    g.rewrite picks form asked = .ok form (.script picks, asked) := by
  rw [← leftmost?_eq_none_iff] at h
  cases picks <;> rw [rewrite, h]

theorem rewrite_nil (hleft : g.leftmost? form = some (front, symbol, back))
    (hrule : g.alternatives? symbol = some alternatives) (asked : List Nat) :
    g.rewrite [] form asked =
      .error (.choice .exhausted) (.script [], asked ++ [alternatives.length]) := by
  rw [rewrite, hleft]
  simp only [hrule, Option.getD_some]

theorem rewrite_cons (hleft : g.leftmost? form = some (front, symbol, back))
    (hrule : g.alternatives? symbol = some alternatives) (pick : Int) (picks : List Int)
    (asked : List Nat) :
    g.rewrite (pick :: picks) form asked =
      match select? alternatives pick with
      | none =>
        .error (.ofIndex pick alternatives.length symbol)
          (.script picks, asked ++ [alternatives.length])
      | some tokens =>
        g.rewrite picks (front ++ tokens ++ back) (asked ++ [alternatives.length]) := by
  rw [rewrite, hleft]
  simp only [hrule, Option.getD_some]

/-- Picks that lead to a form may as well be taken at once. -/
theorem Rewriting.rewrite_eq {used : List Int} {counts : List Nat} {mid : List String}
    (h : g.Rewriting form used counts mid) (rest : List Int) (asked : List Nat) :
    g.rewrite (used ++ rest) form asked = g.rewrite rest mid (asked ++ counts) := by
  induction h generalizing asked with
  | refl form => rw [List.nil_append, List.append_nil]
  | step hleft hrule hpick _ ih =>
    rw [List.cons_append, rewrite_cons hleft hrule, hpick]
    refine (ih _).trans ?_
    rw [List.append_assoc, List.singleton_append]

/-- A form without nonterminals is where rewriting ends, before any pick. -/
private theorem exists_rewriting_of_allTerminal (hform : g.AllTerminal form) {picks : List Int}
    {asked : List Nat} {s : Source × List Nat} (h : g.rewrite picks form asked = .ok final s) :
    ∃ used rest counts, picks = used ++ rest ∧ s = (.script rest, asked ++ counts) ∧
      g.Rewriting form used counts final ∧ g.AllTerminal final := by
  rw [rewrite_of_allTerminal hform] at h
  obtain ⟨rfl, rfl⟩ := EStateM.Result.ok.inj h
  exact ⟨[], picks, [], rfl, by rw [List.append_nil], .refl form, hform⟩

/-- Rewriting by a script that does not fail takes the picks at its start, as many as it needs. -/
theorem exists_rewriting_of_rewrite {picks : List Int} {asked : List Nat} {s : Source × List Nat}
    (h : g.rewrite picks form asked = .ok final s) :
    ∃ used rest counts, picks = used ++ rest ∧ s = (.script rest, asked ++ counts) ∧
      g.Rewriting form used counts final ∧ g.AllTerminal final := by
  induction picks generalizing form asked with
  | nil =>
    cases hleft : g.leftmost? form with
    | none =>
      exact exists_rewriting_of_allTerminal (leftmost?_eq_none_iff.mp hleft) h
    | some found =>
      obtain ⟨front, symbol, back⟩ := found
      obtain ⟨alternatives, hrule⟩ := exists_rule_of_leftmost? hleft
      rw [rewrite_nil hleft hrule] at h
      cases h
  | cons pick picks ih =>
    cases hleft : g.leftmost? form with
    | none =>
      exact exists_rewriting_of_allTerminal (leftmost?_eq_none_iff.mp hleft) h
    | some found =>
      obtain ⟨front, symbol, back⟩ := found
      obtain ⟨alternatives, hrule⟩ := exists_rule_of_leftmost? hleft
      rw [rewrite_cons hleft hrule] at h
      cases hpick : select? alternatives pick with
      | none => simp [hpick] at h
      | some tokens =>
        rw [hpick] at h
        obtain ⟨used, rest, counts, rfl, rfl, hrest, hfinal⟩ := ih h
        refine ⟨pick :: used, rest, alternatives.length :: counts, rfl, ?_,
          .step hleft hrule hpick hrest, hfinal⟩
        rw [List.append_assoc, List.singleton_append]

/-- **Rewriting by a script** reaches a form without nonterminals by the picks that it takes, and
leaves the others. -/
theorem rewrite_eq_ok_iff {picks rest : List Int} {asked asked' : List Nat} :
    g.rewrite picks form asked = .ok final (.script rest, asked') ↔
      ∃ used counts, picks = used ++ rest ∧ asked' = asked ++ counts ∧
        g.Rewriting form used counts final ∧ g.AllTerminal final := by
  constructor
  · intro h
    obtain ⟨used, rest', counts, rfl, hs, hrewriting, hfinal⟩ := exists_rewriting_of_rewrite h
    obtain ⟨hsource, rfl⟩ := Prod.mk.inj hs
    obtain rfl := Source.script.inj hsource
    exact ⟨used, counts, rfl, rfl, hrewriting, hfinal⟩
  · rintro ⟨used, counts, rfl, rfl, hrewriting, hfinal⟩
    rw [hrewriting.rewrite_eq, rewrite_of_allTerminal hfinal]

end SentenceGen.Grammar
