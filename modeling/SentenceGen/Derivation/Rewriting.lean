import SentenceGen.Derivation.Basic

/-!
# Leftmost rewriting

A **form** is a list of tokens. Leftmost rewriting replaces, again and again, the leftmost token of
the form that is a nonterminal by the tokens of one of its alternatives, until there is none left.
No trees are involved; `Grammar.Rewriting` tells the alternatives that were picked on the way from
one form to another and how many there were to pick from at each step.
-/

namespace SentenceGen.Grammar

/-- The leftmost nonterminal of a form, with the tokens in front of it and those behind it. -/
def leftmost? (g : Grammar) : List String → Option (List String × String × List String)
  | [] => none
  | token :: tokens =>
    if g.defines token then some ([], token, tokens)
    else (leftmost? g tokens).map fun (front, symbol, back) => (token :: front, symbol, back)

/-- The form is rewritten to `final` by picking the alternatives numbered `picks`, each from as many
as `counts` says. -/
inductive Rewriting (g : Grammar) :
    (form : List String) → (picks : List Int) → (counts : List Nat) → (final : List String) → Prop
  | refl (form : List String) : Rewriting g form [] [] form
  | step {form front back final : List String} {symbol : String}
      {alternatives : List Alternative} {tokens : Alternative} {pick : Int} {picks : List Int}
      {counts : List Nat} (hleft : g.leftmost? form = some (front, symbol, back))
      (hrule : g.alternatives? symbol = some alternatives)
      (hpick : select? alternatives pick = some tokens)
      (hrest : Rewriting g (front ++ tokens ++ back) picks counts final) :
      Rewriting g form (pick :: picks) (alternatives.length :: counts) final

/-- Nothing is lost by taking out the leftmost nonterminal. -/
theorem eq_append_of_leftmost? {g : Grammar} {form front back : List String} {symbol : String}
    (h : g.leftmost? form = some (front, symbol, back)) : form = front ++ symbol :: back := by
  induction form generalizing front with
  | nil => simp [leftmost?] at h
  | cons token tokens ih =>
    by_cases hdef : g.defines token
    · simp only [leftmost?, hdef, if_true, Option.some.injEq, Prod.mk.injEq] at h
      obtain ⟨rfl, rfl, rfl⟩ := h
      rfl
    · simp only [leftmost?, hdef, Bool.false_eq_true, if_false, Option.map_eq_some_iff] at h
      obtain ⟨⟨front', symbol', back'⟩, hsome, heq⟩ := h
      simp only [Prod.mk.injEq] at heq
      obtain ⟨rfl, rfl, rfl⟩ := heq
      rw [ih hsome, List.cons_append]

end SentenceGen.Grammar
