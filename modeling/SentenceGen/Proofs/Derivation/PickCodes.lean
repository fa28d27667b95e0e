import SentenceGen.Proofs.Derivation.Trees

/-!
# Picks as a code for derivation trees

A derivation with a script takes some picks from its start, one at every expansion. Read without the
grammar they are numbers only; with it they are a code word for the tree. `Grammar.Codes` says by
the rules alone which picks code which tree:

* **a derivation reads a code word** (`exists_codes_of_expand`): the picks that it takes code the
  tree that it gives;
* **a code word delimits itself** (`Codes.eq_of_append`): it tells where it ends, so that none is a
  proper prefix of another one, whatever trees they code;
* **a tree has one code word** (`Codes.unique`), if no rule lists an alternative twice: the labels
  of the children of a node spell the alternative that was picked, and the empty leaf spells none
  but the alternative without tokens.

`scripts_form_code` says this of derivations.
-/

namespace SentenceGen.Grammar

mutual
/-- The picks lead from the symbol to the tree, in the order in which a derivation asks for them:
the pick of the root first, then those of its children from left to right. -/
inductive Codes (g : Grammar) : String → List Int → Tree → Prop
  | empty {symbol : String} {alternatives : List Alternative} {pick : Int}
      (hrule : g.alternatives? symbol = some alternatives)
      (hpick : select? alternatives pick = some []) :
      Codes g symbol [pick] (.node symbol [.leaf ""])
  | expansion {symbol : String} {alternatives : List Alternative} {pick : Int} {token : String}
      {tokens : List String} {picks : List Int} {children : List Tree}
      (hrule : g.alternatives? symbol = some alternatives)
      (hpick : select? alternatives pick = some (token :: tokens))
      (hchildren : CodesTokens g (token :: tokens) picks children) :
      Codes g symbol (pick :: picks) (.node symbol children)

/-- The picks lead from the tokens to the trees, one for each token. Terminals take no pick. -/
inductive CodesTokens (g : Grammar) : List String → List Int → List Tree → Prop
  | nil : CodesTokens g [] [] []
  | terminal {token : String} {tokens : List String} {picks : List Int} {children : List Tree}
      (hterminal : g.defines token = false) (hrest : CodesTokens g tokens picks children) :
      CodesTokens g (token :: tokens) picks (.leaf token :: children)
  | nonterminal {token : String} {tokens : List String} {first picks : List Int} {child : Tree}
      {children : List Tree} (hchild : Codes g token first child)
      (hrest : CodesTokens g tokens picks children) :
      CodesTokens g (token :: tokens) (first ++ picks) (child :: children)
end

variable {g : Grammar}

theorem Codes.defines {symbol : String} {picks : List Int} {t : Tree} (h : g.Codes symbol picks t) :
    g.defines symbol = true := by
  cases h with
  | empty hrule _ => exact defines_of_alternatives? hrule
  | expansion hrule _ _ => exact defines_of_alternatives? hrule

/-! ### Derivations read code words -/

/-- A draw from a script takes its first pick. -/
theorem exists_pick_of_draw {symbol : String} {tokens : Alternative} {picks : List Int} {s : Source}
    (h : g.draw Source.chooser symbol (.script picks) = .ok tokens s) :
    ∃ alternatives pick rest, g.alternatives? symbol = some alternatives ∧
      select? alternatives pick = some tokens ∧ picks = pick :: rest ∧ s = .script rest := by
  obtain ⟨alternatives, hrule, -⟩ := exists_rule_of_draw h
  cases picks with
  | nil =>
    have hask : Source.chooser.ask alternatives.length (.script []) =
        .error .exhausted (.script []) := rfl
    rw [draw_of_ask_error hrule hask] at h
    cases h
  | cons pick rest =>
    have hask : Source.chooser.ask alternatives.length (.script (pick :: rest)) =
        .ok pick (.script rest) := rfl
    rw [draw_of_ask_ok hrule hask] at h
    cases hselect : select? alternatives pick with
    | none => simp [hselect] at h
    | some tokens' =>
      simp only [hselect, EStateM.Result.ok.injEq] at h
      obtain ⟨rfl, rfl⟩ := h
      exact ⟨alternatives, pick, rest, hrule, hselect, rfl, rfl⟩

/-- **An expansion reads a code word** of the tree that it gives from the start of the script. -/
theorem exists_codes_of_expand {depth : Nat} {symbol : String} {picks : List Int} {t : Tree}
    {s : Source} (h : g.expand Source.chooser depth symbol (.script picks) = .ok t s) :
    ∃ used rest, picks = used ++ rest ∧ s = .script rest ∧ g.Codes symbol used t := by
  refine (expand_induction g Source.chooser
    (P := fun _ symbol s r => ∀ picks t s', s = .script picks → r = .ok t s' →
      ∃ used rest, picks = used ++ rest ∧ s' = .script rest ∧ g.Codes symbol used t)
    (Q := fun _ tokens s r => ∀ picks ts s', s = .script picks → r = .ok ts s' →
      ∃ used rest, picks = used ++ rest ∧ s' = .script rest ∧ g.CodesTokens tokens used ts)
    ?tooDeep ?refused ?empty ?expansion ?nil ?terminal ?failed ?nonterminal).1
      depth symbol (.script picks) picks t s rfl h
  case tooDeep =>
    intro symbol s picks t s' _ hr
    cases hr
  case refused =>
    intro depth symbol s e s' _ picks t s'' _ hr
    cases hr
  case empty =>
    rintro depth symbol s s' hdraw picks t s'' rfl hr
    obtain ⟨rfl, rfl⟩ := EStateM.Result.ok.inj hr
    obtain ⟨alternatives, pick, rest, hrule, hpick, rfl, rfl⟩ := exists_pick_of_draw hdraw
    exact ⟨[pick], rest, rfl, rfl, .empty hrule hpick⟩
  case expansion =>
    rintro depth symbol s token tokens s' hdraw hQ picks t s'' rfl hr
    obtain ⟨children, hchildren, rfl⟩ := Outcome.map_eq_ok_iff.mp hr
    obtain ⟨alternatives, pick, later, hrule, hpick, rfl, rfl⟩ := exists_pick_of_draw hdraw
    obtain ⟨used, rest, rfl, rfl, hcodes⟩ := hQ later children s'' rfl hchildren
    exact ⟨pick :: used, rest, rfl, rfl, .expansion hrule hpick hcodes⟩
  case nil =>
    rintro depth s picks ts s' rfl hr
    obtain ⟨rfl, rfl⟩ := EStateM.Result.ok.inj hr
    exact ⟨[], picks, rfl, rfl, .nil⟩
  case terminal =>
    intro depth token tokens s hterminal hQ picks ts s' hs hr
    obtain ⟨children, hchildren, rfl⟩ := Outcome.map_eq_ok_iff.mp hr
    obtain ⟨used, rest, hpicks, hs', hcodes⟩ := hQ picks children s' hs hchildren
    exact ⟨used, rest, hpicks, hs', .terminal hterminal hcodes⟩
  case failed =>
    intro depth token tokens s e s' _ _ picks ts s'' _ hr
    cases hr
  case nonterminal =>
    intro depth token tokens s child s' _ hP hQ picks ts s'' hs hr
    obtain ⟨children, hchildren, rfl⟩ := Outcome.map_eq_ok_iff.mp hr
    -- the other tokens read on where the first one stopped
    obtain ⟨first, later, rfl, rfl, hchild⟩ := hP picks child s' hs rfl
    obtain ⟨used, rest, rfl, rfl, hcodes⟩ := hQ later children s'' rfl hchildren
    exact ⟨first ++ used, rest, (List.append_assoc first used rest).symm, rfl,
      .nonterminal hchild hcodes⟩

theorem exists_codes_of_derive {depth : Nat} {symbol : String} {picks : List Int} {t : Tree}
    {s : Source} (h : g.derive Source.chooser depth symbol (.script picks) = .ok t s) :
    ∃ used rest, picks = used ++ rest ∧ s = .script rest ∧ g.Codes symbol used t := by
  rw [derive] at h
  split_ifs at h
  · exact exists_codes_of_expand h
  · cases h

/-! ### Code words delimit themselves -/

/-- One pick leads to one alternative of a symbol. -/
theorem tokens_eq_of_pick {symbol : String} {alternatives alternatives' : List Alternative}
    {pick : Int} {tokens tokens' : Alternative} (hrule : g.alternatives? symbol = some alternatives)
    (hpick : select? alternatives pick = some tokens)
    (hrule' : g.alternatives? symbol = some alternatives')
    (hpick' : select? alternatives' pick = some tokens') : tokens = tokens' := by
  obtain rfl := Option.some.inj (hrule.symm.trans hrule')
  exact Option.some.inj (hpick.symm.trans hpick')

mutual
/-- **A code word tells where it ends**: two that start the same picks are one and code the same
tree. -/
theorem Codes.eq_of_append {symbol : String} {picks : List Int} {t : Tree} :
    g.Codes symbol picks t → ∀ {picks' t' rest rest'}, g.Codes symbol picks' t' →
      picks ++ rest = picks' ++ rest' → picks = picks' ∧ t = t'
  | .empty hrule hpick => by
    intro h' heq
    cases h' with
    | empty _ _ =>
      obtain ⟨rfl, -⟩ := List.cons.inj heq
      exact ⟨rfl, rfl⟩
    | expansion hrule' hpick' _ =>
      obtain ⟨rfl, -⟩ := List.cons.inj heq
      cases tokens_eq_of_pick hrule hpick hrule' hpick'
  | .expansion hrule hpick hchildren => by
    intro h' heq
    cases h' with
    | empty hrule' hpick' =>
      obtain ⟨rfl, -⟩ := List.cons.inj heq
      cases tokens_eq_of_pick hrule hpick hrule' hpick'
    | expansion hrule' hpick' hchildren' =>
      -- the same pick, so the same tokens
      obtain ⟨rfl, hlater⟩ := List.cons.inj heq
      cases tokens_eq_of_pick hrule hpick hrule' hpick'
      obtain ⟨rfl, rfl⟩ := hchildren.eq_of_append hchildren' hlater
      exact ⟨rfl, rfl⟩

theorem CodesTokens.eq_of_append {tokens : List String} {picks : List Int} {ts : List Tree} :
    g.CodesTokens tokens picks ts → ∀ {picks' ts' rest rest'}, g.CodesTokens tokens picks' ts' →
      picks ++ rest = picks' ++ rest' → picks = picks' ∧ ts = ts'
  | .nil => by
    intro h' _
    cases h' with
    | nil => exact ⟨rfl, rfl⟩
  | .terminal hterminal hrest => by
    intro h' heq
    cases h' with
    | terminal _ hrest' =>
      obtain ⟨rfl, rfl⟩ := hrest.eq_of_append hrest' heq
      exact ⟨rfl, rfl⟩
    | nonterminal hchild' _ =>
      cases hterminal.symm.trans hchild'.defines
  | .nonterminal hchild hrest => by
    intro h' heq
    cases h' with
    | terminal hterminal' _ =>
      cases hterminal'.symm.trans hchild.defines
    | nonterminal hchild' hrest' =>
      -- the first child ends at the same place, and the others go on from there
      rw [List.append_assoc, List.append_assoc] at heq
      obtain ⟨rfl, rfl⟩ := hchild.eq_of_append hchild' heq
      obtain ⟨rfl, rfl⟩ := hrest.eq_of_append hrest' (List.append_cancel_left heq)
      exact ⟨rfl, rfl⟩
end

/-! ### Trees tell their code words -/

theorem Codes.label_eq {symbol : String} {picks : List Int} {t : Tree}
    (h : g.Codes symbol picks t) : t.label = symbol := by
  cases h <;> rfl

/-- The labels of the children spell the tokens. -/
theorem CodesTokens.map_label {tokens : List String} {picks : List Int} {ts : List Tree}
    (h : g.CodesTokens tokens picks ts) : ts.map Tree.label = tokens := by
  cases h with
  | nil => rfl
  | terminal _ hrest => rw [List.map_cons, hrest.map_label, Tree.label]
  | nonterminal hchild hrest => rw [List.map_cons, hrest.map_label, hchild.label_eq]

/-- No token is empty, so an empty leaf alone stands for no tokens at all. -/
theorem CodesTokens.ne_empty_leaf (hg : g.WellFormed) {symbol : String}
    {alternatives : List Alternative} {pick : Int} {tokens : Alternative} {picks : List Int}
    {ts : List Tree} (hrule : g.alternatives? symbol = some alternatives)
    (hpick : select? alternatives pick = some tokens) (h : g.CodesTokens tokens picks ts) :
    ts ≠ [.leaf ""] := by
  rintro rfl
  have hspelt : [""] = tokens := h.map_label
  have htoken : "" ∈ tokens := hspelt ▸ List.mem_singleton_self ""
  exact (hg.isToken hrule (mem_of_select? hpick) htoken).ne_empty rfl

/-- No rule lists an alternative twice. -/
def ListsNoneTwice (g : Grammar) : Prop :=
  ∀ r ∈ g.rules, r.alternatives.Nodup

/-- Where no alternative is listed twice, it has one number. -/
theorem ListsNoneTwice.pick_eq (hdistinct : g.ListsNoneTwice) (hg : g.WellFormed) {symbol : String}
    {alternatives alternatives' : List Alternative} {tokens : Alternative} {pick pick' : Int}
    (hrule : g.alternatives? symbol = some alternatives)
    (hpick : select? alternatives pick = some tokens)
    (hrule' : g.alternatives? symbol = some alternatives')
    (hpick' : select? alternatives' pick' = some tokens) : pick = pick' := by
  obtain rfl := Option.some.inj (hrule.symm.trans hrule')
  have hnodup := hdistinct _ (hg.alternatives?_eq_some_iff.mp hrule)
  obtain ⟨hnonneg, hget⟩ := select?_eq_some_iff.mp hpick
  obtain ⟨hnonneg', hget'⟩ := select?_eq_some_iff.mp hpick'
  have hlt : pick.toNat < alternatives.length := (List.getElem?_eq_some_iff.mp hget).1
  have heq := (List.getElem?_inj hlt hnodup).mp (hget.trans hget'.symm)
  omega

mutual
/-- **A tree has one code word**, if no rule lists an alternative twice. -/
theorem Codes.unique (hg : g.WellFormed) (hdistinct : g.ListsNoneTwice) {symbol : String}
    {picks : List Int} {t : Tree} :
    g.Codes symbol picks t → ∀ {picks'}, g.Codes symbol picks' t → picks = picks'
  | .empty hrule hpick => by
    intro h'
    cases h' with
    | empty hrule' hpick' => rw [hdistinct.pick_eq hg hrule hpick hrule' hpick']
    | expansion hrule' hpick' hchildren' =>
      exact absurd rfl (hchildren'.ne_empty_leaf hg hrule' hpick')
  | .expansion hrule hpick hchildren => by
    intro h'
    cases h' with
    | empty _ _ => exact absurd rfl (hchildren.ne_empty_leaf hg hrule hpick)
    | expansion hrule' hpick' hchildren' =>
      -- the children spell the tokens, and these tell the pick
      cases hchildren.map_label.symm.trans hchildren'.map_label
      rw [hdistinct.pick_eq hg hrule hpick hrule' hpick', hchildren.unique hg hdistinct hchildren']

theorem CodesTokens.unique (hg : g.WellFormed) (hdistinct : g.ListsNoneTwice)
    {tokens : List String} {picks : List Int} {ts : List Tree} :
    g.CodesTokens tokens picks ts → ∀ {picks'}, g.CodesTokens tokens picks' ts → picks = picks'
  | .nil => by
    intro h'
    cases h' with
    | nil => rfl
  | .terminal hterminal hrest => by
    intro h'
    cases h' with
    | terminal _ hrest' => exact hrest.unique hg hdistinct hrest'
    | nonterminal hchild' _ => cases hterminal.symm.trans hchild'.defines
  | .nonterminal hchild hrest => by
    intro h'
    cases h' with
    | terminal hterminal' _ => cases hterminal'.symm.trans hchild.defines
    | nonterminal hchild' hrest' =>
      rw [hchild.unique hg hdistinct hchild', hrest.unique hg hdistinct hrest']
end

/-! ### Derivations and their scripts -/

/-- A derivation from the symbol takes the picks `used` from the start of a script, leaves the rest
of it and gives the tree. -/
def Consumes (g : Grammar) (symbol : String) (used : List Int) (t : Tree) : Prop :=
  ∃ depth rest,
    g.derive Source.chooser depth symbol (.script (used ++ rest)) = .ok t (.script rest)

theorem Consumes.codes {symbol : String} {used : List Int} {t : Tree}
    (h : g.Consumes symbol used t) : g.Codes symbol used t := by
  obtain ⟨depth, rest, hderive⟩ := h
  obtain ⟨used', rest', hpicks, hleft, hcodes⟩ := exists_codes_of_derive hderive
  obtain rfl := Source.script.inj hleft
  rwa [List.append_cancel_right hpicks]

/-- **Scripts are a code for derivation trees.** For every grammar that was read and every symbol:

* a derivation with a script that gives a tree has taken some picks from the start of the script and
  left the rest of it;
* if no rule lists an alternative twice, all derivations that give the same tree have taken the same
  picks, at whatever depth and from whatever scripts;
* in any case no derivation has taken a proper prefix of the picks that another one has taken. If
  one has taken a prefix, then both have taken the same and give the same tree. -/
theorem scripts_form_code {lines : List String} (h : ofLines lines = .ok g) (symbol : String) :
    (∀ depth picks t s, g.derive Source.chooser depth symbol (.script picks) = .ok t s →
        ∃ used rest, picks = used ++ rest ∧ s = .script rest ∧ g.Consumes symbol used t) ∧
      (g.ListsNoneTwice → ∀ used used' t, g.Consumes symbol used t → g.Consumes symbol used' t →
        used = used') ∧
      ∀ used used' t t', g.Consumes symbol used t → g.Consumes symbol used' t' → used <+: used' →
        used = used' ∧ t = t' := by
  refine ⟨fun depth picks t s hderive => ?_, fun hdistinct used used' t ht ht' => ?_,
    fun used used' t t' ht ht' hprefix => ?_⟩
  · obtain ⟨used, rest, rfl, rfl, -⟩ := exists_codes_of_derive hderive
    exact ⟨used, rest, rfl, rfl, depth, rest, hderive⟩
  · exact ht.codes.unique (wellFormed_of_ofLines h) hdistinct ht'.codes
  · obtain ⟨more, rfl⟩ := hprefix
    exact ht.codes.eq_of_append ht'.codes (List.append_nil _).symm

/-- A recursive symbol with an empty alternative, whose tree tells where each of its picks went. -/
theorem scripts_form_code_recursive :
    ∃ g : Grammar, ofLines ["s::=n s|n|", "n::=a|b n"] = .ok g ∧ g.ListsNoneTwice ∧
      ∃ t, g.derive Source.chooser 3 "s" (.script [0, 1, 0, 2, 7]) = .ok t (.script [7]) ∧
        (∀ used, g.Consumes "s" used t → used = [0, 1, 0, 2]) ∧
        ∀ used t', g.Consumes "s" used t' → [0, 1, 0, 2] <+: used →
          [0, 1, 0, 2] = used ∧ t = t' := by
  have hg : ofLines ["s::=n s|n|", "n::=a|b n"] =
      .ok ⟨[⟨"s", [["n", "s"], ["n"], []]⟩, ⟨"n", [["a"], ["b", "n"]]⟩]⟩ := by decide +kernel
  obtain ⟨-, htree, hprefix⟩ := scripts_form_code hg "s"
  have hdistinct : ListsNoneTwice
      ⟨[⟨"s", [["n", "s"], ["n"], []]⟩, ⟨"n", [["a"], ["b", "n"]]⟩]⟩ := by
    simp [ListsNoneTwice]
  obtain ⟨t, hderive⟩ : ∃ t, derive
      ⟨[⟨"s", [["n", "s"], ["n"], []]⟩, ⟨"n", [["a"], ["b", "n"]]⟩]⟩ Source.chooser 3 "s"
      (.script [0, 1, 0, 2, 7]) = .ok t (.script [7]) := ⟨_, rfl⟩
  have ht : Consumes ⟨[⟨"s", [["n", "s"], ["n"], []]⟩, ⟨"n", [["a"], ["b", "n"]]⟩]⟩ "s"
      [0, 1, 0, 2] t := ⟨3, [7], hderive⟩
  exact ⟨_, hg, hdistinct, t, hderive, fun used hused => htree hdistinct _ _ t hused ht,
    fun used t' hused => hprefix _ _ t t' ht hused⟩

/-- Where an alternative is listed twice, two picks lead to one tree. -/
example : derive ⟨[⟨"s", [["a"], ["a"]]⟩]⟩ Source.chooser 1 "s" (.script [0]) =
    derive ⟨[⟨"s", [["a"], ["a"]]⟩]⟩ Source.chooser 1 "s" (.script [1]) :=
  rfl

end SentenceGen.Grammar
