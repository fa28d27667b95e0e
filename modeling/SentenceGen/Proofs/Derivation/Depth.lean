import SentenceGen.Choice.Source
import SentenceGen.Proofs.Derivation.Trees

/-!
# Depth and honest choosers

A derivation fails because the chooser does, or answers with a number that no alternative has, or
because expansions are nested too deep. These causes are kept apart here:

* **depth** decides only whether a derivation is broken off. One that is not has the same outcome at
  any greater depth (`expand_of_le`). A tree is never higher than the depth at which it was derived
  (`height_le_of_expand`), and it is derived at every depth from its height on
  (`expand_of_height_le`), so that for calls one after the other the heights of the trees tell which
  depths are enough (`mapM_derive_iff`);
* **honest choosers** answer with numbers of alternatives. Asked by a grammar that was read, in
  which every symbol has an alternative, they leave no other failure than being broken off
  (`unrefused_expand`), and the same goes for calls one after the other (`unrefused_mapM`).

Some choosers are honest only from some of their states on, as `Source.chooser` is where the source
is a generator (`honestOn_twister`).
-/

namespace SentenceGen

/-! ### Honest choosers -/

namespace Chooser

variable {σ ε : Type}

/-- From the states in `I` on, every answer for `n ≥ 1` alternatives is the number of one of them,
and the state that is left is in `I` again. -/
def HonestOn (c : Chooser σ ε) (I : σ → Prop) : Prop :=
  ∀ n s, 0 < n → I s → ∃ i s', c.ask n s = .ok i s' ∧ 0 ≤ i ∧ i < (n : Int) ∧ I s'

theorem Honest.honestOn {c : Chooser σ ε} (h : c.Honest) : c.HonestOn fun _ => True := by
  intro n s hn _
  obtain ⟨i, s', hask, hnonneg, hlt⟩ := h n s hn
  exact ⟨i, s', hask, hnonneg, hlt, trivial⟩

end Chooser

/-- **The generator is honest**, and stays a generator. -/
theorem Source.honestOn_twister : Source.chooser.HonestOn fun s => ∃ t, s = .twister t := by
  rintro n _ hn ⟨t, rfl⟩
  have hask : Source.chooser.ask n (.twister t) =
      .ok ((t.below n).1 : Int) (.twister (t.below n).2) := by
    simp only [Source.chooser, Source.ask, Nat.ne_of_gt hn, if_false]
  have hlt := Twister.below_lt hn t
  exact ⟨_, _, hask, Int.natCast_nonneg _, by exact_mod_cast hlt, _, rfl⟩

/-- No draw was refused: there is a value, with a state in `I`, or the derivation was broken off. -/
inductive Outcome.Unrefused {ε σ α : Type} (I : σ → Prop) : Outcome ε σ α → Prop
  | ok (a : α) {s : σ} (hs : I s) : Unrefused I (.ok a s)
  | tooDeep (s : σ) : Unrefused I (.error .tooDeep s)

namespace Outcome

variable {ε σ α β : Type} {I : σ → Prop}

theorem Unrefused.map {r : Outcome ε σ α} (h : r.Unrefused I) (f : α → β) :
    (Outcome.map f r).Unrefused I := by
  cases h with
  | ok a hs => exact .ok (f a) hs
  | tooDeep s => exact .tooDeep s

/-- If it was not broken off either, there is a value. -/
theorem Unrefused.exists_ok {r : Outcome ε σ α} (h : r.Unrefused I) (hdepth : r.WithinDepth) :
    ∃ a s, r = .ok a s ∧ I s := by
  cases h with
  | ok a hs => exact ⟨a, _, rfl, hs⟩
  | tooDeep s => exact absurd rfl (hdepth s)

end Outcome

namespace Grammar

variable {σ ε : Type} {g : Grammar} {c : Chooser σ ε} {I : σ → Prop} {symbol : String} {s : σ}

/-- An honest chooser gives an alternative of every symbol of a grammar that was read. -/
theorem exists_draw_of_honestOn (hg : g.WellFormed) (hc : c.HonestOn I)
    (hsymbol : g.defines symbol = true) (hs : I s) :
    ∃ tokens s', g.draw c symbol s = .ok tokens s' ∧ I s' := by
  rw [defines_eq_isSome, Option.isSome_iff_exists] at hsymbol
  obtain ⟨alternatives, hrule⟩ := hsymbol
  have hne : alternatives ≠ [] :=
    (hg.rule _ (hg.alternatives?_eq_some_iff.mp hrule)).alternatives_ne_nil
  obtain ⟨i, s', hask, hnonneg, hlt, hs'⟩ := hc _ s (List.length_pos_iff.mpr hne) hs
  have hselect : select? alternatives i ≠ none := fun hnone =>
    select?_eq_none_iff.mp hnone ⟨hnonneg, hlt⟩
  obtain ⟨tokens, htokens⟩ := Option.ne_none_iff_exists'.mp hselect
  refine ⟨tokens, s', ?_, hs'⟩
  rw [draw_of_ask_ok hrule hask, htokens]

/-- The state that a draw from an honest chooser leaves. -/
private theorem of_draw_of_honestOn (hg : g.WellFormed) (hc : c.HonestOn I)
    (hsymbol : g.defines symbol = true) (hs : I s) {tokens : Alternative} {s' : σ}
    (hdraw : g.draw c symbol s = .ok tokens s') : I s' := by
  obtain ⟨tokens', s'', hdraw', hs''⟩ := exists_draw_of_honestOn hg hc hsymbol hs
  obtain ⟨-, rfl⟩ := EStateM.Result.ok.inj (hdraw.symm.trans hdraw')
  exact hs''

/-- **An honest chooser is never the cause of a failure.** -/
theorem unrefused_expand (hg : g.WellFormed) (hc : c.HonestOn I) (depth : Nat)
    (hsymbol : g.defines symbol = true) (hs : I s) :
    Outcome.Unrefused I (g.expand c depth symbol s) := by
  refine (expand_induction g c
    (P := fun _ symbol s r => g.defines symbol = true → I s → r.Unrefused I)
    (Q := fun _ _ s r => I s → r.Unrefused I)
    ?tooDeep ?refused ?empty ?expansion ?nil ?terminal ?failed ?nonterminal).1 depth symbol s
      hsymbol hs
  case tooDeep =>
    intro symbol s _ _
    exact .tooDeep s
  case refused =>
    intro depth symbol s e s' hdraw hsymbol hs
    obtain ⟨tokens, s'', hdraw', -⟩ := exists_draw_of_honestOn hg hc hsymbol hs
    rw [hdraw] at hdraw'
    cases hdraw'
  case empty =>
    intro depth symbol s s' hdraw hsymbol hs
    exact .ok _ (of_draw_of_honestOn hg hc hsymbol hs hdraw)
  case expansion =>
    intro depth symbol s token tokens s' hdraw hQ hsymbol hs
    exact (hQ (of_draw_of_honestOn hg hc hsymbol hs hdraw)).map _
  case nil =>
    intro depth s hs
    exact .ok _ hs
  case terminal =>
    intro depth token tokens s _ hQ hs
    exact (hQ hs).map _
  case failed =>
    intro depth token tokens s e s' hdefined hP hs
    cases hP hdefined hs with
    | tooDeep => exact .tooDeep s'
  case nonterminal =>
    intro depth token tokens s child s' hdefined hP hQ hs
    cases hP hdefined hs with
    | ok child hs' => exact (hQ hs').map _

/-! ### Calls one after the other -/

section Calls

variable {α : Type} {f : String → EStateM (DerivationError ε) σ α} {s' : σ}
  {symbols more : List String}

theorem mapM_cons_of_ok {a : α} (h : f symbol s = .ok a s') :
    (symbol :: symbols).mapM f s = Outcome.map (a :: ·) (symbols.mapM f s') := by
  rw [List.mapM_cons]
  simp only [bind, EStateM.bind, h]
  cases symbols.mapM f s' <;> rfl

theorem mapM_cons_of_error {e : DerivationError ε} (h : f symbol s = .error e s') :
    (symbol :: symbols).mapM f s = .error e s' := by
  rw [List.mapM_cons]
  simp only [bind, EStateM.bind, h]

/-- There is a value for each call. -/
theorem length_of_mapM_ok {as : List α} (h : symbols.mapM f s = .ok as s') :
    as.length = symbols.length := by
  induction symbols generalizing s as with
  | nil =>
    obtain ⟨rfl, -⟩ := EStateM.Result.ok.inj h
    rfl
  | cons symbol symbols ih =>
    cases hcall : f symbol s with
    | error e s₁ =>
      rw [mapM_cons_of_error hcall] at h
      cases h
    | ok a s₁ =>
      rw [mapM_cons_of_ok hcall] at h
      obtain ⟨rest, hrest, rfl⟩ := Outcome.map_eq_ok_iff.mp h
      exact congrArg (· + 1) (ih hrest)

/-- Each value comes from a call. -/
theorem exists_call_of_mem_mapM {as : List α} (h : symbols.mapM f s = .ok as s') {a : α}
    (ha : a ∈ as) : ∃ symbol ∈ symbols, ∃ s₁ s₂ : σ, f symbol s₁ = .ok a s₂ := by
  induction symbols generalizing s as with
  | nil =>
    obtain ⟨rfl, -⟩ := EStateM.Result.ok.inj h
    cases ha
  | cons symbol symbols ih =>
    cases hcall : f symbol s with
    | error e s₁ =>
      rw [mapM_cons_of_error hcall] at h
      cases h
    | ok first s₁ =>
      rw [mapM_cons_of_ok hcall] at h
      obtain ⟨rest, hrest, rfl⟩ := Outcome.map_eq_ok_iff.mp h
      rcases List.mem_cons.mp ha with rfl | hlater
      · exact ⟨symbol, List.mem_cons_self, s, s₁, hcall⟩
      · obtain ⟨later, hmem, hlater⟩ := ih hrest hlater
        exact ⟨later, List.mem_cons_of_mem _ hmem, hlater⟩

/-- **Sentences one after the other are those of the trees** that the same calls derive. -/
theorem mapM_generate (g : Grammar) (c : Chooser σ ε) (depth : Nat) (symbols : List String)
    (s : σ) : symbols.mapM (g.generate c depth) s =
      Outcome.map (List.map Tree.sentence) (symbols.mapM (g.derive c depth) s) := by
  induction symbols generalizing s with
  | nil => rfl
  | cons symbol symbols ih =>
    have hfirst := generate_eq_map g c depth symbol s
    cases hcall : g.derive c depth symbol s with
    | ok t s' =>
      rw [hcall, Outcome.map_ok] at hfirst
      rw [mapM_cons_of_ok hcall, mapM_cons_of_ok hfirst, ih]
      cases symbols.mapM (g.derive c depth) s' <;> rfl
    | error e s' =>
      rw [hcall, Outcome.map_error] at hfirst
      rw [mapM_cons_of_error hcall, mapM_cons_of_error hfirst, Outcome.map_error]

/-- **Where no call is refused, calls one after the other are not.** -/
theorem unrefused_mapM (hf : ∀ symbol ∈ symbols, ∀ s, I s → Outcome.Unrefused I (f symbol s))
    (hs : I s) : Outcome.Unrefused I (symbols.mapM f s) := by
  induction symbols generalizing s with
  | nil => exact .ok [] hs
  | cons symbol symbols ih =>
    obtain ⟨hsymbol, hsymbols⟩ := List.forall_mem_cons.mp hf
    have hfirst := hsymbol s hs
    cases hcall : f symbol s with
    | ok a s' =>
      rw [hcall] at hfirst
      rw [mapM_cons_of_ok hcall]
      cases hfirst with
      | ok _ hs' => exact (ih hsymbols hs').map _
    | error e s' =>
      rw [hcall] at hfirst
      rw [mapM_cons_of_error hcall]
      cases hfirst with
      | tooDeep => exact .tooDeep s'

end Calls

/-- Calls for one symbol are calls for symbols that are defined. -/
theorem defines_of_mem_replicate (hsymbol : g.defines symbol = true) (n : Nat) :
    ∀ x ∈ List.replicate n symbol, g.defines x = true := by
  intro x hx
  rw [List.eq_of_mem_replicate hx]
  exact hsymbol

/-- An honest chooser is refused neither a tree nor a sentence from a symbol that is defined. -/
theorem unrefused_derive (hg : g.WellFormed) (hc : c.HonestOn I) (depth : Nat)
    (hsymbol : g.defines symbol = true) (hs : I s) :
    Outcome.Unrefused I (g.derive c depth symbol s) := by
  rw [derive_of_defines g c depth hsymbol]
  exact unrefused_expand hg hc depth hsymbol hs

theorem unrefused_generate (hg : g.WellFormed) (hc : c.HonestOn I) (depth : Nat)
    (hsymbol : g.defines symbol = true) (hs : I s) :
    Outcome.Unrefused I (g.generate c depth symbol s) := by
  rw [generate_eq_map]
  exact (unrefused_derive hg hc depth hsymbol hs).map _

theorem unrefused_mapM_derive (hg : g.WellFormed) (hc : c.HonestOn I) (depth : Nat)
    {symbols : List String} (hsymbols : ∀ symbol ∈ symbols, g.defines symbol = true) (hs : I s) :
    Outcome.Unrefused I (symbols.mapM (g.derive c depth) s) :=
  unrefused_mapM (fun symbol hmem _ => unrefused_derive hg hc depth (hsymbols symbol hmem)) hs

theorem unrefused_mapM_generate (hg : g.WellFormed) (hc : c.HonestOn I) (depth : Nat)
    {symbols : List String} (hsymbols : ∀ symbol ∈ symbols, g.defines symbol = true) (hs : I s) :
    Outcome.Unrefused I (symbols.mapM (g.generate c depth) s) :=
  unrefused_mapM (fun symbol hmem _ => unrefused_generate hg hc depth (hsymbols symbol hmem)) hs

/-! ### Depth -/

/-- **More depth changes nothing** about a derivation that is not broken off. -/
theorem expand_of_le {depth depth' : Nat} (hle : depth ≤ depth')
    (h : Outcome.WithinDepth (g.expand c depth symbol s)) :
    g.expand c depth' symbol s = g.expand c depth symbol s := by
  refine (expand_induction g c
    (P := fun depth symbol s r => r.WithinDepth → ∀ depth', depth ≤ depth' →
      g.expand c depth' symbol s = r)
    (Q := fun depth tokens s r => r.WithinDepth → ∀ depth', depth ≤ depth' →
      g.expandTokens c depth' tokens s = r)
    ?tooDeep ?refused ?empty ?expansion ?nil ?terminal ?failed ?nonterminal).1 depth symbol s
      h depth' hle
  case tooDeep =>
    intro symbol s hwithin
    exact absurd rfl (hwithin s)
  case refused =>
    intro depth symbol s e s' hdraw _ depth' hle
    obtain ⟨depth', rfl⟩ := Nat.exists_eq_add_of_lt hle
    exact expand_succ_of_error g c _ hdraw
  case empty =>
    intro depth symbol s s' hdraw _ depth' hle
    obtain ⟨depth', rfl⟩ := Nat.exists_eq_add_of_lt hle
    exact expand_succ_of_nil g c _ hdraw
  case expansion =>
    intro depth symbol s token tokens s' hdraw hQ hwithin depth' hle
    obtain ⟨more, rfl⟩ := Nat.exists_eq_add_of_lt hle
    rw [expand_succ_of_cons g c _ hdraw, hQ (Outcome.withinDepth_map.mp hwithin) _ (by omega)]
  case nil =>
    intro depth s _ depth' _
    exact expandTokens_nil g c depth' s
  case terminal =>
    intro depth token tokens s hterminal hQ hwithin depth' hle
    rw [expandTokens_of_terminal g c depth' hterminal,
      hQ (Outcome.withinDepth_map.mp hwithin) depth' hle]
  case failed =>
    intro depth token tokens s e s' hdefined hP hwithin depth' hle
    have hchild : Outcome.WithinDepth (.error e s' : Outcome ε σ Tree) := by
      simpa [Outcome.WithinDepth] using hwithin
    exact expandTokens_of_error g c depth' hdefined (hP hchild depth' hle) tokens
  case nonterminal =>
    intro depth token tokens s child s' hdefined hP hQ hwithin depth' hle
    have hchild : Outcome.WithinDepth (.ok child s' : Outcome ε σ Tree) := by
      simp [Outcome.WithinDepth]
    rw [expandTokens_of_ok g c depth' hdefined (hP hchild depth' hle),
      hQ (Outcome.withinDepth_map.mp hwithin) depth' hle]

/-- **A tree is no higher than the depth at which it was derived.** -/
theorem height_le_of_expand {depth : Nat} {s' : σ} {t : Tree}
    (h : g.expand c depth symbol s = .ok t s') : t.height ≤ depth := by
  refine (expand_induction g c
    (P := fun depth _ _ r => ∀ t s', r = .ok t s' → t.height ≤ depth)
    (Q := fun depth _ _ r => ∀ ts s', r = .ok ts s' → Tree.forestHeight ts ≤ depth)
    ?tooDeep ?refused ?empty ?expansion ?nil ?terminal ?failed ?nonterminal).1 depth symbol s t s' h
  case tooDeep =>
    intro symbol s t s' hr
    cases hr
  case refused =>
    intro depth symbol s e s' _ t s'' hr
    cases hr
  case empty =>
    intro depth symbol s s' _ t s'' hr
    obtain ⟨rfl, -⟩ := EStateM.Result.ok.inj hr
    exact Nat.succ_le_succ (Nat.zero_le depth)
  case expansion =>
    intro depth symbol s token tokens s' _ hQ t s'' hr
    obtain ⟨children, hchildren, rfl⟩ := Outcome.map_eq_ok_iff.mp hr
    rw [Tree.height_node (derivesTokens_of_expandTokens hchildren).ne_nil]
    exact Nat.succ_le_succ (hQ children s'' hchildren)
  case nil =>
    intro depth s ts s' hr
    obtain ⟨rfl, -⟩ := EStateM.Result.ok.inj hr
    exact Nat.zero_le depth
  case terminal =>
    intro depth token tokens s _ hQ ts s' hr
    obtain ⟨rest, hrest, rfl⟩ := Outcome.map_eq_ok_iff.mp hr
    exact Nat.max_le.mpr ⟨Nat.zero_le depth, hQ rest s' hrest⟩
  case failed =>
    intro depth token tokens s e s' _ _ ts s'' hr
    cases hr
  case nonterminal =>
    intro depth token tokens s child s' _ hP hQ ts s'' hr
    obtain ⟨rest, hrest, rfl⟩ := Outcome.map_eq_ok_iff.mp hr
    exact Nat.max_le.mpr ⟨hP child s' rfl, hQ rest s'' hrest⟩

/-- **A tree is derived wherever there is room for its height.** -/
theorem expand_of_height_le {depth depth' : Nat} {s' : σ} {t : Tree}
    (h : g.expand c depth symbol s = .ok t s') (hheight : t.height ≤ depth') :
    g.expand c depth' symbol s = .ok t s' := by
  refine (expand_induction g c
    (P := fun _ symbol s r => ∀ t s', r = .ok t s' → ∀ depth', t.height ≤ depth' →
      g.expand c depth' symbol s = .ok t s')
    (Q := fun _ tokens s r => ∀ ts s', r = .ok ts s' → ∀ depth', Tree.forestHeight ts ≤ depth' →
      g.expandTokens c depth' tokens s = .ok ts s')
    ?tooDeep ?refused ?empty ?expansion ?nil ?terminal ?failed ?nonterminal).1 depth symbol s
      t s' h depth' hheight
  case tooDeep =>
    intro symbol s t s' hr
    cases hr
  case refused =>
    intro depth symbol s e s' _ t s'' hr
    cases hr
  case empty =>
    intro depth symbol s s' hdraw t s'' hr depth' hle
    obtain ⟨rfl, rfl⟩ := EStateM.Result.ok.inj hr
    obtain ⟨more, rfl⟩ := Nat.exists_eq_add_of_lt (show 0 < depth' from hle)
    exact expand_succ_of_nil g c _ hdraw
  case expansion =>
    intro depth symbol s token tokens s' hdraw hQ t s'' hr depth' hle
    obtain ⟨children, hchildren, rfl⟩ := Outcome.map_eq_ok_iff.mp hr
    rw [Tree.height_node (derivesTokens_of_expandTokens hchildren).ne_nil] at hle
    obtain ⟨more, rfl⟩ := Nat.exists_eq_add_of_lt hle
    rw [expand_succ_of_cons g c _ hdraw, hQ children s'' hchildren _ (Nat.le_add_right _ more)]
    rfl
  case nil =>
    intro depth s ts s' hr depth' _
    rw [← hr]
    exact expandTokens_nil g c depth' s
  case terminal =>
    intro depth token tokens s hterminal hQ ts s' hr depth' hle
    obtain ⟨rest, hrest, rfl⟩ := Outcome.map_eq_ok_iff.mp hr
    rw [expandTokens_of_terminal g c depth' hterminal,
      hQ rest s' hrest depth' (Nat.max_le.mp hle).2]
    rfl
  case failed =>
    intro depth token tokens s e s' _ _ ts s'' hr
    cases hr
  case nonterminal =>
    intro depth token tokens s child s' hdefined hP hQ ts s'' hr depth' hle
    obtain ⟨rest, hrest, rfl⟩ := Outcome.map_eq_ok_iff.mp hr
    obtain ⟨hchild, hothers⟩ := Nat.max_le.mp hle
    rw [expandTokens_of_ok g c depth' hdefined (hP child s' rfl depth' hchild),
      hQ rest s'' hrest depth' hothers]
    rfl

theorem derive_of_height_le {depth depth' : Nat} {s' : σ} {t : Tree}
    (h : g.derive c depth symbol s = .ok t s') (hheight : t.height ≤ depth') :
    g.derive c depth' symbol s = .ok t s' := by
  have hsymbol := defines_of_derives (derives_of_derive h)
  rw [derive_of_defines g c _ hsymbol] at h ⊢
  exact expand_of_height_le h hheight

theorem height_le_of_derive {depth : Nat} {s' : σ} {t : Tree}
    (h : g.derive c depth symbol s = .ok t s') : t.height ≤ depth := by
  rw [derive_of_defines g c _ (defines_of_derives (derives_of_derive h))] at h
  exact height_le_of_expand h

/-- **The heights of trees tell which depths are enough** for the calls that derive them, one after
the other. -/
theorem mapM_derive_iff {depth depth' : Nat} {symbols : List String} {trees : List Tree} {s' : σ}
    (h : symbols.mapM (g.derive c depth) s = .ok trees s') :
    symbols.mapM (g.derive c depth') s = .ok trees s' ↔ ∀ t ∈ trees, t.height ≤ depth' := by
  constructor
  · intro h' t ht
    obtain ⟨_, -, s₁, s₂, hcall⟩ := exists_call_of_mem_mapM h' ht
    exact height_le_of_derive hcall
  · intro hheights
    induction symbols generalizing s trees with
    | nil => exact h
    | cons symbol symbols ih =>
      cases hcall : g.derive c depth symbol s with
      | error e s₁ =>
        rw [mapM_cons_of_error hcall] at h
        cases h
      | ok t s₁ =>
        rw [mapM_cons_of_ok hcall] at h
        obtain ⟨rest, hrest, rfl⟩ := Outcome.map_eq_ok_iff.mp h
        obtain ⟨hfirst, hheights⟩ := List.forall_mem_cons.mp hheights
        rw [mapM_cons_of_ok (derive_of_height_le hcall hfirst), ih hrest hheights]
        rfl

/-- Calls derive the same trees wherever they derive any. -/
theorem mapM_derive_unique {depth depth' : Nat} {symbols : List String} {trees trees' : List Tree}
    {s₁ s₂ : σ} (h : symbols.mapM (g.derive c depth) s = .ok trees s₁)
    (h' : symbols.mapM (g.derive c depth') s = .ok trees' s₂) : trees' = trees ∧ s₂ = s₁ := by
  -- at a depth that is enough for both
  have hmax := (mapM_derive_iff h).mpr fun t ht =>
    ((mapM_derive_iff h).mp h t ht).trans (le_max_left depth depth')
  have hmax' := (mapM_derive_iff h').mpr fun t ht =>
    ((mapM_derive_iff h').mp h' t ht).trans (le_max_right depth depth')
  exact EStateM.Result.ok.inj (hmax'.symm.trans hmax)

/-- **At another depth, an honest chooser gives the same trees**, if there is room for them, and
else the calls are broken off. -/
theorem mapM_derive_cases (hg : g.WellFormed) (hc : c.HonestOn I) {depth : Nat}
    {symbols : List String} (hsymbols : ∀ symbol ∈ symbols, g.defines symbol = true) (hs : I s)
    {trees : List Tree} {s' : σ} (h : symbols.mapM (g.derive c depth) s = .ok trees s')
    (depth' : Nat) :
    (∀ t ∈ trees, t.height ≤ depth') ∧ symbols.mapM (g.derive c depth') s = .ok trees s' ∨
      (∃ t ∈ trees, depth' < t.height) ∧
        ∃ s₁, symbols.mapM (g.derive c depth') s = .error .tooDeep s₁ := by
  by_cases hroom : ∀ t ∈ trees, t.height ≤ depth'
  · exact Or.inl ⟨hroom, (mapM_derive_iff h).mpr hroom⟩
  · have hunrefused : Outcome.Unrefused I (symbols.mapM (g.derive c depth') s) :=
      unrefused_mapM_derive hg hc depth' hsymbols hs
    cases hcalls : symbols.mapM (g.derive c depth') s with
    | ok trees' s₁ =>
      obtain ⟨rfl, -⟩ := mapM_derive_unique h hcalls
      exact absurd ((mapM_derive_iff hcalls).mp hcalls) hroom
    | error e s₁ =>
      simp only [not_forall, Nat.not_le, exists_prop] at hroom
      rw [hcalls] at hunrefused
      cases hunrefused with
      | tooDeep => exact Or.inr ⟨hroom, s₁, rfl⟩

end Grammar

end SentenceGen
