import SentenceGen.Text.Cut

/-!
# Pieces, words and trimmed texts

Cutting is the library's `List.splitOnP`, so its laws hold here: a cut at a separator falls into two
cuts, and a text without separators is its own only piece. On top of that stand the two forms in
which the parts of a text come out of reading it:

* a **word** is not empty and holds no blank (`IsWord`). Words that are joined by spaces are read
  back as the same words, by `words_intercalate`;
* a **trimmed** text neither starts nor ends with a blank (`IsTrimmed`). Trimming leaves exactly
  these texts as they are, by `trim_eq_self_iff`. Where none of several trimmed texts is empty
  (`IsPhrase`), as with words, their join is trimmed too (`isTrimmed_intercalate`).
-/

namespace SentenceGen.Text

variable {p : Char → Bool} {s t w : List Char}

/-! ### Cuts -/

theorem cut_eq_splitOnP (p : Char → Bool) (s : List Char) : cut p s = s.splitOnP p := by
  induction s with
  | nil => rfl
  | cons c cs ih =>
    have hne : cs.splitOnP p ≠ [] := List.splitOnP_ne_nil p cs
    rw [cut, List.splitOnP_cons_eq_if_modifyHead, ih]
    split
    · rfl
    · cases h : cs.splitOnP p with
      | nil => exact absurd h hne
      | cons w ws => rfl

theorem cut_append_cons {c : Char} (hc : p c = true) (s t : List Char) :
    cut p (s ++ c :: t) = cut p s ++ cut p t := by
  simp only [cut_eq_splitOnP]
  exact List.splitOnP_append_cons s t hc

theorem cut_eq_singleton (h : ∀ c ∈ s, p c = false) : cut p s = [s] := by
  rw [cut_eq_splitOnP]
  exact List.splitOnP_eq_singleton h

/-- Pieces that hold no separator are cut out of their join again. -/
theorem cut_intercalate {c : Char} {pieces : List (List Char)} (hne : pieces ≠ [])
    (h : ∀ w ∈ pieces, c ∉ w) : cut (· == c) ([c].intercalate pieces) = pieces := by
  rw [cut_eq_splitOnP, ← List.splitOn_eq_splitOnP]
  exact List.splitOn_intercalate c h hne

/-- A join holds what the separator or one of the pieces holds. -/
theorem mem_of_mem_intercalate {sep : List Char} {pieces : List (List Char)} {c : Char}
    (h : c ∈ sep.intercalate pieces) : c ∈ sep ∨ ∃ piece ∈ pieces, c ∈ piece := by
  induction pieces with
  | nil => simp at h
  | cons v vs ih =>
    by_cases hne : vs = []
    · rw [hne, List.intercalate_singleton] at h
      exact Or.inr ⟨v, List.mem_cons_self, h⟩
    · rw [List.intercalate_cons_of_ne_nil hne, List.mem_append, List.mem_append] at h
      rcases h with (hv | hsep) | hrest
      · exact Or.inr ⟨v, List.mem_cons_self, hv⟩
      · exact Or.inl hsep
      · refine (ih hrest).imp_right ?_
        rintro ⟨piece, hmem, hpiece⟩
        exact ⟨piece, List.mem_cons_of_mem _ hmem, hpiece⟩

/-- The first piece of a cut stands at the start of the text. -/
private theorem prefix_of_cut_eq_cons {ws : List (List Char)} (h : cut p s = w :: ws) :
    w <+: s := by
  induction s generalizing w ws with
  | nil =>
    obtain rfl := (List.cons.inj h).1
    exact List.prefix_rfl
  | cons c cs ih =>
    rw [cut] at h
    split at h
    · obtain rfl := (List.cons.inj h).1
      exact List.nil_prefix
    · obtain ⟨v, vs, hv⟩ := List.exists_cons_of_ne_nil (cut_ne_nil p cs)
      rw [hv] at h
      rw [← (List.cons.inj h).1]
      exact List.prefix_cons_inj c |>.mpr (ih hv)

theorem infix_of_mem_cut (h : w ∈ cut p s) : w <:+: s := by
  -- the first piece of `c :: cs` is that of `cs` with `c` in front, and starts the text
  induction s with
  | nil =>
    rw [cut_nil, List.mem_singleton] at h
    exact h ▸ List.infix_rfl
  | cons c cs ih =>
    obtain ⟨v, vs, hv⟩ := List.exists_cons_of_ne_nil (cut_ne_nil p cs)
    rw [cut] at h
    split at h
    · rcases List.mem_cons.mp h with rfl | hmem
      · exact List.nil_infix
      · exact List.infix_cons (ih hmem)
    · rw [hv] at h
      rcases List.mem_cons.mp h with rfl | hmem
      · exact ((List.prefix_cons_inj c).mpr (prefix_of_cut_eq_cons hv)).isInfix
      · exact List.infix_cons (ih (hv ▸ List.mem_cons_of_mem v hmem))

theorem not_of_mem_cut (h : w ∈ cut p s) {c : Char} (hc : c ∈ w) : p c = false := by
  induction s generalizing w c with
  | nil =>
    rw [cut_nil, List.mem_singleton] at h
    simp [h] at hc
  | cons d cs ih =>
    obtain ⟨v, vs, hv⟩ := List.exists_cons_of_ne_nil (cut_ne_nil p cs)
    rw [cut] at h
    split at h
    · rcases List.mem_cons.mp h with rfl | hmem
      · simp at hc
      · exact ih hmem hc
    · rename_i hd
      rw [hv] at h ih
      rcases List.mem_cons.mp h with rfl | hmem
      · rcases List.mem_cons.mp hc with rfl | hcv
        · exact Bool.eq_false_iff.mpr hd
        · exact ih List.mem_cons_self hcv
      · exact ih (List.mem_cons_of_mem v hmem) hc

/-- Where all that is written takes some place, there is no more of it than there is place. -/
theorem length_le_flatMap {α β : Type} {f : α → List β} (h : ∀ a, f a ≠ []) (as : List α) :
    as.length ≤ (as.flatMap f).length := by
  induction as with
  | nil => exact Nat.le_refl 0
  | cons a as ih =>
    have hpos := List.length_pos_iff.mpr (h a)
    rw [List.flatMap_cons, List.length_append, List.length_cons]
    omega

/-- Behind the first piece of a join, every piece has the separator in front of it. -/
theorem intercalate_cons_eq_append_flatMap (sep w : List Char) (ws : List (List Char)) :
    sep.intercalate (w :: ws) = w ++ ws.flatMap (sep ++ ·) := by
  induction ws generalizing w with
  | nil => rw [List.intercalate_singleton, List.flatMap_nil, List.append_nil]
  | cons v vs ih =>
    rw [List.intercalate_cons_cons, ih, List.flatMap_cons, List.append_assoc, List.append_assoc]

/-! ### Words -/

/-- A text that is not empty and holds no blank. -/
structure IsWord (w : List Char) : Prop where
  ne_nil : w ≠ []
  solid : ∀ c ∈ w, isBlank c = false

theorem isWord_of_mem_words (h : w ∈ words s) : IsWord w := by
  refine ⟨ne_nil_of_mem_words h, fun c hc => ?_⟩
  exact not_of_mem_cut (List.mem_filter.mp h).1 hc

theorem infix_of_mem_words (h : w ∈ words s) : w <:+: s :=
  infix_of_mem_cut (List.mem_filter.mp h).1

theorem words_append_cons {c : Char} (hc : isBlank c = true) (s t : List Char) :
    words (s ++ c :: t) = words s ++ words t := by
  rw [words, cut_append_cons hc, List.filter_append]
  rfl

theorem IsWord.words_eq (h : IsWord w) : words w = [w] := by
  rw [words, cut_eq_singleton h.solid]
  simp [h.ne_nil]

/-- **Words that are joined by spaces are read back**, however many there are. -/
theorem words_intercalate {ws : List (List Char)} (h : ∀ w ∈ ws, IsWord w) :
    words ([' '].intercalate ws) = ws := by
  induction ws with
  | nil => rfl
  | cons w ws ih =>
    have hw : words w = [w] := (h w List.mem_cons_self).words_eq
    have hrest := ih fun v hv => h v (List.mem_cons_of_mem _ hv)
    cases ws with
    | nil => rw [List.intercalate_singleton, hw]
    | cons v vs =>
      rw [List.intercalate_cons_cons, List.append_assoc, List.singleton_append,
        words_append_cons (by decide), hw, hrest, List.singleton_append]

/-! ### The ends of a text -/

/-- The first character, if there is one, is not blank. -/
def StartsSolid (s : List Char) : Prop :=
  ∀ c ∈ s.head?, isBlank c = false

/-- The last character, if there is one, is not blank. -/
def EndsSolid (s : List Char) : Prop :=
  ∀ c ∈ s.getLast?, isBlank c = false

theorem startsSolid_reverse : StartsSolid s.reverse ↔ EndsSolid s := by
  rw [StartsSolid, EndsSolid, List.head?_reverse]

theorem StartsSolid.append_left (h : StartsSolid s) (hne : s ≠ []) (t : List Char) :
    StartsSolid (s ++ t) := by
  obtain ⟨d, ds, rfl⟩ := List.exists_cons_of_ne_nil hne
  exact fun c hc => h c hc

theorem StartsSolid.of_isPrefix (h : StartsSolid t) (hp : s <+: t) : StartsSolid s := by
  obtain ⟨r, rfl⟩ := hp
  cases s with
  | nil => simp [StartsSolid]
  | cons d ds => exact fun c hc => h c hc

theorem EndsSolid.append_right (h : EndsSolid t) (hne : t ≠ []) (s : List Char) :
    EndsSolid (s ++ t) := by
  rw [← startsSolid_reverse, List.reverse_append]
  exact (startsSolid_reverse.mpr h).append_left (List.reverse_ne_nil_iff.mpr hne) _

theorem EndsSolid.append (hs : EndsSolid s) (ht : EndsSolid t) : EndsSolid (s ++ t) := by
  by_cases hne : t = []
  · rwa [hne, List.append_nil]
  · exact ht.append_right hne s

theorem IsWord.startsSolid (h : IsWord w) : StartsSolid w :=
  fun c hc => h.solid c (List.mem_of_head? hc)

theorem IsWord.endsSolid (h : IsWord w) : EndsSolid w :=
  fun c hc => h.solid c (List.mem_of_getLast? hc)

/-- A text that neither starts nor ends with a blank. -/
structure IsTrimmed (s : List Char) : Prop where
  starts : StartsSolid s
  ends : EndsSolid s

/-- A text that is not empty and neither starts nor ends with a blank. -/
structure IsPhrase (s : List Char) : Prop where
  ne_nil : s ≠ []
  isTrimmed : IsTrimmed s

theorem IsWord.isPhrase (h : IsWord w) : IsPhrase w :=
  ⟨h.ne_nil, h.startsSolid, h.endsSolid⟩

theorem intercalate_ne_nil {sep : List Char} {ws : List (List Char)} (hne : ws ≠ [])
    (h : ∀ w ∈ ws, w ≠ []) : sep.intercalate ws ≠ [] := by
  obtain ⟨v, vs, rfl⟩ := List.exists_cons_of_ne_nil hne
  have hv : v ≠ [] := h v List.mem_cons_self
  cases vs with
  | nil => rwa [List.intercalate_singleton]
  | cons u us => simp [List.intercalate_cons_cons, hv]

private theorem startsSolid_intercalate {sep : List Char} {ws : List (List Char)}
    (h : ∀ w ∈ ws, IsPhrase w) : StartsSolid (sep.intercalate ws) := by
  cases ws with
  | nil => simp [StartsSolid]
  | cons v vs =>
    have hv := h v List.mem_cons_self
    cases vs with
    | nil => rw [List.intercalate_singleton]; exact hv.isTrimmed.starts
    | cons u us =>
      rw [List.intercalate_cons_cons, List.append_assoc]
      exact hv.isTrimmed.starts.append_left hv.ne_nil _

private theorem endsSolid_intercalate {sep : List Char} {ws : List (List Char)}
    (h : ∀ w ∈ ws, IsPhrase w) : EndsSolid (sep.intercalate ws) := by
  induction ws with
  | nil => simp [EndsSolid]
  | cons v vs ih =>
    have hv := h v List.mem_cons_self
    have hvs : ∀ w ∈ vs, IsPhrase w := fun w hw => h w (List.mem_cons_of_mem _ hw)
    by_cases hne : vs = []
    · rw [hne, List.intercalate_singleton]
      exact hv.isTrimmed.ends
    · rw [List.intercalate_cons_of_ne_nil hne]
      exact (ih hvs).append_right (intercalate_ne_nil hne fun w hw => (hvs w hw).ne_nil) _

/-- Phrases make a trimmed text, whatever stands between them. -/
theorem isTrimmed_intercalate {sep : List Char} {ws : List (List Char)}
    (h : ∀ w ∈ ws, IsPhrase w) : IsTrimmed (sep.intercalate ws) :=
  ⟨startsSolid_intercalate h, endsSolid_intercalate h⟩

/-- A separator that is not blank may also stand at the end, behind empty pieces. -/
theorem endsSolid_intercalate_of_solid {sep : Char} (hsep : isBlank sep = false)
    {pieces : List (List Char)} (h : ∀ w ∈ pieces, EndsSolid w) :
    EndsSolid ([sep].intercalate pieces) := by
  induction pieces with
  | nil => simp [EndsSolid]
  | cons v vs ih =>
    have hv := h v List.mem_cons_self
    by_cases hne : vs = []
    · rw [hne, List.intercalate_singleton]
      exact hv
    · -- the pieces behind the separator may all be empty
      have hsolid : EndsSolid [sep] := by simpa [EndsSolid] using hsep
      rw [List.intercalate_cons_of_ne_nil hne]
      exact (hv.append hsolid).append (ih fun w hw => h w (List.mem_cons_of_mem _ hw))

/-! ### Trimming -/

theorem trimStart_eq_self (h : StartsSolid s) : trimStart s = s := by
  cases s with
  | nil => rfl
  | cons c cs => simp [trimStart, h c rfl]

theorem startsSolid_trimStart (s : List Char) : StartsSolid (trimStart s) := by
  intro c hc
  have hhead := List.head?_dropWhile_not isBlank s
  rw [← trimStart, Option.mem_def.mp hc] at hhead
  exact hhead

/-- Trimming at the end is trimming at the start of the reversed text. -/
private theorem trimEnd_eq_reverse (s : List Char) : trimEnd s = (trimStart s.reverse).reverse :=
  rfl

theorem trimEnd_eq_self (h : EndsSolid s) : trimEnd s = s := by
  rw [trimEnd_eq_reverse, trimStart_eq_self (startsSolid_reverse.mpr h), List.reverse_reverse]

theorem endsSolid_trimEnd (s : List Char) : EndsSolid (trimEnd s) := by
  rw [trimEnd_eq_reverse, ← startsSolid_reverse, List.reverse_reverse]
  exact startsSolid_trimStart _

theorem trimEnd_isPrefix (s : List Char) : trimEnd s <+: s := by
  rw [trimEnd_eq_reverse, ← List.reverse_suffix, List.reverse_reverse]
  exact List.dropWhile_suffix isBlank

theorem trim_isInfix (s : List Char) : trim s <:+: s :=
  (trimEnd_isPrefix _).isInfix.trans (List.dropWhile_suffix isBlank).isInfix

theorem isTrimmed_trim (s : List Char) : IsTrimmed (trim s) :=
  ⟨(startsSolid_trimStart s).of_isPrefix (trimEnd_isPrefix _), endsSolid_trimEnd _⟩

/-- **The texts that trimming leaves alone** are those that neither start nor end with a blank. -/
theorem trim_eq_self_iff : trim s = s ↔ IsTrimmed s := by
  constructor
  · intro h
    rw [← h]
    exact isTrimmed_trim s
  · intro h
    rw [trim, trimStart_eq_self h.starts, trimEnd_eq_self h.ends]

theorem trimString_eq_self_iff {text : String} :
    trimString text = text ↔ IsTrimmed text.toList := by
  rw [← trim_eq_self_iff, trimString]
  constructor
  · intro h
    rw [← String.toList_ofList (l := trim text.toList), h]
  · intro h
    rw [h, String.ofList_toList]

/-- What starts with a character that is not blank keeps it. -/
theorem trim_ne_nil (h : StartsSolid s) (hne : s ≠ []) : trim s ≠ [] := by
  obtain ⟨d, ds, rfl⟩ := List.exists_cons_of_ne_nil hne
  have hd : isBlank d = false := h d rfl
  rw [trim, trimStart_eq_self h, trimEnd_eq_reverse]
  intro hnil
  have hall := takeWhile_append_trimStart (d :: ds).reverse
  rw [List.reverse_eq_nil_iff.mp hnil, List.append_nil] at hall
  have hblank : d ∈ (d :: ds).reverse.takeWhile isBlank := by
    rw [hall]
    simp
  rw [List.all_eq_true.mp List.all_takeWhile d hblank] at hd
  cases hd

end SentenceGen.Text
