import SentenceGen.Proofs.Lookup
import SentenceGen.Toml.Reader

/-!
# Keys are unique in TOML documents

A document defines no key twice, at any depth: not by a pair, not by a dotted key, not by a header
and not in a table in braces. The functions on entries keep it that way (`UniqueKeys.insert`,
`UniqueKeys.openTable`, `UniqueKeys.openElement`, `UniqueKeys.insertUnder`), as each of them looks
the key up before it adds it, and so what a text writes has unique keys (`uniqueKeys_of_parse?`).

`Loader.Unique` says so of any loader; it is what configurations rely on.
-/

namespace SentenceGen.Toml

/-! ### Values and entries with unique keys -/

/-- No table in the value holds a key twice. -/
inductive Value.UniqueKeys : Value → Prop
  | text (s : String) : UniqueKeys (.text s)
  | whole (n : Int) : UniqueKeys (.whole n)
  | real (x : Binary64) : UniqueKeys (.real x)
  | flag (b : Bool) : UniqueKeys (.flag b)
  | moment (lexeme : String) : UniqueKeys (.moment lexeme)
  | array (growing : Bool) {items : List Value} (hitems : ∀ v ∈ items, UniqueKeys v) :
      UniqueKeys (.array growing items)
  | table (origin : Origin) {entries : List (String × Value)}
      (hnodup : (entries.map Prod.fst).Nodup) (hvalues : ∀ e ∈ entries, UniqueKeys e.2) :
      UniqueKeys (.table origin entries)

/-- No key stands twice among the entries or in one of their values. -/
structure Entries.UniqueKeys (entries : Entries) : Prop where
  nodup : (entries.map Prod.fst).Nodup
  value : ∀ e ∈ entries, e.2.UniqueKeys

theorem Value.uniqueKeys_table_iff {origin : Origin} {entries : Entries} :
    Value.UniqueKeys (.table origin entries) ↔ entries.UniqueKeys := by
  constructor
  · intro h
    cases h with
    | table _ hnodup hvalues => exact ⟨hnodup, hvalues⟩
  · exact fun h => .table origin h.nodup h.value

theorem Value.uniqueKeys_array_iff {growing : Bool} {items : List Value} :
    Value.UniqueKeys (.array growing items) ↔ ∀ v ∈ items, v.UniqueKeys := by
  constructor
  · intro h
    cases h with
    | array _ hitems => exact hitems
  · exact .array growing

namespace Entries

variable {entries entries' : Entries} {key : String} {value : Value}

theorem uniqueKeys_nil : UniqueKeys [] :=
  ⟨List.nodup_nil, fun _ h => absurd h List.not_mem_nil⟩

/-- The value of a key has unique keys as well. -/
theorem UniqueKeys.of_lookup (h : entries.UniqueKeys) (hlookup : entries.lookup key = some value) :
    value.UniqueKeys :=
  h.value _ (mem_of_lookup_eq_some hlookup)

/-- A new key behind the others is no second one. -/
theorem UniqueKeys.append (h : entries.UniqueKeys) (hnew : entries.lookup key = none)
    (hvalue : value.UniqueKeys) : UniqueKeys (entries ++ [(key, value)]) := by
  constructor
  · rw [List.map_append, List.nodup_append]
    refine ⟨h.nodup, List.nodup_singleton key, ?_⟩
    rintro other hother _ (_ | _) rfl
    · exact lookup_eq_none_iff_not_mem.mp hnew hother
    · contradiction
  · intro e he
    rcases List.mem_append.mp he with hold | hnew
    · exact h.value e hold
    · rw [List.mem_singleton.mp hnew]
      exact hvalue

/-- Another value for a key leaves the keys as they are. -/
theorem UniqueKeys.replace (h : entries.UniqueKeys) (key : String) (hvalue : value.UniqueKeys) :
    (Entries.replace key value entries).UniqueKeys := by
  have hkeys : (Entries.replace key value entries).map Prod.fst = entries.map Prod.fst := by
    rw [Entries.replace, List.map_map]
    refine List.map_congr_left fun e _ => ?_
    simp only [Function.comp_apply]
    split <;> rfl
  constructor
  · rw [hkeys]
    exact h.nodup
  · intro e he
    obtain ⟨old, hold, rfl⟩ := List.mem_map.mp he
    dsimp only
    split
    · exact hvalue
    · exact h.value old hold

/-- **A change that keeps keys unique** does so inside the table of a key. -/
theorem UniqueKeys.within {change : Entries → Option Entries}
    (hchange : ∀ inner inner', UniqueKeys inner → change inner = some inner' → UniqueKeys inner')
    (h : entries.UniqueKeys) (hresult : Entries.within key entries change = some entries') :
    entries'.UniqueKeys := by
  unfold Entries.within at hresult
  split at hresult
  · cases hresult
  · rename_i origin inner _ hlookup
    obtain ⟨inner', hinner, hresult⟩ := Option.bind_eq_some_iff.mp hresult
    obtain rfl := Option.some.inj hresult
    have hold := Value.uniqueKeys_table_iff.mp (h.of_lookup hlookup)
    exact h.replace key (Value.uniqueKeys_table_iff.mpr (hchange inner inner' hold hinner))
  · rename_i items hlookup
    have hitems := Value.uniqueKeys_array_iff.mp (h.of_lookup hlookup)
    split at hresult
    · rename_i origin inner hlast
      obtain ⟨inner', hinner, hresult⟩ := Option.bind_eq_some_iff.mp hresult
      obtain rfl := Option.some.inj hresult
      have hold := Value.uniqueKeys_table_iff.mp (hitems _ (List.mem_of_getLast? hlast))
      refine h.replace key (Value.uniqueKeys_array_iff.mpr fun v hv => ?_)
      rcases List.mem_append.mp hv with hfront | hback
      · exact hitems v (List.dropLast_subset items hfront)
      · rw [List.mem_singleton.mp hback]
        exact Value.uniqueKeys_table_iff.mpr (hchange inner inner' hold hinner)
    · cases hresult
  · cases hresult

/-- A value that is added under a dotted key. -/
theorem UniqueKeys.insert (hvalue : value.UniqueKeys) {path : List String}
    (h : entries.UniqueKeys) (hresult : Entries.insert value path entries = some entries') :
    entries'.UniqueKeys := by
  induction path generalizing entries entries' with
  | nil => cases hresult
  | cons key path ih =>
    cases path with
    | nil =>
      rw [Entries.insert] at hresult
      split at hresult
      · cases hresult
      · rename_i hnew
        obtain rfl := Option.some.inj hresult
        exact h.append (Option.not_isSome_iff_eq_none.mp hnew) hvalue
    | cons second path =>
      rw [Entries.insert] at hresult
      · split at hresult
        · rename_i hnew
          obtain ⟨inner, hinner, hresult⟩ := Option.bind_eq_some_iff.mp hresult
          obtain rfl := Option.some.inj hresult
          exact h.append hnew (Value.uniqueKeys_table_iff.mpr (ih uniqueKeys_nil hinner))
        · exact h.within (fun _ _ => ih) hresult
        · cases hresult
      · exact List.cons_ne_nil second path

/-- A table that a header opens. -/
theorem UniqueKeys.openTable {path : List String} (h : entries.UniqueKeys)
    (hresult : Entries.openTable path entries = some entries') : entries'.UniqueKeys := by
  induction path generalizing entries entries' with
  | nil => cases hresult
  | cons key path ih =>
    cases path with
    | nil =>
      rw [Entries.openTable] at hresult
      split at hresult
      · rename_i hnew
        obtain rfl := Option.some.inj hresult
        exact h.append hnew (Value.uniqueKeys_table_iff.mpr uniqueKeys_nil)
      · rename_i inner hlookup
        obtain rfl := Option.some.inj hresult
        have hold := Value.uniqueKeys_table_iff.mp (h.of_lookup hlookup)
        exact h.replace key (Value.uniqueKeys_table_iff.mpr hold)
      · cases hresult
    | cons second path =>
      rw [Entries.openTable] at hresult
      · split at hresult
        · rename_i hnew
          obtain ⟨inner, hinner, hresult⟩ := Option.bind_eq_some_iff.mp hresult
          obtain rfl := Option.some.inj hresult
          exact h.append hnew (Value.uniqueKeys_table_iff.mpr (ih uniqueKeys_nil hinner))
        · exact h.within (fun _ _ => ih) hresult
      · exact List.cons_ne_nil second path

/-- An element that a header in double brackets adds. -/
theorem UniqueKeys.openElement {path : List String} (h : entries.UniqueKeys)
    (hresult : Entries.openElement path entries = some entries') : entries'.UniqueKeys := by
  have hempty : Value.UniqueKeys (.table .header []) :=
    Value.uniqueKeys_table_iff.mpr uniqueKeys_nil
  induction path generalizing entries entries' with
  | nil => cases hresult
  | cons key path ih =>
    cases path with
    | nil =>
      rw [Entries.openElement] at hresult
      split at hresult
      · rename_i hnew
        obtain rfl := Option.some.inj hresult
        refine h.append hnew (Value.uniqueKeys_array_iff.mpr fun v hv => ?_)
        rw [List.mem_singleton.mp hv]
        exact hempty
      · rename_i items hlookup
        obtain rfl := Option.some.inj hresult
        have hold := Value.uniqueKeys_array_iff.mp (h.of_lookup hlookup)
        refine h.replace key (Value.uniqueKeys_array_iff.mpr fun v hv => ?_)
        rcases List.mem_append.mp hv with hfront | hback
        · exact hold v hfront
        · rw [List.mem_singleton.mp hback]
          exact hempty
      · cases hresult
    | cons second path =>
      rw [Entries.openElement] at hresult
      · split at hresult
        · rename_i hnew
          obtain ⟨inner, hinner, hresult⟩ := Option.bind_eq_some_iff.mp hresult
          obtain rfl := Option.some.inj hresult
          exact h.append hnew (Value.uniqueKeys_table_iff.mpr (ih uniqueKeys_nil hinner))
        · exact h.within (fun _ _ => ih) hresult
      · exact List.cons_ne_nil second path

/-- A value that is added in the table of the last header. -/
theorem UniqueKeys.insertUnder (hvalue : value.UniqueKeys) {path header : List String}
    (h : entries.UniqueKeys)
    (hresult : Entries.insertUnder value path header entries = some entries') :
    entries'.UniqueKeys := by
  induction header generalizing entries entries' with
  | nil => exact h.insert hvalue hresult
  | cons key header ih => exact h.within (fun _ _ => ih) hresult

end Entries

/-! ### Reading -/

/-- Scalars hold no keys. -/
theorem uniqueKeys_of_scalar? {lexeme : List Char} {v : Value} (h : scalar? lexeme = some v) :
    v.UniqueKeys := by
  unfold scalar? at h
  split_ifs at h
  · exact Option.some.inj h ▸ .flag true
  · exact Option.some.inj h ▸ .flag false
  · exact Option.some.inj h ▸ .moment _
  · split at h
    · exact Option.some.inj h ▸ .whole _
    · obtain ⟨x, -, rfl⟩ := Option.map_eq_some_iff.mp h
      exact .real x

/-- What the readers of values read with the same bound for their rounds. -/
structure ReadsUnique (bound : Nat) : Prop where
  value : ∀ s v rest, value? bound s = some (v, rest) → v.UniqueKeys
  items : ∀ s vs rest, items? bound s = some (vs, rest) → ∀ v ∈ vs, Value.UniqueKeys v
  pairs : ∀ (before : Entries) s after rest, before.UniqueKeys →
    pairs? bound before s = some (after, rest) → after.UniqueKeys

/-- A value, from what its parts are with one round less. -/
private theorem uniqueKeys_value (bound : Nat) (ih : ReadsUnique bound) {s rest : List Char}
    {v : Value} (h : value? (bound + 1) s = some (v, rest)) : v.UniqueKeys := by
  rw [value?.eq_def] at h
  dsimp only at h
  split at h
  · obtain ⟨t, -, ht⟩ := Option.map_eq_some_iff.mp h
    obtain ⟨rfl, -⟩ := Prod.mk.inj ht
    exact .text _
  · obtain ⟨t, -, ht⟩ := Option.map_eq_some_iff.mp h
    obtain ⟨rfl, -⟩ := Prod.mk.inj ht
    exact .text _
  · obtain ⟨t, hitems, ht⟩ := Option.map_eq_some_iff.mp h
    obtain ⟨rfl, -⟩ := Prod.mk.inj ht
    exact .array false (ih.items _ _ _ hitems)
  · split at h
    · obtain ⟨rfl, -⟩ := Prod.mk.inj (Option.some.inj h)
      exact Value.uniqueKeys_table_iff.mpr Entries.uniqueKeys_nil
    · obtain ⟨t, hpairs, ht⟩ := Option.map_eq_some_iff.mp h
      obtain ⟨rfl, -⟩ := Prod.mk.inj ht
      exact Value.uniqueKeys_table_iff.mpr (ih.pairs _ _ _ _ Entries.uniqueKeys_nil hpairs)
  · obtain ⟨t, hscalar, ht⟩ := Option.map_eq_some_iff.mp h
    obtain ⟨rfl, -⟩ := Prod.mk.inj ht
    exact uniqueKeys_of_scalar? hscalar

/-- The elements of an array. -/
private theorem uniqueKeys_items (bound : Nat) (ih : ReadsUnique bound) {s rest : List Char}
    {vs : List Value} (h : items? (bound + 1) s = some (vs, rest)) : ∀ v ∈ vs, v.UniqueKeys := by
  rw [items?] at h
  split at h
  · obtain ⟨rfl, -⟩ := Prod.mk.inj (Option.some.inj h)
    exact fun v hv => absurd hv List.not_mem_nil
  · obtain ⟨⟨item, behind⟩, hitem, h⟩ := Option.bind_eq_some_iff.mp h
    have hfirst := ih.value _ _ _ hitem
    dsimp only at h
    split at h
    · obtain ⟨⟨items, behind'⟩, hitems, h⟩ := Option.bind_eq_some_iff.mp h
      obtain ⟨rfl, -⟩ := Prod.mk.inj (Option.some.inj h)
      exact List.forall_mem_cons.mpr ⟨hfirst, ih.items _ _ _ hitems⟩
    · obtain ⟨rfl, -⟩ := Prod.mk.inj (Option.some.inj h)
      exact List.forall_mem_cons.mpr ⟨hfirst, fun v hv => absurd hv List.not_mem_nil⟩
    · cases h

/-- The pairs of a table in braces. -/
private theorem uniqueKeys_pairs (bound : Nat) (ih : ReadsUnique bound) {s rest : List Char}
    {before after : Entries} (hbefore : before.UniqueKeys)
    (h : pairs? (bound + 1) before s = some (after, rest)) : after.UniqueKeys := by
  rw [pairs?] at h
  obtain ⟨⟨path, behind⟩, -, h⟩ := Option.bind_eq_some_iff.mp h
  dsimp only at h
  split at h
  · obtain ⟨⟨value, behind'⟩, hvalue, h⟩ := Option.bind_eq_some_iff.mp h
    obtain ⟨entries, hinsert, h⟩ := Option.bind_eq_some_iff.mp h
    have hentries := hbefore.insert (ih.value _ _ _ hvalue) hinsert
    split at h
    · exact ih.pairs _ _ _ _ hentries h
    · obtain ⟨rfl, -⟩ := Prod.mk.inj (Option.some.inj h)
      exact hentries
    · cases h
  · cases h

theorem readsUnique (bound : Nat) : ReadsUnique bound := by
  induction bound with
  | zero =>
    refine ⟨fun s v rest h => ?_, fun s vs rest h => ?_, fun before s after rest _ h => ?_⟩
    · rw [value?] at h
      cases h
    · rw [items?] at h
      cases h
    · rw [pairs?] at h
      cases h
  | succ bound ih =>
    exact ⟨fun _ _ _ => uniqueKeys_value bound ih, fun _ _ _ => uniqueKeys_items bound ih,
      fun _ _ _ _ => uniqueKeys_pairs bound ih⟩

/-- The lines of a document, whatever was read in front of them. -/
theorem uniqueKeys_of_lines? {bound : Nat} {entries document : Entries} {header : List String}
    {s : List Char} (hentries : entries.UniqueKeys)
    (h : lines? bound entries header s = some document) : document.UniqueKeys := by
  induction bound generalizing entries header s with
  | zero => cases h
  | succ bound ih =>
    rw [lines?] at h
    split at h
    · exact Option.some.inj h ▸ hentries
    · obtain ⟨⟨path, behind⟩, -, h⟩ := Option.bind_eq_some_iff.mp h
      split at h
      · obtain ⟨opened, hopened, h⟩ := Option.bind_eq_some_iff.mp h
        obtain ⟨rest, -, h⟩ := Option.bind_eq_some_iff.mp h
        exact ih (hentries.openElement hopened) h
      · cases h
    · obtain ⟨⟨path, behind⟩, -, h⟩ := Option.bind_eq_some_iff.mp h
      split at h
      · obtain ⟨opened, hopened, h⟩ := Option.bind_eq_some_iff.mp h
        obtain ⟨rest, -, h⟩ := Option.bind_eq_some_iff.mp h
        exact ih (hentries.openTable hopened) h
      · cases h
    · obtain ⟨⟨path, behind⟩, -, h⟩ := Option.bind_eq_some_iff.mp h
      dsimp only at h
      split at h
      · obtain ⟨⟨value, behind'⟩, hvalue, h⟩ := Option.bind_eq_some_iff.mp h
        obtain ⟨inserted, hinserted, h⟩ := Option.bind_eq_some_iff.mp h
        obtain ⟨rest, -, h⟩ := Option.bind_eq_some_iff.mp h
        exact ih (hentries.insertUnder ((readsUnique bound).value _ _ _ hvalue) hinserted) h
      · cases h

/-- **What a text writes has unique keys.** -/
theorem uniqueKeys_of_parse? {text : String} {document : Entries}
    (h : parse? text = some document) : document.UniqueKeys :=
  uniqueKeys_of_lines? Entries.uniqueKeys_nil h

/-- A loader whose documents define no key twice. -/
def Loader.Unique (loads : Loader) : Prop :=
  ∀ text document, loads text = .ok document → document.UniqueKeys

/-- The reader of this library is one. -/
theorem unique_loads : Loader.Unique loads := by
  intro text document h
  cases hparse : parse? text with
  | none =>
    rw [loads, hparse] at h
    cases h
  | some parsed =>
    rw [loads, hparse] at h
    obtain rfl : parsed = document := Except.ok.inj h
    exact uniqueKeys_of_parse? hparse

namespace Loader

/-- The loader that refuses one more text, and has something to say about it. -/
def refusing (loads : Loader) (refused detail : String) : Loader := fun text =>
  if text = refused then .error detail else loads text

theorem Unique.refusing {loads : Loader} (h : loads.Unique) (refused detail : String) :
    (loads.refusing refused detail).Unique := by
  intro text document hdocument
  rw [Loader.refusing] at hdocument
  split at hdocument
  · cases hdocument
  · exact h text document hdocument

end Loader

end SentenceGen.Toml
