import SentenceGen.Derivation.TreeText
import SentenceGen.Proofs.Json.RoundTrip

/-!
# Derivation trees as JSON, read back

A tree is not lost in its JSON text: it can be read back from it, whatever its labels are and
whether its nodes are expanded or not (`jsonText?_lossless`). There is such a text wherever the
limit allows for two arrays for each level of the tree; for a tree that is nested deeper there is
none, however large the limit is (`tower_without_text`).
-/

namespace SentenceGen.Tree

variable {limit : Nat} {layout : Json.Layout} {t : Tree} {text : String}

/-! ### Nesting -/

mutual
/-- Each level of a tree takes two arrays. -/
theorem nesting_toJson_le : ∀ t : Tree, t.toJson.nesting ≤ 2 * t.height + 2
  | unexpanded _ => by simp [toJson, Json.nesting, Json.nestingOfAll]
  | node _ [] => by
    simp [toJson, forestToJson, Json.nesting, Json.nestingOfAll, height]
  | node _ (child :: children) => by
    have hchildren := nestingOfAll_forestToJson_le (child :: children)
    simp only [toJson, Json.nesting, Json.nestingOfAll, height]
    simp only [forestHeight] at hchildren
    omega

/-- The arrays of several trees. -/
theorem nestingOfAll_forestToJson_le :
    ∀ ts : List Tree, Json.nestingOfAll (forestToJson ts) ≤ 2 * forestHeight ts + 2
  | [] => Nat.zero_le _
  | t :: ts => by
    have hfirst := nesting_toJson_le t
    have hrest := nestingOfAll_forestToJson_le ts
    simp only [forestToJson, Json.nestingOfAll, forestHeight]
    omega
end

theorem jsonText?_eq_some_iff :
    t.jsonText? limit layout = some text ↔
      t.toJson.nesting ≤ limit ∧ t.toJson.write layout = text := by
  rw [jsonText?]
  split <;> simp [*]

theorem jsonText?_eq_none_iff : t.jsonText? limit layout = none ↔ limit < t.toJson.nesting := by
  rw [jsonText?]
  split <;> simp_all

/-! ### Reading back -/

/-- The tree that a JSON text writes. -/
def ofJsonText? (s : String) : Option Tree :=
  (Json.parse? s).bind ofJson?

theorem ofJsonText?_of_jsonText? (h : t.jsonText? limit layout = some text) :
    ofJsonText? text = some t := by
  obtain ⟨-, rfl⟩ := jsonText?_eq_some_iff.mp h
  rw [ofJsonText?, Json.parse?_write, Option.bind_some, ofJson?_toJson]

/-- **The JSON text of a tree is lossless**, where there is one. That is so exactly if the limit
allows for the arrays of the tree, of which there are at most two for each of its levels. In both
layouts, reading the text as JSON gives the value of the tree, in which a node is an array of its
label and the array of its children or `null`, and from this value the tree. So texts of different
trees are different, even where the layouts are. The text is made of plain characters, and line
feeds only if it is indented. -/
theorem jsonText?_lossless (limit : Nat) (layout : Json.Layout) (t : Tree) :
    (t.jsonText? limit layout = none ↔ limit < t.toJson.nesting) ∧
      t.toJson.nesting ≤ 2 * t.height + 2 ∧
      ∀ text, t.jsonText? limit layout = some text →
        Json.parse? text = some t.toJson ∧ ofJsonText? text = some t ∧
        (∀ (limit' : Nat) (layout' : Json.Layout) (u : Tree),
          u.jsonText? limit' layout' = some text → u = t) ∧
        ∀ c ∈ text.toList, (0x20 ≤ c.toNat ∧ c.toNat ≤ 0x7E) ∨ layout = .indented ∧ c = '\n' := by
  refine ⟨jsonText?_eq_none_iff, nesting_toJson_le t, fun text h => ?_⟩
  have hread : ofJsonText? text = some t := ofJsonText?_of_jsonText? h
  obtain ⟨-, rfl⟩ := jsonText?_eq_some_iff.mp h
  refine ⟨Json.parse?_write layout _, hread, fun limit' layout' u hu => ?_, fun c hc => ?_⟩
  · exact Option.some.inj ((ofJsonText?_of_jsonText? hu).symm.trans hread)
  · exact Json.allows_of_mem_write hc

/-- An expanded node above a leaf and an unexpanded one, with labels that have to be escaped. Four
nested arrays are just enough room for it. -/
theorem jsonText?_lossless_escaped :
    let t := node "\x22" [leaf "", unexpanded "é😀"]
    let text := "[\"\\\"\", [[\"\", []], [\"\\u00e9\\ud83d\\ude00\", null]]]"
    t.jsonText? 4 .compact = some text ∧ Json.parse? text = some t.toJson ∧
      t.jsonText? 3 .compact = none := by
  intro t text
  have htext : t.jsonText? 4 .compact = some text := by decide +kernel
  exact ⟨htext, ((jsonText?_lossless 4 .compact t).2.2 text htext).1,
    (jsonText?_lossless 3 .compact t).1.mpr (by decide)⟩

/-! ### Trees that are nested too deep -/

/-- A leaf below as many nodes. -/
def tower : Nat → Tree
  | 0 => leaf ""
  | n + 1 => node "" [tower n]

theorem nesting_toJson_tower (n : Nat) : (tower n).toJson.nesting = 2 * n + 2 := by
  induction n with
  | zero => rfl
  | succ n ih =>
    simp only [tower, toJson, forestToJson, Json.nesting, Json.nestingOfAll, ih]
    omega

/-- **No limit is enough for all trees.** A tree of five hundred levels has no text where a thousand
arrays may be nested, and every other limit is passed by some tree, too. -/
theorem tower_without_text :
    (∀ layout, (tower 500).jsonText? 1000 layout = none) ∧
      ¬ ∃ limit, ∀ layout (t : Tree), ∃ text, t.jsonText? limit layout = some text := by
  have hnone : ∀ n limit layout, limit < 2 * n + 2 → (tower n).jsonText? limit layout = none :=
    fun n limit layout hlt => jsonText?_eq_none_iff.mpr (by rwa [nesting_toJson_tower])
  refine ⟨fun layout => hnone 500 1000 layout (by decide), ?_⟩
  rintro ⟨limit, hall⟩
  obtain ⟨text, htext⟩ := hall .compact (tower limit)
  rw [hnone limit limit .compact (by omega)] at htext
  cases htext

end SentenceGen.Tree
