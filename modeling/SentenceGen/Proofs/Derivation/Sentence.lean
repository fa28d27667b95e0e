import Mathlib.Data.List.Basic
import SentenceGen.Derivation.Tree
import SentenceGen.Proofs.Text.Pieces

/-!
# The sentence of a tree

`Tree.sentence` walks over a tree with a list of the trees that are still to be visited. Two facts
about one step of such a walk carry everything: it visits exactly one node (`Walk.forestSize_step`),
and what has been met so far, followed by the leaves of what is to be visited, stays the same
(`Walk.promised_step`). So a walk that is as long as the tree has nodes meets the leaves that
`Tree.leaves` lists by recursion, and stops there (`Walk.run_eq`).

The labels that are not empty are the **yield** of the tree. When none of them starts or ends with
a blank, trimming finds nothing to drop: the sentence is the join of the yield
(`sentence_of_isPhrase`). Joining is the same thing tree by tree and all at once
(`joinPieces_map_joinPieces`), since an empty join is left out wherever it occurs, so then the
sentences of several trees join like their leaves (`joinPieces_map_sentence`).
-/

namespace SentenceGen

/-! ### Joins of joins -/

theorem joinPieces_singleton (piece : String) : joinPieces [piece] = piece := by
  by_cases h : piece = "" <;> simp [joinPieces, h]

/-- There is nothing in a join of pieces that are all empty. -/
theorem joinPieces_eq_empty_iff {pieces : List String} :
    joinPieces pieces = "" ↔ pieces.filter (!·.isEmpty) = [] := by
  rw [joinPieces]
  refine ⟨fun h => ?_, fun h => by rw [h, String.intercalate_nil]⟩
  by_contra hne
  obtain ⟨piece, rest, hpieces⟩ := List.exists_cons_of_ne_nil hne
  have hpiece : piece ≠ "" := by
    have hmem : piece ∈ pieces.filter (!·.isEmpty) := hpieces ▸ List.mem_cons_self
    simpa using (List.mem_filter.mp hmem).2
  rw [hpieces, ← String.toList_eq_nil_iff] at h
  cases rest <;> simp [hpiece] at h

/-- A join in two halves. -/
theorem joinPieces_append (pieces more : List String) :
    joinPieces (pieces ++ more) = joinPieces [joinPieces pieces, joinPieces more] := by
  by_cases hpieces : joinPieces pieces = ""
  · have hmore : joinPieces ["", joinPieces more] = joinPieces [joinPieces more] := rfl
    rw [hpieces, hmore, joinPieces_singleton, joinPieces, List.filter_append,
      joinPieces_eq_empty_iff.mp hpieces, List.nil_append, joinPieces]
  · by_cases hmore : joinPieces more = ""
    · rw [hmore, joinPieces, List.filter_append, joinPieces_eq_empty_iff.mp hmore,
        List.append_nil, ← joinPieces]
      simp [joinPieces.eq_1 [_, _], hpieces]
    · have hboth : joinPieces [joinPieces pieces, joinPieces more] =
          joinPieces pieces ++ " " ++ joinPieces more := by
        simp [joinPieces.eq_1 [_, _], hpieces, hmore]
      rw [hboth, joinPieces, List.filter_append, String.intercalate_append_of_ne_nil
        (mt joinPieces_eq_empty_iff.mpr hpieces) (mt joinPieces_eq_empty_iff.mpr hmore),
        ← joinPieces, ← joinPieces]

/-- A group of pieces may be replaced by another one with the same join. -/
theorem joinPieces_congr {pieces pieces' : List String}
    (h : joinPieces pieces = joinPieces pieces') (front back : List String) :
    joinPieces (front ++ pieces ++ back) = joinPieces (front ++ pieces' ++ back) := by
  rw [joinPieces_append, joinPieces_append front, h, ← joinPieces_append front,
    ← joinPieces_append]

/-- **A join of joins is a join**, however the pieces are grouped. -/
theorem joinPieces_map_joinPieces (groups : List (List String)) :
    joinPieces (groups.map joinPieces) = joinPieces groups.flatten := by
  induction groups with
  | nil => rfl
  | cons group groups ih =>
    calc joinPieces (joinPieces group :: groups.map joinPieces)
        = joinPieces [joinPieces [joinPieces group], joinPieces (groups.map joinPieces)] :=
          joinPieces_append [joinPieces group] _
      _ = joinPieces [joinPieces group, joinPieces groups.flatten] := by
          rw [joinPieces_singleton, ih]
      _ = joinPieces (group ++ groups.flatten) := (joinPieces_append group _).symm

namespace Tree

/-! ### Several trees at once -/

@[simp] theorem forestSize_append (ts us : List Tree) :
    forestSize (ts ++ us) = forestSize ts + forestSize us := by
  induction ts with
  | nil => simp [forestSize]
  | cons t ts ih => rw [List.cons_append, forestSize, ih, forestSize, Nat.add_assoc]

@[simp] theorem forestLeaves_append (ts us : List Tree) :
    forestLeaves (ts ++ us) = forestLeaves ts ++ forestLeaves us := by
  induction ts with
  | nil => simp [forestLeaves]
  | cons t ts ih => rw [List.cons_append, forestLeaves, ih, forestLeaves, List.append_assoc]

theorem size_pos (t : Tree) : 0 < t.size := by
  cases t <;> simp [size]

theorem forestSize_eq_zero_iff {ts : List Tree} : forestSize ts = 0 ↔ ts = [] := by
  cases ts with
  | nil => simp [forestSize]
  | cons t ts =>
    have hpos := size_pos t
    rw [forestSize]
    exact iff_of_false (by omega) (by simp)

theorem leaves_node {children : List Tree} (h : children ≠ []) (label : String) :
    (node label children).leaves = forestLeaves children := by
  obtain ⟨child, rest, rfl⟩ := List.exists_cons_of_ne_nil h
  rw [leaves, forestLeaves]

/-! ### Walks -/

namespace Walk

/-- The labels that a walk has met and those that it is still to meet. -/
def promised (w : Walk) : List String :=
  w.met ++ forestLeaves w.pending

/-- A step visits one node. -/
theorem forestSize_step {w : Walk} (h : w.pending ≠ []) :
    forestSize w.step.pending + 1 = forestSize w.pending := by
  obtain ⟨_ | ⟨t, pending⟩, met⟩ := w
  · exact absurd rfl h
  · cases t with
    | unexpanded label => simp [step, forestSize, size, Nat.add_comm]
    | node label children =>
      cases children with
      | nil => simp [step, forestSize, size, Nat.add_comm]
      | cons child rest =>
        simp only [step, forestSize_append, forestSize, size]
        omega

/-- A step changes nothing about the labels that are met in the end. -/
theorem promised_step (w : Walk) : w.step.promised = w.promised := by
  obtain ⟨_ | ⟨t, pending⟩, met⟩ := w
  · rfl
  · cases t with
    | unexpanded label => simp [step, promised, forestLeaves, leaves]
    | node label children =>
      cases children with
      | nil => simp [step, promised, forestLeaves, leaves]
      | cons child rest => simp [step, promised, forestLeaves, leaves]

/-- **A walk that is long enough** visits every node and meets the leaves from left to right. -/
theorem run_eq {n : Nat} {w : Walk} (h : forestSize w.pending ≤ n) :
    run n w = ⟨[], w.promised⟩ := by
  induction n generalizing w with
  | zero =>
    have hnil := forestSize_eq_zero_iff.mp (Nat.le_zero.mp h)
    obtain ⟨pending, met⟩ := w
    obtain rfl := hnil
    simp [run, promised, forestLeaves]
  | succ n ih =>
    rw [run]
    split_ifs with hdone
    · obtain ⟨pending, met⟩ := w
      obtain rfl := List.isEmpty_iff.mp hdone
      simp [promised, forestLeaves]
    · -- one node less to visit, and one step less to take
      have hvisit := forestSize_step (w := w) (by simpa using hdone)
      rw [ih (by omega), promised_step]

end Walk

/-- **The sentence of a tree**, without the walk. -/
theorem sentence_eq (t : Tree) : t.sentence = Text.trimString (joinPieces t.leaves) := by
  have hrun : Walk.run t.size ⟨[t], []⟩ = ⟨[], t.leaves⟩ := by
    rw [Walk.run_eq (by simp [forestSize])]
    simp [Walk.promised, forestLeaves]
  rw [sentence, hrun]

/-! ### Yields -/

/-- The labels of the leaves that are not empty, left to right. -/
def yield (t : Tree) : List String :=
  t.leaves.filter (!·.isEmpty)

/-- The yields of several trees, one after the other. -/
def forestYield (ts : List Tree) : List String :=
  (forestLeaves ts).filter (!·.isEmpty)

@[simp] theorem forestYield_nil : forestYield [] = [] :=
  rfl

@[simp] theorem forestYield_cons (t : Tree) (ts : List Tree) :
    forestYield (t :: ts) = t.yield ++ forestYield ts := by
  rw [forestYield, forestLeaves, List.filter_append]
  rfl

theorem yield_leaf {label : String} (h : label ≠ "") : (leaf label).yield = [label] := by
  simp [yield, leaves, h]

theorem eq_of_mem_yield_leaf {label w : String} (h : w ∈ (leaf label).yield) : w = label := by
  simpa [leaves] using (List.mem_filter.mp h).1

@[simp] theorem yield_empty_leaf (label : String) : (node label [leaf ""]).yield = [] := by
  simp [yield, leaves, forestLeaves]

theorem yield_node {children : List Tree} (h : children ≠ []) (label : String) :
    (node label children).yield = forestYield children := by
  rw [yield, leaves_node h, forestYield]

theorem mem_forestYield {w : String} {ts : List Tree} :
    w ∈ forestYield ts ↔ ∃ t ∈ ts, w ∈ t.yield := by
  induction ts with
  | nil => simp
  | cons t ts ih => simp [ih]

/-! ### Where trimming finds nothing to drop -/

/-- Trimming leaves phrases that are joined by spaces alone. -/
theorem trimString_intercalate {ws : List String} (h : ∀ w ∈ ws, Text.IsPhrase w.toList) :
    Text.trimString (" ".intercalate ws) = " ".intercalate ws := by
  rw [Text.trimString_eq_self_iff, String.toList_intercalate]
  exact Text.isTrimmed_intercalate (List.forall_mem_map.mpr h)

/-- A yield of phrases, with single spaces between them, is the sentence. -/
theorem sentence_of_isPhrase {t : Tree} (h : ∀ w ∈ t.yield, Text.IsPhrase w.toList) :
    t.sentence = " ".intercalate t.yield := by
  rw [sentence_eq, joinPieces, ← yield, trimString_intercalate h]

theorem sentence_eq_joinPieces {t : Tree} (h : ∀ w ∈ t.yield, Text.IsPhrase w.toList) :
    t.sentence = joinPieces t.leaves := by
  rw [sentence_of_isPhrase h, joinPieces, ← yield]

theorem forestLeaves_eq_flatten (ts : List Tree) : forestLeaves ts = (ts.map leaves).flatten := by
  induction ts with
  | nil => simp [forestLeaves]
  | cons t ts ih => rw [forestLeaves, ih, List.map_cons, List.flatten_cons]

/-- **Sentences join like the labels of all leaves**, where the trees yield phrases. -/
theorem joinPieces_map_sentence {ts : List Tree}
    (h : ∀ w ∈ forestYield ts, Text.IsPhrase w.toList) :
    joinPieces (ts.map sentence) = joinPieces (forestLeaves ts) := by
  have hsentences : ts.map sentence = (ts.map leaves).map joinPieces := by
    rw [List.map_map]
    exact List.map_congr_left fun t ht => sentence_eq_joinPieces fun w hw =>
      h w (mem_forestYield.mpr ⟨t, ht, hw⟩)
  rw [hsentences, joinPieces_map_joinPieces, ← forestLeaves_eq_flatten]

end Tree

end SentenceGen
