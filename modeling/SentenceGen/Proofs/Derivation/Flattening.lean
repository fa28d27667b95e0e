import Mathlib.Logic.Function.Iterate
import SentenceGen.Proofs.Derivation.Trees

/-!
# Flattening trees

A tree is flattened by a walk: the next tree that is still to be visited is taken from the front of
a list, and its children are put there in its place. All that holds of the sentence holds of any
tree, whatever its labels and wherever it has nodes that are not expanded.

* **What the walk does** (`sentence_by_walk`): it is over after exactly as many visits as there are
  nodes (`Walk.pending_iterate_step_eq_nil_iff`), and meets the labels of the leaves among them from
  left to right. No other label matters (`leaves_bare`).
* **Flattening is compositional** (`sentence_compositional`): the sentence of a node joins those of
  its children, if no leaf has blanks around its label. Then a subtree may be replaced by another
  one with the same sentence at any place (`exists_leaves_replaceAt`), even if there are such blanks
  elsewhere in the tree.
-/

namespace SentenceGen.Tree

/-! ### Nodes in the order of a walk -/

/-- The label of a tree that is a leaf. -/
def leafLabel? : Tree → Option String
  | node label [] => some label
  | _ => none

mutual
/-- The leaves of a tree are met in the order of its nodes. -/
theorem filterMap_leafLabel?_subtrees : ∀ t : Tree, t.subtrees.filterMap leafLabel? = t.leaves
  | unexpanded _ => by simp [subtrees, leafLabel?, leaves]
  | node _ [] => by simp [subtrees, forestSubtrees, leafLabel?, leaves]
  | node label (child :: children) => by
    have hroot : (node label (child :: children)).leafLabel? = none := rfl
    rw [subtrees, List.filterMap_cons_none hroot, filterMap_leafLabel?_forestSubtrees,
      leaves_node (List.cons_ne_nil child children)]

theorem filterMap_leafLabel?_forestSubtrees :
    ∀ ts : List Tree, (forestSubtrees ts).filterMap leafLabel? = forestLeaves ts
  | [] => by simp [forestSubtrees, forestLeaves]
  | t :: ts => by
    rw [forestSubtrees, List.filterMap_append, filterMap_leafLabel?_subtrees,
      filterMap_leafLabel?_forestSubtrees, forestLeaves]
end

mutual
theorem length_subtrees : ∀ t : Tree, t.subtrees.length = t.size
  | unexpanded _ => by simp [subtrees, size]
  | node _ children => by rw [subtrees, List.length_cons, length_forestSubtrees, size]

theorem length_forestSubtrees : ∀ ts : List Tree, (forestSubtrees ts).length = forestSize ts
  | [] => by simp [forestSubtrees, forestSize]
  | t :: ts => by
    rw [forestSubtrees, List.length_append, length_subtrees, length_forestSubtrees, forestSize]
end

mutual
/-- The tree without the labels of its inner nodes and of those that are not expanded. -/
def bare : Tree → Tree
  | unexpanded _ => unexpanded ""
  | node label [] => node label []
  | node _ (child :: children) => node "" (child.bare :: forestBare children)

/-- Several trees without these labels. -/
def forestBare : List Tree → List Tree
  | [] => []
  | t :: ts => t.bare :: forestBare ts
end

mutual
theorem leaves_bare : ∀ t : Tree, t.bare.leaves = t.leaves
  | unexpanded _ => by simp [bare, leaves]
  | node _ [] => by simp [bare]
  | node _ (child :: children) => by
    rw [bare, leaves, leaves_bare child, forestLeaves_forestBare children, leaves]

theorem forestLeaves_forestBare : ∀ ts : List Tree, forestLeaves (forestBare ts) = forestLeaves ts
  | [] => by simp [forestBare]
  | t :: ts => by
    rw [forestBare, forestLeaves, leaves_bare t, forestLeaves_forestBare ts, forestLeaves]
end

/-! ### The walk, visit by visit -/

/-- **A walk is over after as many visits as there are nodes**, and not before. -/
theorem Walk.pending_iterate_step_eq_nil_iff {n : Nat} {w : Walk} :
    (Walk.step^[n] w).pending = [] ↔ forestSize w.pending ≤ n := by
  induction n generalizing w with
  | zero => rw [Function.iterate_zero_apply, Nat.le_zero, forestSize_eq_zero_iff]
  | succ n ih =>
    rw [Function.iterate_succ_apply, ih]
    by_cases hdone : w.pending = []
    · obtain ⟨pending, met⟩ := w
      obtain rfl := hdone
      simp [Walk.step, forestSize]
    · -- one node less to visit, and one visit less to make
      have hvisit := Walk.forestSize_step hdone
      omega

/-- **The walk over a tree.** For every tree, with any labels and any nodes that are not expanded,
its root included:

* there is nothing left to visit after exactly as many visits as the tree has nodes;
* a walk that may make this number of visits or more ends with the labels of the leaves among the
  nodes, in their order from left to right;
* the sentence is the join by single spaces of those that are not empty, without the blanks at its
  ends;
* the labels of all other nodes make no difference to the sentence. -/
theorem sentence_by_walk (t : Tree) :
    (∀ n, (Walk.step^[n] ⟨[t], []⟩).pending = [] ↔ t.subtrees.length ≤ n) ∧
      (∀ n, Walk.run (t.subtrees.length + n) ⟨[t], []⟩ =
        ⟨[], t.subtrees.filterMap leafLabel?⟩) ∧
      t.sentence = Text.trimString
        (" ".intercalate ((t.subtrees.filterMap leafLabel?).filter (!·.isEmpty))) ∧
      t.bare.sentence = t.sentence := by
  have hsize : forestSize [t] = t.subtrees.length := by
    rw [length_subtrees, forestSize, forestSize, Nat.add_zero]
  refine ⟨fun n => ?_, fun n => ?_, ?_, ?_⟩
  · rw [Walk.pending_iterate_step_eq_nil_iff, hsize]
  · rw [Walk.run_eq (hsize ▸ Nat.le_add_right _ n), filterMap_leafLabel?_subtrees]
    simp [Walk.promised, forestLeaves]
  · rw [sentence_eq, joinPieces, filterMap_leafLabel?_subtrees]
  · rw [sentence_eq, leaves_bare, ← sentence_eq]

/-! ### Places in a tree -/

/-- The subtree at a place, which is given by the numbers of the children on the way down to it. -/
def subtreeAt? (t : Tree) : (place : List Nat) → Option Tree
  | [] => some t
  | i :: place =>
    match t with
    | unexpanded _ => none
    | node _ children => children[i]?.bind fun child => child.subtreeAt? place

/-- The tree with another subtree at a place. -/
def replaceAt (t : Tree) (u : Tree) : (place : List Nat) → Tree
  | [] => u
  | i :: place =>
    match t with
    | unexpanded label => unexpanded label
    | node label children => node label (children.modify i fun child => child.replaceAt u place)

/-- What is put at a place is found there. -/
theorem subtreeAt?_replaceAt {t u : Tree} {place : List Nat} (h : t.subtreeAt? place = some u)
    (u' : Tree) : (t.replaceAt u' place).subtreeAt? place = some u' := by
  induction place generalizing t with
  | nil => rfl
  | cons i place ih =>
    cases t with
    | unexpanded label => cases h
    | node label children =>
      obtain ⟨child, hchild, hbelow⟩ := Option.bind_eq_some_iff.mp h
      rw [replaceAt, subtreeAt?, List.getElem?_modify_eq, hchild]
      exact ih hbelow

/-- **The leaves of a subtree stand side by side** among those of the tree, and another subtree only
changes these. -/
theorem exists_leaves_replaceAt {t u : Tree} {place : List Nat}
    (h : t.subtreeAt? place = some u) :
    ∃ front back, t.leaves = front ++ u.leaves ++ back ∧
      ∀ u', (t.replaceAt u' place).leaves = front ++ u'.leaves ++ back := by
  induction place generalizing t with
  | nil =>
    obtain rfl := Option.some.inj h
    exact ⟨[], [], by simp, fun u' => by simp [replaceAt]⟩
  | cons i place ih =>
    cases t with
    | unexpanded label => cases h
    | node label children =>
      obtain ⟨child, hchild, hbelow⟩ := Option.bind_eq_some_iff.mp h
      obtain ⟨front, back, hleaves, hreplaced⟩ := ih hbelow
      obtain ⟨hi, rfl⟩ := List.getElem?_eq_some_iff.mp hchild
      -- the children in front of this one and behind it keep their leaves
      have hsplit : children = children.take i ++ children[i] :: children.drop (i + 1) := by
        rw [List.getElem_cons_drop, List.take_append_drop]
      refine ⟨forestLeaves (children.take i) ++ front,
        back ++ forestLeaves (children.drop (i + 1)), ?_, fun u' => ?_⟩
      · rw [leaves_node (List.ne_nil_of_length_pos (Nat.zero_lt_of_lt hi))]
        conv_lhs => rw [hsplit, forestLeaves_append, forestLeaves, hleaves]
        simp only [List.append_assoc]
      · rw [replaceAt, List.modify_eq_take_cons_drop hi, leaves_node (by simp),
          forestLeaves_append, forestLeaves, hreplaced]
        simp only [List.append_assoc]

/-! ### Sentences of parts -/

/-- No leaf has blanks around its label. -/
def TrimmedLeaves (t : Tree) : Prop :=
  ∀ label ∈ t.leaves, Text.trimString label = label

instance (t : Tree) : Decidable t.TrimmedLeaves :=
  inferInstanceAs (Decidable (∀ label ∈ t.leaves, Text.trimString label = label))

theorem TrimmedLeaves.isPhrase_of_mem_yield {t : Tree} (h : t.TrimmedLeaves) :
    ∀ w ∈ t.yield, Text.IsPhrase w.toList := by
  intro w hw
  obtain ⟨hleaf, hne⟩ := List.mem_filter.mp hw
  exact ⟨by simpa using hne, Text.trimString_eq_self_iff.mp (h w hleaf)⟩

theorem TrimmedLeaves.sentence_eq {t : Tree} (h : t.TrimmedLeaves) :
    t.sentence = joinPieces t.leaves :=
  sentence_eq_joinPieces h.isPhrase_of_mem_yield

/-- **Flattening is compositional.**

* The sentence of a node whose leaves have no blanks around their labels joins the sentences of its
  children.
* If the subtree at a place and another tree have the same sentence, and no blanks around the labels
  of their leaves, then the tree with the one in the place of the other has the same sentence as
  before. -/
theorem sentence_compositional :
    (∀ (label : String) (children : List Tree), children ≠ [] →
        (node label children).TrimmedLeaves →
          (node label children).sentence = joinPieces (children.map sentence)) ∧
      ∀ (t u u' : Tree) (place : List Nat), t.subtreeAt? place = some u → u.TrimmedLeaves →
        u'.TrimmedLeaves → u.sentence = u'.sentence →
          (t.replaceAt u' place).subtreeAt? place = some u' ∧
            (t.replaceAt u' place).sentence = t.sentence := by
  constructor
  · intro label children hne h
    have hphrase := h.isPhrase_of_mem_yield
    rw [yield_node hne] at hphrase
    rw [h.sentence_eq, leaves_node hne, joinPieces_map_sentence hphrase]
  · intro t u u' place hplace hu hu' hsentence
    refine ⟨subtreeAt?_replaceAt hplace u', ?_⟩
    obtain ⟨front, back, hleaves, hreplaced⟩ := exists_leaves_replaceAt hplace
    have hjoin : joinPieces u'.leaves = joinPieces u.leaves := by
      rw [← hu'.sentence_eq, ← hu.sentence_eq, hsentence]
    rw [Tree.sentence_eq, hreplaced, joinPieces_congr hjoin, ← hleaves, ← Tree.sentence_eq]

/-- Empty sentences beside one that is not, and an empty one that comes of another tree beside a
leaf with a blank. -/
theorem sentence_compositional_empty :
    (node "s" [leaf "a b", node "n" [leaf ""], unexpanded " m"]).TrimmedLeaves ∧
      (node "s" [leaf "a b", node "n" [leaf ""], unexpanded " m"]).sentence =
        joinPieces ["a b", "", ""] ∧
      (node "n" [leaf ""]).TrimmedLeaves ∧ (node "m" [unexpanded "n", leaf ""]).TrimmedLeaves ∧
      (node "n" [leaf ""]).sentence = (node "m" [unexpanded "n", leaf ""]).sentence ∧
      (node "s" [leaf " c", node "m" [unexpanded "n", leaf ""], leaf "d"]).sentence =
        (node "s" [leaf " c", node "n" [leaf ""], leaf "d"]).sentence := by
  obtain ⟨hnode, hreplace⟩ := sentence_compositional
  have htrimmed : (node "s" [leaf "a b", node "n" [leaf ""], unexpanded " m"]).TrimmedLeaves := by
    decide +kernel
  have hu : (node "n" [leaf ""]).TrimmedLeaves := by decide +kernel
  have hu' : (node "m" [unexpanded "n", leaf ""]).TrimmedLeaves := by decide +kernel
  have hsentence :
      (node "n" [leaf ""]).sentence = (node "m" [unexpanded "n", leaf ""]).sentence := by
    decide +kernel
  exact ⟨htrimmed, hnode "s" _ (List.cons_ne_nil _ _) htrimmed, hu, hu', hsentence,
    (hreplace (node "s" [leaf " c", node "n" [leaf ""], leaf "d"]) _ _ [1] rfl hu hu'
      hsentence).2⟩

/-- With blanks around the label of a leaf, the sentence of a node is another one. -/
example : (node "s" [leaf "a", leaf " b"]).sentence = "a  b" ∧
    joinPieces ([leaf "a", leaf " b"].map sentence) = "a b" := by
  decide +kernel

end SentenceGen.Tree
