import SentenceGen.Text.Blank

/-!
# Derivation trees

A node of a derivation tree has a label and either its children or none at all, when it has not been
expanded. A node whose list of children is empty is a **leaf**; a leaf is a terminal token, or empty
where a symbol was expanded to no tokens.

The sentence of a tree is the join of the labels of its leaves, left to right, with the empty ones
left out. `Tree.sentence` collects them with an explicit list of the trees that are still to be
visited, so that the depth of a tree costs nothing; `Tree.leaves` states by recursion what it
collects.
-/

namespace SentenceGen

/-- A labelled tree in which a node may be unexpanded. -/
inductive Tree where
  | unexpanded (label : String)
  | node (label : String) (children : List Tree)
  deriving Repr, Inhabited

/-- Non-empty pieces with one space between them. -/
def joinPieces (pieces : List String) : String :=
  " ".intercalate (pieces.filter (!·.isEmpty))

namespace Tree

def label : Tree → String
  | unexpanded label => label
  | node label _ => label

/-- A node without children. -/
abbrev leaf (label : String) : Tree :=
  node label []

mutual
/-- The labels of the leaves, left to right. -/
def leaves : Tree → List String
  | unexpanded _ => []
  | node label [] => [label]
  | node _ (child :: children) => child.leaves ++ forestLeaves children

/-- The labels of the leaves of several trees, left to right. -/
def forestLeaves : List Tree → List String
  | [] => []
  | t :: ts => t.leaves ++ forestLeaves ts
end

mutual
/-- The number of nodes. -/
def size : Tree → Nat
  | unexpanded _ => 1
  | node _ children => forestSize children + 1

/-- The number of nodes of several trees. -/
def forestSize : List Tree → Nat
  | [] => 0
  | t :: ts => t.size + forestSize ts
end

mutual
/-- The number of nested nodes that have children, on the longest path. -/
def height : Tree → Nat
  | unexpanded _ => 0
  | node _ [] => 0
  | node _ (child :: children) => max child.height (forestHeight children) + 1

/-- The greatest height of several trees. -/
def forestHeight : List Tree → Nat
  | [] => 0
  | t :: ts => max t.height (forestHeight ts)
end

mutual
/-- Equality of trees, node by node. -/
def beq : Tree → Tree → Bool
  | unexpanded a, unexpanded b => a == b
  | node a ts, node b us => a == b && beqList ts us
  | _, _ => false

/-- Equality of lists of trees. -/
def beqList : List Tree → List Tree → Bool
  | [], [] => true
  | t :: ts, u :: us => beq t u && beqList ts us
  | _, _ => false
end

mutual
theorem eq_of_beq : ∀ {t u : Tree}, beq t u = true → t = u
  | unexpanded a, unexpanded b, h => by simp only [beq, beq_iff_eq] at h; rw [h]
  | node a ts, node b us, h => by
    simp only [beq, Bool.and_eq_true, beq_iff_eq] at h
    rw [h.1, eq_of_beqList h.2]
  | unexpanded _, node _ _, h => by simp [beq] at h
  | node _ _, unexpanded _, h => by simp [beq] at h

theorem eq_of_beqList : ∀ {ts us : List Tree}, beqList ts us = true → ts = us
  | [], [], _ => rfl
  | t :: ts, u :: us, h => by
    simp only [beqList, Bool.and_eq_true] at h
    rw [eq_of_beq h.1, eq_of_beqList h.2]
  | [], _ :: _, h => by simp [beqList] at h
  | _ :: _, [], h => by simp [beqList] at h
end

mutual
theorem beq_self : ∀ t : Tree, beq t t = true
  | unexpanded a => by simp [beq]
  | node a ts => by simp [beq, beqList_self ts]

theorem beqList_self : ∀ ts : List Tree, beqList ts ts = true
  | [] => rfl
  | t :: ts => by simp [beqList, beq_self t, beqList_self ts]
end

instance : DecidableEq Tree := fun t u =>
  if h : beq t u = true then isTrue (eq_of_beq h)
  else isFalse fun e => h (e ▸ beq_self t)

/-! ### Sentences -/

/-- A walk over trees: the trees still to be visited, the next one first, and the labels of the
leaves that were met. -/
structure Walk where
  pending : List Tree
  met : List String
  deriving DecidableEq, Repr

/-- Visits the next tree: an unexpanded node is passed over, a leaf is met, and the children of any
other node take its place. -/
def Walk.step : Walk → Walk
  | ⟨[], met⟩ => ⟨[], met⟩
  | ⟨unexpanded _ :: pending, met⟩ => ⟨pending, met⟩
  | ⟨node label [] :: pending, met⟩ => ⟨pending, met ++ [label]⟩
  | ⟨node _ children :: pending, met⟩ => ⟨children ++ pending, met⟩

/-- Visits that many trees, and stops early when none is left. -/
def Walk.run : Nat → Walk → Walk
  | 0, w => w
  | n + 1, w => if w.pending.isEmpty then w else run n w.step

/-- The sentence that a tree derives: the labels of its leaves with single spaces between them. A
walk visits every node once. -/
def sentence (t : Tree) : String :=
  Text.trimString (joinPieces (Walk.run t.size ⟨[t], []⟩).met)

end Tree

end SentenceGen
