import SentenceGen.Derivation.Tree
import SentenceGen.Json.Basic

/-!
# Derivation trees as JSON

A tree is written as an array of two elements, its label and the array of its children, which is
`null` for an unexpanded node. `Tree.ofJson?` takes such an array back to the tree.

Writing descends into the arrays, and no deeper than there is room for: a tree whose arrays are
nested deeper has no text.
-/

namespace SentenceGen.Tree

mutual
/-- The JSON value of a tree. -/
def toJson : Tree → Json
  | unexpanded label => .list [.text label.toList, .null]
  | node label children => .list [.text label.toList, .list (forestToJson children)]

/-- The JSON values of several trees. -/
def forestToJson : List Tree → List Json
  | [] => []
  | t :: ts => t.toJson :: forestToJson ts
end

mutual
/-- The tree that a JSON value stands for. -/
def ofJson? : Json → Option Tree
  | .list [.text label, .null] => some (unexpanded (String.ofList label))
  | .list [.text label, .list children] =>
    (forestOfJson? children).map (node (String.ofList label))
  | _ => none

/-- The trees that JSON values stand for. -/
def forestOfJson? : List Json → Option (List Tree)
  | [] => some []
  | v :: vs => do
    let t ← ofJson? v
    let ts ← forestOfJson? vs
    return t :: ts
end

mutual
@[simp] theorem ofJson?_toJson : ∀ t : Tree, ofJson? t.toJson = some t
  | unexpanded label => by simp [toJson, ofJson?]
  | node label children => by simp [toJson, ofJson?, forestOfJson?_forestToJson children]

@[simp] theorem forestOfJson?_forestToJson :
    ∀ ts : List Tree, forestOfJson? (forestToJson ts) = some ts
  | [] => rfl
  | t :: ts => by
    simp [forestToJson, forestOfJson?, ofJson?_toJson t, forestOfJson?_forestToJson ts]
end

/-- The JSON text of a tree, where arrays may be nested `limit` deep. -/
def jsonText? (limit : Nat) (layout : Json.Layout) (t : Tree) : Option String :=
  if t.toJson.nesting ≤ limit then some (t.toJson.write layout) else none

end SentenceGen.Tree
