import ReportCards.Document.Basic

/-!
# Walking through a document

Ancestors are found by following parent links, subtrees by following lists of children. Neither
walk needs more steps than the document has nodes, so that number bounds them; in a document
without cycles nothing is cut off.
-/
namespace ReportCards

inductive Subtree where
  | node (root : NodeId) (branches : List Subtree)
deriving Repr

namespace Subtree

def root : Subtree → NodeId
  | node root _ => root

def branches : Subtree → List Subtree
  | node _ branches => branches

mutual
def preorder : Subtree → List NodeId
  | node root branches => root :: preorders branches

def preorders : List Subtree → List NodeId
  | [] => []
  | subtree :: rest => preorder subtree ++ preorders rest
end

end Subtree

namespace Document

variable {κ : Type}

def ancestorsWithin (doc : Document κ) : (steps : Nat) → NodeId → List NodeId
  | 0, _ => []
  | steps + 1, n =>
      match doc.parent n with
      | none => []
      | some parent => parent :: doc.ancestorsWithin steps parent

def ancestors (doc : Document κ) (n : NodeId) : List NodeId :=
  doc.ancestorsWithin doc.size n

def path (doc : Document κ) (n : NodeId) : List NodeId :=
  n :: doc.ancestors n

def contains (doc : Document κ) (a b : NodeId) : Bool :=
  (doc.path b).contains a

def subtreeWithin (doc : Document κ) : (depth : Nat) → NodeId → Subtree
  | 0, n => .node n []
  | depth + 1, n => .node n ((doc.children n).map (doc.subtreeWithin depth))

def subtree (doc : Document κ) (n : NodeId) : Subtree :=
  doc.subtreeWithin doc.size n

def descendants (doc : Document κ) (n : NodeId) : List NodeId :=
  Subtree.preorders (doc.subtree n).branches

mutual
def textOf (doc : Document κ) : Subtree → String
  | .node root branches => doc.ownText root ++ doc.textOfAll branches

def textOfAll (doc : Document κ) : List Subtree → String
  | [] => ""
  | subtree :: rest => doc.textOf subtree ++ doc.textOfAll rest
end

def text (doc : Document κ) (n : NodeId) : String :=
  doc.textOf (doc.subtree n)

theorem mem_path_self (doc : Document κ) (n : NodeId) : n ∈ doc.path n :=
  List.mem_cons_self

theorem contains_iff_mem_path (doc : Document κ) (a b : NodeId) :
    doc.contains a b = true ↔ a ∈ doc.path b := by
  simp [contains]

end Document
end ReportCards
