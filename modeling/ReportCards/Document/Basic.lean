import ReportCards.Text.Blank

/-!
# Documents

A document holds nodes under the numbers they got when they were created. Every node has a list of
children and a link to its parent; both say the same, and the operations keep it so. Detached nodes
stay in the document, with their subtrees.

What a click handler does is an action of a type that the document leaves open. A handler also has
a serial number, so that two handlers with the same action are told apart.
-/
namespace ReportCards

abbrev NodeId := Nat

structure Handler (κ : Type) where
  serial : Nat
  action : κ
deriving DecidableEq, Repr

structure Node (κ : Type) where
  tag : String
  classes : List String := []
  attributes : List (String × String) := []
  text : String := ""
  children : List NodeId := []
  parent : Option NodeId := none
  handlers : List (Handler κ) := []
deriving DecidableEq, Repr

/-- The value of an attribute; `class` is the list of classes, and absent when that is empty. -/
def Node.getAttribute {κ : Type} (node : Node κ) (name : String) : Option String :=
  if name = "class" then
    if node.classes = [] then none
    else some (String.ofList ([' '].intercalate (node.classes.map String.toList)))
  else node.attributes.lookup name

structure Document (κ : Type) where
  nodes : Array (Node κ) := #[]
  registered : Nat := 0

namespace Document

variable {κ : Type}

def size (doc : Document κ) : Nat :=
  doc.nodes.size

/-- The node of that name; a name that was never given out denotes an empty node. -/
def node (doc : Document κ) (n : NodeId) : Node κ :=
  doc.nodes.getD n { tag := "" }

def tag (doc : Document κ) (n : NodeId) : String := (doc.node n).tag
def classes (doc : Document κ) (n : NodeId) : List String := (doc.node n).classes
def attributes (doc : Document κ) (n : NodeId) : List (String × String) := (doc.node n).attributes
def ownText (doc : Document κ) (n : NodeId) : String := (doc.node n).text
def children (doc : Document κ) (n : NodeId) : List NodeId := (doc.node n).children
def parent (doc : Document κ) (n : NodeId) : Option NodeId := (doc.node n).parent
def handlers (doc : Document κ) (n : NodeId) : List (Handler κ) := (doc.node n).handlers

def hasClass (doc : Document κ) (n : NodeId) (name : String) : Bool :=
  (doc.classes n).contains name

def getAttribute (doc : Document κ) (n : NodeId) (name : String) : Option String :=
  (doc.node n).getAttribute name

def insert (doc : Document κ) (node : Node κ) : Document κ :=
  { doc with nodes := doc.nodes.push node }

def update (doc : Document κ) (n : NodeId) (change : Node κ → Node κ) : Document κ :=
  { doc with nodes := doc.nodes.modify n change }

@[simp] theorem size_insert (doc : Document κ) (node : Node κ) :
    (doc.insert node).size = doc.size + 1 := by
  simp [size, insert]

@[simp] theorem size_update (doc : Document κ) (n : NodeId) (change : Node κ → Node κ) :
    (doc.update n change).size = doc.size := by
  simp [size, update]

theorem node_insert (doc : Document κ) (node : Node κ) (m : NodeId) :
    (doc.insert node).node m = if m = doc.size then node else doc.node m := by
  simp only [Document.node, insert, size, Array.getD_eq_getD_getElem?, Array.getElem?_push]
  split <;> simp_all

theorem node_update (doc : Document κ) (n : NodeId) (change : Node κ → Node κ) (m : NodeId) :
    (doc.update n change).node m =
      if n = m ∧ m < doc.size then change (doc.node m) else doc.node m := by
  simp only [Document.node, update, size, Array.getD_eq_getD_getElem?, Array.getElem?_modify]
  by_cases same : n = m
  · by_cases inside : m < doc.nodes.size <;> simp [same, inside]
  · simp [same]

theorem node_update_ne (doc : Document κ) {n m : NodeId} (change : Node κ → Node κ)
    (different : n ≠ m) : (doc.update n change).node m = doc.node m := by
  simp [node_update, different]

theorem node_update_self (doc : Document κ) {n : NodeId} (change : Node κ → Node κ)
    (known : n < doc.size) : (doc.update n change).node n = change (doc.node n) := by
  simp [node_update, known]

theorem node_eq_blank_of_size_le (doc : Document κ) {n : NodeId} (unknown : doc.size ≤ n) :
    doc.node n = { tag := "" } := by
  simp only [size] at unknown
  simp [Document.node, Array.getD_eq_getD_getElem?, unknown]

end Document
end ReportCards
