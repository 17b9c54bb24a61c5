import ReportCards.Document.Walk

namespace ReportCards

inductive TagTest where
  | any
  | named (tag : String)
deriving DecidableEq, Repr

structure AttributeTest where
  name : String
  value : Option String := none
deriving DecidableEq, Repr

structure Compound where
  tag : Option TagTest := none
  id : Option String := none
  classes : List String := []
  attributes : List AttributeTest := []
deriving DecidableEq, Repr, Inhabited

inductive Combinator where
  | descendant
  | child
deriving DecidableEq, Repr

inductive Selector where
  | single (test : Compound)
  | under (outer : Selector) (link : Combinator) (test : Compound)
deriving DecidableEq, Repr

variable {κ : Type}

def TagTest.holds (doc : Document κ) (n : NodeId) : TagTest → Bool
  | any => true
  | named tag => doc.tag n = tag

def AttributeTest.holds (doc : Document κ) (n : NodeId) (test : AttributeTest) : Bool :=
  match test.value, doc.getAttribute n test.name with
  | _, none => false
  | none, some _ => true
  | some expected, some actual => expected = actual

namespace Compound

def isEmpty (compound : Compound) : Bool :=
  compound.tag.isNone && compound.id.isNone && compound.classes.isEmpty
    && compound.attributes.isEmpty

def holds (doc : Document κ) (n : NodeId) (compound : Compound) : Bool :=
  compound.tag.all (·.holds doc n)
    && compound.id.all (fun id => doc.getAttribute n "id" = some id)
    && compound.classes.all (doc.hasClass n)
    && compound.attributes.all (·.holds doc n)

end Compound

namespace Selector

/-- Whether the selector selects the node. Every ancestor is tried for a descendant link, so a
nearer one that leads nowhere does not hide a farther one. -/
def selects (doc : Document κ) : Selector → NodeId → Bool
  | single test, n => test.holds doc n
  | under outer .child test, n => test.holds doc n && (doc.parent n).any (outer.selects doc)
  | under outer .descendant test, n => test.holds doc n && (doc.ancestors n).any (outer.selects doc)

end Selector
end ReportCards
