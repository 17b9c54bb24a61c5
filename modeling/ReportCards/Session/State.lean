import ReportCards.Click.Machine
import ReportCards.Session.Step
import Std.Data.HashSet

/-!
# Names and places

The state of a session is a table of names and a log. A name that is given again to another node
keeps its position in the table, which decides what a node with several names is called.

The place of a node is the name of its root followed by the positions that lead from there to the
node, such as `page/0/2`.

A session holds on to the nodes that it has met: those that it named and those on the way to a place
that it told. Whatever is below such a node stays as well. All other nodes are given up, so a node
that was met becomes a root when it is only below nodes that were not.
-/
namespace ReportCards

abbrev Names (α : Type) := List (String × α)

def Names.give {α : Type} (name : String) (value : α) : Names α → Names α
  | [] => [(name, value)]
  | (other, old) :: rest =>
      if other = name then (name, value) :: rest else (other, old) :: give name value rest

structure Session where
  nodes : Names NodeId := []
  pagers : Names (Pager Reaction) := []
  reports : Names (Report Reaction) := []
  met : Std.HashSet NodeId := {}
  clicks : List (List NodeId) := []
  log : Array LogEntry := #[]

namespace Session

variable {κ : Type}

def nameOf (session : Session) (n : NodeId) : String :=
  match session.nodes.find? (·.2 = n) with
  | some (name, _) => name
  | none => "?"

/-- The positions that lead along a path, from its last node to its first. -/
def positions (doc : Document κ) : List NodeId → List Nat
  | child :: parent :: rest =>
      positions doc (parent :: rest) ++ [(doc.children parent).idxOf child]
  | _ => []

def place (session : Session) (doc : Document κ) (n : NodeId) : String :=
  let path := doc.path n
  let root := path.getLast?.getD n
  (positions doc path).foldl (fun place index => place ++ "/" ++ Decimal.ofNat index)
    (session.nameOf root)

def meet (session : Session) (nodes : List NodeId) : Session :=
  { session with met := nodes.foldl Std.HashSet.insert session.met }

def holds (session : Session) (n : NodeId) : Bool :=
  session.met.contains n || session.clicks.any fun path => path.contains n

def strays (session : Session) (doc : Document κ) : List (NodeId × NodeId) :=
  session.met.toList.filterMap fun n =>
    match doc.parent n with
    | none => none
    | some parent =>
        if session.holds parent || (doc.ancestors parent).any session.holds then none
        else some (parent, n)

def roots (session : Session) (doc : Document κ) : List (String × String) :=
  (session.nodes.filter fun (_, n) => (doc.parent n).isNone).map fun (name, n) =>
    (name, doc.outerHtml n)

end Session

def Document.describe {κ : Type} (doc : Document κ) (n : NodeId) : String :=
  let attributes := (doc.attributes n).map fun (name, value) =>
    "(" ++ Text.quoted name ++ ", " ++ Text.quoted value ++ ")"
  "MemoryNode \x7b tag: " ++ Text.quoted (doc.tag n)
    ++ ", classes: [" ++ ", ".intercalate ((doc.classes n).map Text.quoted)
    ++ "], attributes: [" ++ ", ".intercalate attributes
    ++ "], children: " ++ Decimal.ofNat (doc.children n).length ++ " \x7d"

end ReportCards
