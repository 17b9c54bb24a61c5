import ReportCards.Document.Walk
import ReportCards.Error

namespace ReportCards

abbrev Edit (κ : Type) := EStateM Error (Document κ)

def isTagName (text : String) : Bool :=
  text ≠ "" && text.toList.all fun c => c.isAlphanum || c = '-'

def isClassName (text : String) : Bool :=
  text ≠ "" && text.toList.all fun c => !Text.isBlank c

def isAttributeName (text : String) : Bool :=
  text ≠ "" && text.toList.all fun c => !Text.isBlank c && c ≠ '=' && c ≠ '"'

def lowerCase (text : String) : String :=
  String.ofList (text.toList.map Char.toLower)

def assignAttribute (name value : String) : List (String × String) → List (String × String)
  | [] => [(name, value)]
  | (key, old) :: rest =>
      if key = name then (name, value) :: rest
      else (key, old) :: assignAttribute name value rest

namespace Node

variable {κ : Type}

def addClass (node : Node κ) (name : String) : Node κ :=
  if node.classes.contains name then node
  else { node with classes := node.classes ++ [name] }

def setAttribute (node : Node κ) (name value : String) : Node κ :=
  if name = "class" then
    { node with classes := (Text.words value.toList).map String.ofList }
  else { node with attributes := assignAttribute name value node.attributes }

end Node

namespace Document

variable {κ : Type}

def detach (doc : Document κ) (child : NodeId) : Document κ :=
  let cut :=
    match doc.parent child with
    | some parent =>
        doc.update parent fun node =>
          { node with children := node.children.filter (· ≠ child) }
    | none => doc
  cut.update child fun node => { node with parent := none }

def attach (doc : Document κ) (parent child : NodeId) : Document κ :=
  (doc.update child fun node => { node with parent := some parent }).update parent fun node =>
    { node with children := node.children ++ [child] }

end Document

namespace Edit

variable {κ : Type}

def create (tag : String) : Edit κ NodeId := do
  if isTagName tag then
    let doc ← get
    set (doc.insert { tag := lowerCase tag })
    return doc.size
  else throw (.document (.invalidTag tag))

def modifyNode (n : NodeId) (change : Node κ → Node κ) : Edit κ Unit :=
  modify fun doc => doc.update n change

def setText (n : NodeId) (text : String) : Edit κ Unit := do
  modify fun doc => (doc.children n).foldl Document.detach doc
  modifyNode n fun node => { node with text }

def addClass (n : NodeId) (name : String) : Edit κ Unit :=
  if isClassName name then modifyNode n fun node => node.addClass name
  else throw (.document (.invalidClass name))

def setAttribute (n : NodeId) (name value : String) : Edit κ Unit :=
  if isAttributeName name then modifyNode n fun node => node.setAttribute name value
  else throw (.document (.invalidAttributeName name))

def setId (n : NodeId) (id : String) : Edit κ Unit :=
  setAttribute n "id" id

/-- Make `child` the last child of `parent`, wherever it was before. -/
def append (parent child : NodeId) : Edit κ Unit := do
  let doc ← get
  if doc.size ≤ parent ∨ doc.size ≤ child then throw (.document .unknownNode)
  else if doc.contains child parent then throw (.document .appendIntoItself)
  else set ((doc.detach child).attach parent child)

def remove (parent child : NodeId) : Edit κ Unit := do
  let doc ← get
  if doc.parent child = some parent then set (doc.detach child)
  else throw (.document .notAChild)

def onClick (n : NodeId) (action : κ) : Edit κ Unit := do
  let doc ← get
  let handler : Handler κ := { serial := doc.registered, action }
  set { doc with registered := doc.registered + 1 }
  modifyNode n fun node => { node with handlers := node.handlers ++ [handler] }

def clearHandlers (n : NodeId) : Edit κ Unit :=
  modifyNode n fun node => { node with handlers := [] }

end Edit
end ReportCards
