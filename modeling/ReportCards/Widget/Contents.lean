import ReportCards.Document.Edit

namespace ReportCards.Edit

variable {κ : Type}

def createWithClasses (tag : String) (classes : List String) : Edit κ NodeId := do
  let node ← create tag
  classes.forM (addClass node)
  return node

def releaseHandlers (n : NodeId) : Edit κ Unit := do
  let doc ← get
  (doc.subtree n).preorder.forM clearHandlers

/-- Remove the children, the last one first, and then the text. Handlers in the removed subtrees
are dropped, so a removed node that is used again reacts to nothing. -/
def clearContents (n : NodeId) : Edit κ Unit := do
  let doc ← get
  (doc.children n).reverse.forM fun child => do
    releaseHandlers child
    remove n child
  setText n ""

end ReportCards.Edit
