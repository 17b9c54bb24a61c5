import ReportCards.Widget.Contents

/-!
# Cards

A card is a column of the page with a title, a place for content and one slot in its bar of
actions:

```text
div#id.col… > div.card > h3.card-title
                       > div.card-content
                       > ul.card-actions.float-left > li
```
-/
namespace ReportCards

structure Card where
  content : NodeId
  action : NodeId
deriving DecidableEq, Repr

def columnClasses : List String :=
  ["col", "col-sm-12", "col-md-12", "col-lg-6", "col-xl-3"]

open Edit

variable {κ : Type}

def createCard (container : NodeId) (id title : String) : Edit κ Card := do
  let column ← createWithClasses "div" columnClasses
  setId column id
  let card ← createWithClasses "div" ["card"]
  let header ← createWithClasses "h3" ["card-title"]
  setText header title
  let content ← createWithClasses "div" ["card-content"]
  let actions ← createWithClasses "ul" ["card-actions", "float-left"]
  let action ← create "li"
  append actions action
  append card header
  append card content
  append card actions
  append column card
  append container column
  return { content, action }

end ReportCards
