import ReportCards.Widget.Contents

namespace ReportCards

open Edit

variable {κ : Type}

def allGoodMessage : String := "All good"

def showAllGood (container : NodeId) : Edit κ NodeId := do
  clearContents container
  let message ← createWithClasses "p" ["alert", "alert-success"]
  setText message allGoodMessage
  append container message
  return message

end ReportCards
