import ReportCards.CommandLine.Arguments
import ReportCards.Markup.Element
import ReportCards.Records
import ReportCards.Widget.Report

namespace ReportCards

def version : String := "0.1.0"

def buildPage (sizing : Sizing) (request : RenderRequest) (records : Records) :
    Edit (Action Empty) NodeId := do
  let row ← Edit.createWithClasses "div" ["row"]
  let spec : ReportSpec :=
    { id := request.id, title := request.title, columns := records.columns }
  let report ← Report.render row spec records.rows sizing
  if 0 < request.page then report.showPage request.page
  return row

def pageMarkup (sizing : Sizing) (request : RenderRequest) (records : Records) :
    Except Error String :=
  match (buildPage sizing request records).run {} with
  | .ok row doc => .ok (doc.outerHtml row)
  | .error error _ => .error error

def windowSummary (sizing : Sizing) (request : WindowRequest) : Json :=
  let window := sizing.window request.count request.index
  let number (n : UInt64) : Json := .integer n.toNat
  .object [
    ("success", .boolean true),
    ("api_version", .string version),
    ("data", .object [
      ("paginated", .boolean (sizing.needsPages request.count)),
      ("page_count", number window.pageCount),
      ("current", number window.current),
      ("start", number window.start),
      ("end", number window.stop),
      ("leading_ellipsis", .boolean window.hidesEarlier),
      ("trailing_ellipsis", .boolean window.hidesLater)])]

end ReportCards
