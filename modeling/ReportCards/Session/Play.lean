import ReportCards.Json.Reader
import ReportCards.Session.State

/-!
# Playing a session

Every step is a program, so it runs in the same way on its own and inside a click. A reaction notes
its label and then the answer of each of its steps; a step that fails does not end it.
-/
namespace ReportCards

abbrev Attempt := ExceptT StepError (Program Reaction Session)

namespace Attempt

def look : Attempt (World Reaction Session) :=
  ExceptT.lift Program.look

def document : Attempt (Document (Action Reaction)) := do
  return (← look).document

def session : Attempt Session := do
  return (← look).host

def setSession (session : Session) : Attempt Unit :=
  ExceptT.lift (.setHost session (.done ()))

def perform {α : Type} (operation : Operation Reaction α) : Attempt α :=
  ExceptT.mk (.perform operation fun
    | .ok result => .done (.ok result)
    | .error error => .done (.error (.failed error)))

def click (n : NodeId) : Attempt Unit := do
  let before ← session
  setSession { before with clicks := (← document).path n :: before.clicks }
  ExceptT.lift (.click n (.done ()))
  setSession { ← session with clicks := before.clicks }

def node (name : String) : Attempt NodeId := do
  match (← session).nodes.lookup name with
  | some n => return n
  | none => throw (.unknownName name)

def pager (name : String) : Attempt (Pager Reaction) := do
  match (← session).pagers.lookup name with
  | some pager => return pager
  | none => throw (.unknownName name)

def report (name : String) : Attempt (Report Reaction) := do
  match (← session).reports.lookup name with
  | some report => return report
  | none => throw (.unknownName name)

def give (name : Option String) (n : NodeId) : Attempt Unit := do
  match name with
  | none => return ()
  | some name =>
      let session ← session
      setSession { session.meet [n] with nodes := session.nodes.give name n }

def place (n : NodeId) : Attempt String := do
  let session ← session
  let doc ← document
  setSession (session.meet (doc.path n))
  return session.place doc n

def outerHtml (n : NodeId) : Attempt Answer := do
  return .text ((← document).outerHtml n)

mutual
def buildTree : TreeSpec → Attempt NodeId
  | { tag, name, id, classes, attributes, text, children } => do
      let n ← perform (.create tag)
      give name n
      match id with
      | some id => perform (.setId n id)
      | none => pure ()
      classes.forM fun name => perform (.addClass n name)
      attributes.forM fun (name, value) => perform (.setAttribute n name value)
      match text with
      | some text => perform (.setText n text)
      | none => pure ()
      buildChildren n children
      return n

def buildChildren (parent : NodeId) : List TreeSpec → Attempt Unit
  | [] => return ()
  | spec :: rest => do
      let child ← buildTree spec
      perform (.append parent child)
      buildChildren parent rest
end

def buildChain (tag : String) : (depth : Nat) → NodeId → Attempt NodeId
  | 0, n => return n
  | depth + 1, n => do
      let child ← perform (.create tag)
      perform (.append n child)
      buildChain tag depth child

def records (source : RecordSource) : Attempt Records :=
  match source with
  | .rows columns rows => return { columns, rows }
  | .json text columns =>
      match Json.read text with
      | none => throw .invalidJson
      | some value =>
          match Records.ofJson value columns with
          | .ok records => return records
          | .error error => throw (.failed error)

def summary (n : NodeId) : Attempt NodeSummary := do
  let doc ← document
  return {
    tag := doc.tag n
    text := doc.text n
    ownText := doc.ownText n
    classes := doc.classes n
    attributes := doc.attributes n
    childCount := (doc.children n).length
    handlerCount := (doc.handlers n).length
    place := ← place n
    parent := ← (doc.parent n).mapM place
    first := ← (doc.children n).head?.mapM place
    last := ← (doc.children n).getLast?.mapM place }

def answerControl (list : Option NodeId) (name : Option String) : Attempt Answer := do
  match list with
  | none => return .optionalText none
  | some list =>
      give name list
      outerHtml list

def giveAll (name : String) : (index : Nat) → List NodeId → Attempt Unit
  | _, [] => return ()
  | index, n :: rest => do
      give (some (name ++ "." ++ Decimal.ofNat index)) n
      giveAll name (index + 1) rest

end Attempt

open Attempt in
def Step.attempt : Step → Attempt Answer
  | create tag name => do
      let n ← perform (.create tag)
      give name n
      Attempt.outerHtml n
  | buildTree spec => do Attempt.outerHtml (← Attempt.buildTree spec)
  | buildChain tag depth name => do
      let top ← perform (.create tag)
      let leaf ← Attempt.buildChain tag (depth - 1) top
      give (some name) top
      give (some (name ++ ".leaf")) leaf
      return .nothing
  | setText name content => do
      let n ← node name
      perform (.setText n content)
      Attempt.outerHtml n
  | setId name id => do
      let n ← node name
      perform (.setId n id)
      Attempt.outerHtml n
  | addClass name class_ => do
      let n ← node name
      perform (.addClass n class_)
      Attempt.outerHtml n
  | setAttribute name attribute_ value => do
      let n ← node name
      perform (.setAttribute n attribute_ value)
      Attempt.outerHtml n
  | append outer inner => do
      let outer ← node outer
      let inner ← node inner
      perform (.append outer inner)
      Attempt.outerHtml outer
  | remove outer inner => do
      let outer ← node outer
      let inner ← node inner
      perform (.remove outer inner)
      Attempt.outerHtml outer
  | outerHtml name => do Attempt.outerHtml (← node name)
  | innerHtml name => do return .text ((← document).innerHtml (← node name))
  | text name => do return .text ((← document).text (← node name))
  | describe name => do return .text ((← document).describe (← node name))
  | getAttribute name attribute_ => do
      return .optionalText ((← document).getAttribute (← node name) attribute_)
  | hasClass name class_ => do return .flag ((← document).hasClass (← node name) class_)
  | children name => do
      let n ← node name
      return .texts (← ((← document).children n).mapM place)
  | parent name as => do
      match (← document).parent (← node name) with
      | none => return .optionalText none
      | some found =>
          give as found
          return .text (← place found)
  | inspect name => do return .node (← summary (← node name))
  | contains ancestor name => do
      let ancestor ← node ancestor
      let n ← node name
      return .flag ((← document).contains ancestor n)
  | same first second => do
      let first ← node first
      let second ← node second
      return .flag (first = second)
  | selectFirst name selector as => do
      match (← document).selectFirst (← node name) selector with
      | .error error => throw (.failed error)
      | .ok none => return .optionalText none
      | .ok (some found) =>
          give as found
          return .text (← place found)
  | selectAll name selector as => do
      match (← document).selectAll (← node name) selector with
      | .error error => throw (.failed error)
      | .ok found =>
          match as with
          | some as => giveAll as 0 found
          | none => pure ()
          return .texts (← found.mapM place)
  | onClick name label reaction => do
      let n ← node name
      perform (.onClick n (.custom { label, steps := reaction }))
      return .count ((← document).handlers n).length
  | stop => ExceptT.lift (.stop (.done .nothing))
  | clearHandlers name => do
      let n ← node name
      perform (.clearHandlers n)
      return .count ((← document).handlers n).length
  | countHandlers name => do return .count ((← document).handlers (← node name)).length
  | click name => do
      Attempt.click (← node name)
      return .nothing
  | card container id title name => do
      let container ← node container
      let built ← perform (.createCard container id title)
      give (name.map (· ++ ".content")) built.content
      give (name.map (· ++ ".action")) built.action
      Attempt.outerHtml container
  | table container columns name => do
      let container ← node container
      give name (← perform (.createTable container columns))
      Attempt.outerHtml container
  | cell target value name => do
      let target ← node target
      give name (← perform (.addCell target value))
      Attempt.outerHtml target
  | row body values name => do
      let body ← node body
      give name (← perform (.addRow body values))
      Attempt.outerHtml body
  | blankRows body count columns => do
      let body ← node body
      perform (.addBlankRows body count columns)
      Attempt.outerHtml body
  | allGood container name => do
      let container ← node container
      give name (← perform (.showAllGood container))
      Attempt.outerHtml container
  | clearContents name => do
      let n ← node name
      perform (.clearContents n)
      Attempt.outerHtml n
  | pager container sizing label reaction name => do
      let container ← node container
      let built : Pager Reaction :=
        { container, sizing, listener := .custom { label, steps := reaction } }
      match name with
      | some name =>
          let session ← session
          setSession { session with pagers := session.pagers.give name built }
      | none => pure ()
      return .sizes sizing
  | renderPager pagerName count index name => do
      let found ← Attempt.pager pagerName
      answerControl (← perform (.renderPager found count index)) name
  | renderOnce container count index label reaction name => do
      let container ← node container
      let built : Pager Reaction :=
        { container, sizing := {}, listener := .custom { label, steps := reaction } }
      answerControl (← perform (.renderPager built count index)) name
  | report container id title sizing source name => do
      let records ← records source
      let container ← node container
      let spec : ReportSpec := { id, title, columns := records.columns }
      let built ← perform (.renderReport container spec records.rows sizing)
      give (name.map (· ++ ".content")) built.card.content
      give (name.map (· ++ ".action")) built.card.action
      match built.content with
      | some content => give (name.map (· ++ ".body")) content.table.body
      | none => pure ()
      match name with
      | some name =>
          let session ← session
          setSession { session with reports := session.reports.give name built }
      | none => pure ()
      Attempt.outerHtml container
  | showReportPage name index => do
      let found ← Attempt.report name
      perform (.showReportPage found index)
      let doc ← document
      return .texts [doc.innerHtml found.card.content, doc.innerHtml found.card.action]
  | showTablePage name index => do
      let found ← Attempt.report name
      match found.content with
      | none => return .optionalText none
      | some content =>
          perform (.showTablePage content.table index)
          Attempt.outerHtml content.table.body
  | reportSummary name => do
      let found ← Attempt.report name
      return .report found.isAllGood (found.content.map (·.table.rowCount))

namespace Session

def note (entry : LogEntry) : Program Reaction Session Unit :=
  .observe fun world =>
    .setHost { world.host with log := world.host.log.push entry } (.done ())

/-- Cut off the nodes that are below nothing that the session holds. -/
def giveUp : Program Reaction Session Unit :=
  .observe fun world =>
    (world.host.strays world.document).forM fun (parent, n) =>
      .perform (.remove parent n) fun _ => .done ()

def playStep (step : Step) : Program Reaction Session Unit :=
  step.attempt.run.bind fun result => giveUp.bind fun _ => note (.answer result)

def playSteps : List Step → Program Reaction Session Unit
  | [] => .done ()
  | .stop :: rest => .stop (playSteps rest)
  | step :: rest => (playStep step).bind fun _ => playSteps rest

def playReaction (label : String) (steps : List Step) : Program Reaction Session Unit :=
  (note (.label label)).bind fun _ => playSteps steps

def behaviour : Behaviour Reaction Session where
  onClick reaction := playReaction reaction.label reaction.steps
  onChange reaction index :=
    playReaction (reaction.label ++ ":" ++ Decimal.ofWord index) reaction.steps

def greatestMoves : Nat := 100000000

def play (world : World Reaction Session) (step : Step) :
    Except StepError Answer × List LogEntry × World Reaction Session :=
  let fresh := { world with host := { world.host with log := #[] } }
  let machine := (Machine.start fresh (playStep step)).run behaviour greatestMoves
  let world := machine.world
  match machine.isIdle, world.host.log.back? with
  | true, some (.answer result) => (result, world.host.log.pop.toList, world)
  | _, _ => (.error .unfinished, world.host.log.toList, world)

end Session
end ReportCards
