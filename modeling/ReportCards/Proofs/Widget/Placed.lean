import ReportCards.Proofs.Widget.Coherence

namespace ReportCards
open Document Edit

variable {ν σ : Type} {behaviour : Behaviour ν σ} {doc before after : Document (Action ν)}
  {next : World ν σ} {host : σ} {event : ReportEvent} {pages : ReportPages}

structure PlacedReport (ν : Type) where
  spec : ReportSpec
  rows : List (List String)
  sizing : Sizing
  report : Report ν
  column : NodeId

variable {placed : PlacedReport ν}

inductive ReportStep (behaviour : Behaviour ν σ) (placed : PlacedReport ν) (world : World ν σ) :
    ReportEvent → World ν σ → Prop
  | click {handle : Handle} {link : NodeId} {next : World ν σ}
      (isLink : IsLink world.document placed.report.card.action link)
      (labels : handle.Labels world.document link)
      (settles : Settles behaviour world (.click link (.done ())) next) :
      ReportStep behaviour placed world (.click handle) next
  | showPage {index : UInt64} {document : Document (Action ν)}
      (run : (placed.report.showPage index).run world.document = .ok () document) :
      ReportStep behaviour placed world (.showPage index) { world with document }

namespace PlacedReport

def Agrees (placed : PlacedReport ν) (doc : Document (Action ν)) : Prop :=
  ∀ content ∈ placed.report.content, ∃ page,
    (doc.children content.table.body).map doc.element = (content.table.shownRows page).map rowElement ∧
      ∀ list, doc.selectFirst content.pager.container Pager.listSelector = .ok (some list) →
        Pager.activeIndex doc list = some page

/-- What the report shows in a document. Without rows it has no pages, so that any pages will do. -/
inductive Shows (placed : PlacedReport ν) (doc : Document (Action ν)) (pages : ReportPages) : Prop
  | paged {card : CardNodes} {table : TableNodes} {content : PagedContent ν}
      (column_eq : placed.column = card.column)
      (report_eq : placed.report = { card := card.slots, content := some content })
      (listener : content.pager.listener = .table content.table)
      (report : IsPaged placed.spec content card table doc pages)
  | allGood {card : CardNodes} (column_eq : placed.column = card.column)
      (report_eq : placed.report = { card := card.slots, content := none })
      (report : IsAllGood placed.spec card doc)

def turn (placed : PlacedReport ν) (pages : ReportPages) (event : ReportEvent) : ReportPages :=
  match placed.report.content, event with
  | some content, .click handle =>
      pages.turned content.pager.sizing content.table.rowCount handle
  | some content, .showPage index => .asked content.pager.sizing content.table.rowCount index
  | _, _ => pages

def Offers (placed : PlacedReport ν) (pages : ReportPages) : ReportEvent → Prop
  | .click handle => ∃ content ∈ placed.report.content,
      content.pager.sizing.needsPages content.table.rowCount = true ∧
        handle ∈ (content.pager.sizing.window content.table.rowCount pages.control).handles
  | .showPage _ => True
  | .elsewhere => False

def element (placed : PlacedReport ν) (pages : ReportPages) : Element :=
  match placed.report.content with
  | some content =>
      reportElement placed.spec content.pager.sizing content.table.rowCount
        (content.table.shownRows pages.table)
        (content.pager.sizing.controlPage content.table.rowCount pages.control)
  | none => cardElement placed.spec.id placed.spec.title [noticeElement] []

namespace Shows

theorem kept (shows : placed.Shows before pages) (forest : before.IsForest) (forest' : after.IsForest)
    (same : SameBelow placed.column before after) : placed.Shows after pages := by
  cases shows with
  | paged column_eq report_eq listener report =>
      rw [column_eq] at same
      exact .paged column_eq report_eq listener (report.kept forest forest' same)
  | allGood column_eq report_eq report =>
      rw [column_eq] at same
      exact .allGood column_eq report_eq (report.kept forest forest' same)

variable (shows : placed.Shows doc pages)
include shows

theorem known : placed.column < doc.size := by
  cases shows with
  | paged column_eq report_eq listener report =>
      rw [column_eq]
      exact IsReport.isCard report |>.known List.mem_cons_self
  | allGood column_eq report_eq report =>
      rw [column_eq]
      exact report.isCard.known List.mem_cons_self

variable (forest : doc.IsForest)
include forest

theorem element_eq : doc.element placed.column = placed.element pages := by
  cases shows with
  | paged column_eq report_eq listener report =>
      rw [element, column_eq, report_eq]
      exact IsReport.element_eq report forest
  | allGood column_eq report_eq report =>
      rw [element, column_eq, report_eq]
      exact report.element_eq forest

theorem exists_handle {link : NodeId} (isLink : IsLink doc placed.report.card.action link) :
    ∃ handle : Handle, handle.Labels doc link ∧ placed.Offers pages (.click handle) := by
  cases shows with
  | paged column_eq report_eq listener report =>
      rw [report_eq] at isLink
      obtain ⟨list, item, handle, needs, -, -, member, holds⟩ := report.exists_handle forest isLink
      refine ⟨handle, holds.labels, _, ?_, needs, member⟩
      rw [report_eq]
      rfl
  | @allGood card column_eq report_eq report =>
      have empty : doc.descendants card.action = [] := by
        rw [forest.descendants_eq, report.empty]
        rfl
      obtain ⟨below, -⟩ := isLink
      rw [report_eq] at below
      exact absurd (empty ▸ below) List.not_mem_nil

theorem exists_link {handle : Handle} (offers : placed.Offers pages (.click handle)) :
    ∃ link, IsLink doc placed.report.card.action link ∧ handle.Labels doc link := by
  obtain ⟨content, member, needs, inside⟩ := offers
  cases shows with
  | paged column_eq report_eq listener report =>
      rw [report_eq] at member ⊢
      cases member
      exact report.exists_link forest needs inside
  | allGood column_eq report_eq report =>
      rw [report_eq] at member
      cases member

/-! ## Events -/

variable (silent : ∀ m ∈ doc.path placed.column, doc.handlers m = [])

include silent in
theorem settles_click (behaviour : Behaviour ν σ) {handle : Handle} {link : NodeId}
    (isLink : IsLink doc placed.report.card.action link) (labels : handle.Labels doc link) (host : σ) :
    ∃ after, Settles behaviour { document := doc, host } (.click link (.done ()))
        { document := after, host } ∧
      placed.Shows after (placed.turn pages (.click handle)) ∧
      ChangedWithin (doc.descendants placed.column) doc after := by
  obtain ⟨handle', -, offers⟩ := shows.exists_handle forest isLink
  cases shows with
  | allGood column_eq report_eq report =>
      obtain ⟨content, member, -⟩ := offers
      rw [report_eq] at member
      cases member
  | @paged card table content column_eq report_eq listener report =>
      rw [report_eq] at isLink
      rw [column_eq] at silent ⊢
      have turned : placed.turn pages (.click handle) =
          pages.turned content.pager.sizing content.table.rowCount handle := by
        unfold turn
        rw [report_eq]
      rw [turned]
      by_cases ellipsis : handle = .ellipsis
      · subst ellipsis
        have settles : Settles behaviour { document := doc, host } (.click link (.done ()))
            { document := doc, host } :=
          (report.settles_ellipsis_iff forest isLink labels host _).2 (settles_click_silent silent host)
        exact ⟨doc, settles, .paged column_eq report_eq listener report, .refl _ doc⟩
      · obtain ⟨after, settles, report', changed⟩ :=
          report.settles_handle forest behaviour listener isLink labels ellipsis host
        exact ⟨after, settles, .paged column_eq report_eq listener report', changed⟩

theorem run_showPage (index : UInt64) :
    ∃ after, (placed.report.showPage index).run doc = .ok () after ∧
      placed.Shows after (placed.turn pages (.showPage index)) ∧
      ChangedWithin (doc.descendants placed.column) doc after := by
  cases shows with
  | allGood column_eq report_eq report =>
      refine ⟨doc, ?_, .allGood column_eq report_eq report, .refl _ doc⟩
      rw [report_eq]
      rfl
  | @paged card table content column_eq report_eq listener report =>
      obtain ⟨after, run, report', changed⟩ := report.showPage forest card.slots index
      have turned : placed.turn pages (.showPage index) =
          .asked content.pager.sizing content.table.rowCount index := by
        unfold turn
        rw [report_eq]
      rw [turned, report_eq, column_eq]
      exact ⟨after, run, .paged column_eq report_eq listener report', changed⟩

include silent

/-- All that an event can do: it is one that the pages of the report offer, it turns these pages, and it
stays inside of the card. -/
theorem after_step (step : ReportStep behaviour placed { document := doc, host } event next) :
    placed.Offers pages event ∧ ∃ after, next = { document := after, host } ∧ after.IsForest ∧
      placed.Shows after (placed.turn pages event) ∧
      ChangedWithin (doc.descendants placed.column) doc after := by
  cases step with
  | click isLink labels settles =>
      obtain ⟨handle, labels', offers⟩ := shows.exists_handle forest isLink
      cases labels.unique labels'
      obtain ⟨after, settles', shows', changed⟩ :=
        shows.settles_click forest silent behaviour isLink labels host
      have forest' : after.IsForest := forest.of_changes settles'.changes
      exact ⟨offers, after, settles.unique settles', forest', shows', changed⟩
  | showPage run =>
      obtain ⟨after, run', shows', changed⟩ := shows.run_showPage forest _
      rw [run] at run'
      cases run'
      exact ⟨trivial, _, rfl, isForest_of_run forest run, shows', changed⟩

theorem exists_step (behaviour : Behaviour ν σ) (offers : placed.Offers pages event) (host : σ) :
    ∃ next, ReportStep behaviour placed { document := doc, host } event next := by
  cases event with
  | click handle =>
      obtain ⟨link, isLink, labels⟩ := shows.exists_link forest offers
      obtain ⟨after, settles, -⟩ := shows.settles_click forest silent behaviour isLink labels host
      exact ⟨_, .click isLink labels settles⟩
  | showPage index =>
      obtain ⟨after, run, -⟩ := shows.run_showPage forest index
      exact ⟨_, .showPage run⟩
  | elsewhere => cases offers

end Shows

theorem Agrees.of_shows (agrees : placed.Agrees before) (shows : placed.Shows before pages)
    (shows' : placed.Shows after pages) (forest : before.IsForest) (forest' : after.IsForest) :
    placed.Agrees after := by
  intro content member
  obtain ⟨page, rows, active⟩ := agrees content member
  cases shows with
  | allGood column_eq report_eq report =>
      rw [report_eq] at member
      cases member
  | paged column_eq report_eq listener report =>
      cases shows' with
      | allGood column_eq' report_eq' report' =>
          rw [report_eq'] at member
          cases member
      | paged column_eq' report_eq' listener' report' =>
          have same := congrArg Report.content (report_eq.symm.trans report_eq')
          cases same
          rw [report_eq] at member
          cases member
          refine ⟨page, ?_, fun list found => ?_⟩
          · rw [report'.rows, ← report.rows, rows]
          · obtain ⟨needs, activeIndex⟩ := report'.activeIndex_eq forest' found
            obtain ⟨list', found'⟩ := report.exists_list needs
            rw [activeIndex, ← (report.activeIndex_eq forest found').2]
            exact active list' found'

end PlacedReport

end ReportCards
