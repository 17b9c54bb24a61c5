import ReportCards.Proofs.Widget.Pages

namespace ReportCards
open Document Edit Relation

variable {ν σ : Type} {behaviour : Behaviour ν σ} {spec : ReportSpec} {rows : List (List String)}
  {sizing : Sizing} {content : PagedContent ν} {card : CardNodes} {table : TableNodes}
  {current count : UInt64} {pager : Pager ν} {control : Option UInt64} {handle : Handle}
  {container link : Nat} {doc after : Document (Action ν)} {world next : World ν σ}

/-! ## Events -/

inductive ReportEvent where
  | click (handle : Handle)
  | showPage (index : UInt64)
  | elsewhere
deriving DecidableEq, Repr

def ReportEvent.turn (pageCount current : Nat) : ReportEvent → Nat
  | click handle => handle.turn pageCount current
  | showPage index => min index.toNat (pageCount - 1)
  | elsewhere => current

/-- Events, one after the other. Every clicked link is in the control when it is clicked. An ellipsis
does not stop a click, so the handlers of other code are called; they must keep out of the card. -/
inductive ReportRun (behaviour : Behaviour ν σ) (report : Report ν) (column : NodeId)
    (first : World ν σ) : List ReportEvent → World ν σ → Prop
  | start : ReportRun behaviour report column first [] first
  | click {events : List ReportEvent} {handle : Handle} {world next : World ν σ} {link : NodeId}
      (before : ReportRun behaviour report column first events world)
      (isLink : IsLink world.document report.card.action link)
      (labels : handle.Labels world.document link)
      (settles : Settles behaviour world (.click link (.done ())) next)
      (outside : handle = .ellipsis → ∀ next, Settles behaviour world (.click column (.done ())) next →
        SameBelow column world.document next.document) :
      ReportRun behaviour report column first (events ++ [.click handle]) next
  | showPage {events : List ReportEvent} {world : World ν σ} {index : UInt64}
      {document : Document (Action ν)}
      (before : ReportRun behaviour report column first events world)
      (run : (report.showPage index).run world.document = .ok () document) :
      ReportRun behaviour report column first (events ++ [.showPage index]) { world with document }
  | elsewhere {events : List ReportEvent} {world next : World ν σ}
      (before : ReportRun behaviour report column first events world)
      (changes : ReflTransGen Change world.document next.document)
      (same : SameBelow column world.document next.document) :
      ReportRun behaviour report column first (events ++ [.elsewhere]) next

/-! ## One event -/

structure ReportState (spec : ReportSpec) (content : PagedContent ν) (card : CardNodes)
    (table : TableNodes) (doc : Document (Action ν)) (current : UInt64) : Prop where
  forest : doc.IsForest
  report : IsReport spec content card table doc (content.table.shownRows current)
    (content.pager.sizing.controlPage content.table.rowCount current)
  inside : current.toNat < (content.pager.sizing.pageCount content.table.rowCount).toNat

namespace ReportState

variable (state : ReportState spec content card table doc current)
include state

theorem isPaged : IsPaged spec content card table doc { table := current, control := current } :=
  state.report

theorem settles_handle (valid : content.pager.sizing.validate = .ok ())
    (fits : content.pager.sizing.Fits content.table.rowCount)
    (listener : content.pager.listener = .table content.table)
    (isLink : IsLink doc card.action link) (labels : handle.Labels doc link)
    (turns : handle ≠ .ellipsis) (host : σ) :
    ∃ after current', Settles behaviour { document := doc, host } (.click link (.done ()))
        { document := after, host } ∧
      current'.toNat = handle.turn (content.pager.sizing.pageCount content.table.rowCount).toNat
        current.toNat ∧
      ReportState spec content card table after current' := by
  obtain ⟨forest, -, inside⟩ := id state
  obtain ⟨after, settles, report, -⟩ :=
    state.isPaged.settles_handle forest behaviour listener isLink labels turns host
  have forest' := forest.of_changes settles.changes
  obtain ⟨list, item, handle', -, -, -, member, holds⟩ := state.isPaged.exists_handle forest isLink
  cases holds.labels.unique labels
  have leads := toNat_leads? valid fits inside handle
  rw [ReportPages.turned] at report
  cases reached : handle.leads? (content.pager.sizing.window content.table.rowCount current) with
  | none =>
      rw [reached] at leads report
      exact ⟨after, current, settles, by rw [Handle.turn, ← leads]; rfl, forest', report, inside⟩
  | some index =>
      rw [reached, Option.map_some] at leads
      have less := destination_lt valid fits inside member leads.symm
      rw [reached] at report
      have same : content.pager.sizing.clamp content.table.rowCount index = index := Sizing.clamp_of_lt less
      simp only [same] at report
      exact ⟨after, index, settles, by rw [Handle.turn, ← leads]; rfl, forest', report, less⟩

end ReportState

/-! ## Runs -/

theorem IsPaged.after_run (listener : content.pager.listener = .table content.table)
    {first : World ν σ} {pages : ReportPages} {events : List ReportEvent}
    (report : IsPaged spec content card table first.document pages) (forest : first.document.IsForest)
    (run : ReportRun behaviour { card := card.slots, content := some content } card.column first
      events world) :
    world.document.IsForest ∧ ∃ pages', IsPaged spec content card table world.document pages' := by
  induction run with
  | start => exact ⟨forest, pages, report⟩
  | @click events handle world next link _ isLink labels settles outside ih =>
      obtain ⟨forest', pages', report'⟩ := ih
      obtain ⟨document, host⟩ := world
      have forest'' := forest'.of_changes settles.changes
      by_cases ellipsis : handle = .ellipsis
      · subst ellipsis
        have same := outside rfl next
          ((report'.settles_ellipsis_iff forest' isLink labels host next).1 settles)
        exact ⟨forest'', pages', report'.kept forest' forest'' same⟩
      · obtain ⟨after, settles', report'', -⟩ :=
          report'.settles_handle forest' behaviour listener isLink labels ellipsis host
        rw [settles.unique settles'] at forest'' ⊢
        exact ⟨forest'', _, report''⟩
  | @showPage events world index document _ run ih =>
      obtain ⟨forest', pages', report'⟩ := ih
      obtain ⟨after, run', report'', -⟩ := report'.showPage forest' card.slots index
      rw [run] at run'
      cases run'
      exact ⟨isForest_of_run forest' run, _, report''⟩
  | elsewhere _ changes same ih =>
      obtain ⟨forest', pages', report'⟩ := ih
      have forest'' := forest'.of_changes changes
      exact ⟨forest'', pages', report'.kept forest' forest'' same⟩

namespace ReportState

theorem after_run (valid : content.pager.sizing.validate = .ok ())
    (fits : content.pager.sizing.Fits content.table.rowCount)
    (listener : content.pager.listener = .table content.table) {first : World ν σ}
    (state : ReportState spec content card table first.document current) {events : List ReportEvent}
    (run : ReportRun behaviour { card := card.slots, content := some content } card.column first
      events world) :
    ∃ current' : UInt64,
      current'.toNat = events.foldl (ReportEvent.turn
        (content.pager.sizing.pageCount content.table.rowCount).toNat) current.toNat ∧
      ReportState spec content card table world.document current' := by
  induction run with
  | start => exact ⟨current, rfl, state⟩
  | @click events handle world next link _ isLink labels settles outside ih =>
      obtain ⟨current', folded, state'⟩ := ih
      obtain ⟨document, host⟩ := world
      rw [List.foldl_append, ← folded]
      by_cases ellipsis : handle = .ellipsis
      · subst ellipsis
        have settles' :=
          (state'.isPaged.settles_ellipsis_iff state'.forest isLink labels host next).1 settles
        have same := outside rfl next settles'
        have forest' := state'.forest.of_changes settles.changes
        exact ⟨current', rfl, forest', state'.report.kept state'.forest forest' same, state'.inside⟩
      · obtain ⟨after, current'', settles', turned, state''⟩ :=
          state'.settles_handle valid fits listener isLink labels ellipsis host
        rw [settles.unique settles']
        exact ⟨current'', turned, state''⟩
  | @showPage events world index document _ run ih =>
      obtain ⟨current', folded, state'⟩ := ih
      obtain ⟨after, run', report', -⟩ := state'.isPaged.showPage state'.forest card.slots index
      rw [run] at run'
      cases run'
      rw [List.foldl_append, ← folded]
      refine ⟨content.pager.sizing.clamp content.table.rowCount index, ?_,
        isForest_of_run state'.forest run, report', ?_⟩
      · exact Sizing.toNat_clamp ..
      · exact Sizing.clamp_lt (Nat.lt_of_le_of_lt (Nat.zero_le _) state'.inside) index
  | elsewhere _ changes same ih =>
      obtain ⟨current', folded, state'⟩ := ih
      rw [List.foldl_append, ← folded]
      have forest' := state'.forest.of_changes changes
      exact ⟨current', rfl, forest', state'.report.kept state'.forest forest' same, state'.inside⟩

end ReportState

/-! ## Views -/

/-- What there is to see of a report on a page, and what can be done next. -/
structure ReportView (behaviour : Behaviour ν σ) (spec : ReportSpec) (rows : List (List String))
    (sizing : Sizing) (report : Report ν) (column body : NodeId) (world : World ν σ)
    (current : UInt64) : Prop where
  element : world.document.element column = spec.element rows sizing current
  body : (world.document.children body).map world.document.element =
    (spec.shownRows rows sizing current).map rowElement
  control : if sizing.pageSize.toNat < rows.length then
      ∃ list active, world.document.children report.card.action = [list] ∧
        world.document.selectFirst report.card.action Pager.listSelector = .ok (some list) ∧
        world.document.selectAll list Pager.activeSelector = .ok [active] ∧
        world.document.getAttribute active Pager.indexAttribute = some (Decimal.ofWord current)
    else world.document.children report.card.action = []
  showPage : ∀ index, ∃ document, (report.showPage index).run world.document = .ok () document
  click : ∀ link, IsLink world.document report.card.action link →
    ∃ handle : Handle, handle.Labels world.document link ∧
      (handle ≠ .ellipsis → ∃ next, Settles behaviour world (.click link (.done ())) next) ∧
      (handle = .ellipsis → ∀ next, Settles behaviour world (.click link (.done ())) next ↔
        Settles behaviour world (.click column (.done ())) next)

section

variable (valid : sizing.validate = .ok ()) (small : rows.length < 2 ^ 63)
include small

theorem toNat_rowCount : (UInt64.ofNat rows.length).toNat = rows.length :=
  UInt64.toNat_ofNat_of_lt' (Nat.lt_trans small (by decide))

theorem needsPages_rows_iff : sizing.needsPages (UInt64.ofNat rows.length) = true ↔
    sizing.pageSize.toNat < rows.length := by
  rw [Sizing.needsPages_iff, UInt64.lt_iff_toNat_lt, toNat_rowCount small]

include valid

theorem fits_rows : sizing.Fits (UInt64.ofNat rows.length) :=
  Sizing.fits_of_lt valid (by rwa [toNat_rowCount small])

theorem ReportState.view (state : ReportState spec (spec.pagedContent rows sizing card.slots table.body)
    card table world.document current) :
    ReportView behaviour spec rows sizing
      { card := card.slots, content := some (spec.pagedContent rows sizing card.slots table.body) }
      card.column table.body world current := by
  have fits := fits_rows valid small
  obtain ⟨forest, report, inside⟩ := id state
  refine ⟨report.element_eq forest, report.rows, ?_, fun index => ?_, fun link isLink => ?_⟩
  · have needs_iff : sizing.needsPages (UInt64.ofNat rows.length) = true ↔
        sizing.pageSize.toNat < rows.length := needsPages_rows_iff small
    have holds : HoldsControl (spec.pagedContent rows sizing card.slots table.body).pager
        (UInt64.ofNat rows.length) world.document
        (sizing.controlPage (UInt64.ofNat rows.length) current) := report.holds
    rw [Sizing.controlPage] at holds
    split
    · rename_i more
      rw [if_pos (needs_iff.2 more)] at holds
      obtain ⟨list, only, node, shows⟩ := holds
      obtain ⟨active, selected, indexed⟩ := exists_active valid fits shows forest inside
      exact ⟨list, active, only, shows.found, selected, indexed⟩
    · rename_i few
      rw [if_neg (mt needs_iff.1 few)] at holds
      exact holds
  · obtain ⟨document, run, -⟩ := state.isPaged.showPage forest card.slots index
    exact ⟨document, run⟩
  · obtain ⟨list, item, handle, -, -, -, -, holds⟩ := state.isPaged.exists_handle forest isLink
    obtain ⟨document, host⟩ := world
    refine ⟨handle, holds.labels, fun turns => ?_, fun ellipsis next => ?_⟩
    · obtain ⟨after, -, settles, -⟩ :=
        state.settles_handle valid fits rfl isLink holds.labels turns host
      exact ⟨_, settles⟩
    · subst ellipsis
      exact state.isPaged.settles_ellipsis_iff forest isLink holds.labels host next

end

theorem run_renderReport_showPage (valid : sizing.validate = .ok ()) (nonempty : rows ≠ [])
    (forest : doc.IsForest) (known : container < doc.size) (spec : ReportSpec) {index : UInt64}
    (inside : index.toNat < (sizing.pageCount (UInt64.ofNat rows.length)).toNat) :
    ∃ (report : Report ν) (column : NodeId) (first second : Document (Action ν)),
      (Report.render container spec rows sizing).run doc = .ok report first ∧
      first.children container = doc.children container ++ [column] ∧
      (report.showPage index).run first = .ok () second ∧
      first.element column = spec.element rows sizing 0 ∧
      second.element column = spec.element rows sizing index := by
  obtain ⟨card, table, first, rendered, added, report⟩ :=
    run_renderReport forest known spec nonempty valid
  have forest' : first.IsForest := isForest_of_run forest rendered
  obtain ⟨second, run, report', -⟩ := report.showPage forest'
    (fun unneeded => Sizing.controlPage_of_not_needs unneeded _) card.slots index
  have forest'' : second.IsForest := isForest_of_run forest' run
  have same : sizing.clamp (UInt64.ofNat rows.length) index = index := Sizing.clamp_of_lt inside
  refine ⟨_, card.column, first, second, rendered, added, run, report.element_eq forest', ?_⟩
  rw [← same]
  exact report'.element_eq forest''

/-- After any run of events, a report is what the page shows that the events lead to. The card has then
the same markup as a new report, in any document, that was sent to the page. -/
theorem report_coherent (behaviour : Behaviour ν σ) (spec : ReportSpec)
    (valid : sizing.validate = .ok ()) (nonempty : rows ≠ []) (small : rows.length < 2 ^ 63)
    (reachable : doc.Reachable) (known : container < doc.size) :
    ∃ slots body column shown,
      let report : Report ν :=
        { card := slots, content := some (spec.pagedContent rows sizing slots body) }
      let pageCount := (sizing.pageCount (UInt64.ofNat rows.length)).toNat
      (Report.render container spec rows sizing).run doc = .ok report shown ∧
      shown.children container = doc.children container ++ [column] ∧
      ∀ host events world,
        ReportRun behaviour report column { document := shown, host } events world →
        ∃ current : UInt64,
          current.toNat = events.foldl (ReportEvent.turn pageCount) 0 ∧ current.toNat < pageCount ∧
          ReportView behaviour spec rows sizing report column body world current ∧
          ∀ (fresh : Document (Action ν)) (place : NodeId), fresh.Reachable → place < fresh.size →
            ∃ (report' : Report ν) (column' : NodeId) (first second : Document (Action ν)),
              (Report.render place spec rows sizing).run fresh = .ok report' first ∧
              first.children place = fresh.children place ++ [column'] ∧
              (report'.showPage current).run first = .ok () second ∧
              world.document.outerHtml column = second.outerHtml column' ∧
              (current = 0 → world.document.outerHtml column = first.outerHtml column') := by
  have forest := reachable.isForest
  obtain ⟨card, table, shown, rendered, added, report⟩ :=
    run_renderReport forest known spec nonempty valid
  refine ⟨card.slots, table.body, card.column, shown, rendered, added, fun host events world run => ?_⟩
  have positive : 0 < (sizing.pageCount (UInt64.ofNat rows.length)).toNat := by
    refine Sizing.pageCount_pos valid ?_
    rw [toNat_rowCount small]
    exact List.length_pos_of_ne_nil nonempty
  have start : ReportState spec (spec.pagedContent rows sizing card.slots table.body) card table
      shown 0 := ⟨isForest_of_run forest rendered, report, positive⟩
  obtain ⟨current, folded, state⟩ :=
    ReportState.after_run valid (fits_rows valid small) rfl start run
  have view : ReportView behaviour spec rows sizing _ _ _ world current := state.view valid small
  refine ⟨current, folded, state.inside, view, fun fresh place reachable' known' => ?_⟩
  obtain ⟨report', column', first, second, rendered', added', run', firstElement, secondElement⟩ :=
    run_renderReport_showPage valid nonempty reachable'.isForest known' spec state.inside
  refine ⟨report', column', first, second, rendered', added', run', ?_, ?_⟩
  · rw [outerHtml, outerHtml, view.element, secondElement]
  · rintro rfl
    rw [outerHtml, outerHtml, view.element, firstElement]

/-! ## A short report -/

def desk : Document (Action Unit) :=
  (Edit.create "div").after {}

def idle : Behaviour Unit Unit where
  onClick _ := .done ()
  onChange _ _ := .done ()

def shortSpec : ReportSpec :=
  { id := "short", title := "Short", columns := ["Name"] }

def shortRows : List (List String) :=
  [["first"], ["second"], ["third"]]

def shortSizing : Sizing :=
  { pageSize := 1, maxHandles := 1 }

theorem reachable_desk : desk.Reachable := by
  have stepwise : (Edit.create "div" : Edit (Action Unit) NodeId).Stepwise := inferInstance
  exact stepwise.changes {}

theorem report_coherent_short :
    ∃ report column body shown world,
      (Report.render 0 shortSpec shortRows shortSizing).run desk = .ok report shown ∧
      ReportRun idle report column { document := shown, host := () } [.click .next, .showPage 7] world ∧
      ReportView idle shortSpec shortRows shortSizing report column body world 2 := by
  have valid : shortSizing.validate = .ok () := by decide
  have nonempty : shortRows ≠ [] := by decide
  have known : 0 < desk.size := by decide
  obtain ⟨slots, body, column, shown, rendered, -, coherent⟩ :=
    report_coherent idle shortSpec valid nonempty (by decide) reachable_desk known
  obtain ⟨card, table, shown', rendered', -, report⟩ :=
    run_renderReport reachable_desk.isForest known shortSpec nonempty valid
  rw [rendered] at rendered'
  simp only [EStateM.Result.ok.injEq, Report.mk.injEq] at rendered'
  obtain ⟨⟨rfl, -⟩, rfl⟩ := rendered'
  have forest : shown.IsForest := isForest_of_run reachable_desk.isForest rendered
  obtain ⟨list, only, -, shows⟩ : HoldsControl _ 3 shown (some 0) := report.holds
  have member : Handle.next ∈ (shortSizing.window 3 0).handles := by decide
  obtain ⟨item, child, link, holds⟩ := exists_right_of_mem shows.handles.flip member
  have inList : link ∈ shown.preorder list :=
    forest.mem_preorder_of_child child (by rw [holds.preorder_eq forest]; simp)
  have isLink : IsLink shown card.action link := by
    refine ⟨?_, by rw [Document.tag, holds.link_node]⟩
    rw [forest.descendants_eq, List.mem_flatMap]
    exact ⟨list, only.symm ▸ List.mem_singleton_self list, inList⟩
  obtain ⟨first, -, -, view, -⟩ := coherent () [] _ .start
  obtain ⟨handle, labels, settles, -⟩ := view.click link isLink
  cases labels.unique holds.labels
  obtain ⟨next, settles⟩ := settles (by decide)
  have clicked : ReportRun idle
      { card := card.slots, content := some (shortSpec.pagedContent shortRows shortSizing card.slots body) }
      column { document := shown, host := () } [.click .next] next :=
    .click .start isLink labels settles (by simp)
  obtain ⟨second, -, -, view', -⟩ := coherent () _ _ clicked
  obtain ⟨document, run⟩ := view'.showPage 7
  have both := ReportRun.showPage clicked run
  obtain ⟨third, folded, -, view'', -⟩ := coherent () _ _ both
  have last : third = 2 := UInt64.toNat_inj.1 folded
  subst last
  exact ⟨_, column, body, shown, _, rendered, both, view''⟩

end ReportCards
