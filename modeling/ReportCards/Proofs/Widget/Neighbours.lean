import ReportCards.Proofs.Widget.Placed

/-!
# Reports side by side

Several reports in one document do not interfere. All controls look alike and are found by the same
selectors, but every event of a report stays inside its card, and what it does there depends on nothing
but the pages of that report. So each card ends up as if the other reports had been left alone.
-/
namespace ReportCards
open Document Edit

variable {ν σ : Type} {behaviour : Behaviour ν σ} {first doc before after shown : Document (Action ν)}
  {world next : World ν σ} {host : σ} {event : ReportEvent} {reports : List (PlacedReport ν)}
  {events : List (Nat × ReportEvent)} {i j container : Nat}

/-! ## Runs -/

inductive RendersAll (first : Document (Action ν)) :
    List (PlacedReport ν) → Document (Action ν) → Prop
  | nil : RendersAll first [] first
  | snoc {reports : List (PlacedReport ν)} {placed : PlacedReport ν} {container : NodeId}
      {before after : Document (Action ν)} (earlier : RendersAll first reports before)
      (known : container < first.size) (valid : placed.sizing.validate = .ok ())
      (run : (Report.render container placed.spec placed.rows placed.sizing).run before =
        .ok placed.report after)
      (added : after.children container = before.children container ++ [placed.column]) :
      RendersAll first (reports ++ [placed]) after

inductive SystemRun (behaviour : Behaviour ν σ) (reports : List (PlacedReport ν)) (first : World ν σ) :
    List (Nat × ReportEvent) → World ν σ → Prop
  | start : SystemRun behaviour reports first [] first
  | step {events : List (Nat × ReportEvent)} {i : Nat} {placed : PlacedReport ν} {event : ReportEvent}
      {world next : World ν σ} (before : SystemRun behaviour reports first events world)
      (isPlaced : reports[i]? = some placed) (step : ReportStep behaviour placed world event next) :
      SystemRun behaviour reports first (events ++ [(i, event)]) next

def eventsOf (i : Nat) (events : List (Nat × ReportEvent)) : List ReportEvent :=
  (events.filter (·.1 = i)).map (·.2)

theorem eventsOf_concat_self (i : Nat) (events : List (Nat × ReportEvent)) (event : ReportEvent) :
    eventsOf i (events ++ [(i, event)]) = eventsOf i events ++ [event] := by
  simp [eventsOf]

theorem eventsOf_concat_ne (different : i ≠ j) (events : List (Nat × ReportEvent)) (event : ReportEvent) :
    eventsOf j (events ++ [(i, event)]) = eventsOf j events := by
  simp [eventsOf, different]

theorem eventsOf_filter (i : Nat) (events : List (Nat × ReportEvent)) :
    eventsOf i (events.filter (·.1 = i)) = eventsOf i events := by
  simp [eventsOf]

def PlacedReport.pagesAfter (placed : PlacedReport ν) (events : List ReportEvent) : ReportPages :=
  events.foldl placed.turn { table := 0, control := 0 }

theorem PlacedReport.pagesAfter_concat (placed : PlacedReport ν) (events : List ReportEvent)
    (event : ReportEvent) :
    placed.pagesAfter (events ++ [event]) = placed.turn (placed.pagesAfter events) event := by
  rw [pagesAfter, List.foldl_append]
  rfl

/-- What holds between the events: every report is on the pages that its own events lead to, no handler
is on its column or above it, and no card is in another. -/
structure SystemState (reports : List (PlacedReport ν)) (events : List (Nat × ReportEvent))
    (doc : Document (Action ν)) : Prop where
  forest : doc.IsForest
  shows : ∀ (i : Nat) (placed : PlacedReport ν), reports[i]? = some placed →
    placed.Shows doc (placed.pagesAfter (eventsOf i events))
  silent : ∀ (i : Nat) (placed : PlacedReport ν), reports[i]? = some placed →
    ∀ m ∈ doc.path placed.column, doc.handlers m = []
  apart : ∀ (i j : Nat) (placed other : PlacedReport ν), reports[i]? = some placed →
    reports[j]? = some other → i ≠ j → other.column ∉ doc.path placed.column

namespace SystemState

theorem outside (state : SystemState reports events doc) {placed other : PlacedReport ν}
    (isPlaced : reports[i]? = some placed) (isOther : reports[j]? = some other) :
    other.column ∉ doc.descendants placed.column := by
  by_cases same : i = j
  · subst same
    rw [isPlaced] at isOther
    cases isOther
    exact state.forest.not_mem_descendants_self
  · rw [state.forest.mem_descendants_iff]
    exact fun above => state.apart j i other placed isOther isPlaced (Ne.symm same)
      (List.mem_cons_of_mem _ above)

theorem after_step (state : SystemState reports events doc) {placed : PlacedReport ν}
    (isPlaced : reports[i]? = some placed)
    (step : ReportStep behaviour placed { document := doc, host } event next) :
    placed.Offers (placed.pagesAfter (eventsOf i events)) event ∧
      ∃ after, next = { document := after, host } ∧
        SystemState reports (events ++ [(i, event)]) after ∧
        ChangedWithin (doc.descendants placed.column) doc after := by
  have forest := state.forest
  have shows := state.shows i placed isPlaced
  obtain ⟨offers, after, rfl, forest', shows', changed⟩ :=
    shows.after_step forest (state.silent i placed isPlaced) step
  have path_eq {j : Nat} {other : PlacedReport ν} (isOther : reports[j]? = some other) :
      after.path other.column = doc.path other.column :=
    forest.path_kept_outside forest' changed (state.shows j other isOther).known
      (state.outside isPlaced isOther)
  refine ⟨offers, after, rfl, ⟨forest', fun j other isOther => ?_, fun j other isOther m above => ?_, ?_⟩,
    changed⟩
  · by_cases same : i = j
    · subst same
      rw [isPlaced] at isOther
      cases isOther
      rw [eventsOf_concat_self, PlacedReport.pagesAfter_concat]
      exact shows'
    · rw [eventsOf_concat_ne same]
      have apart := state.apart i j placed other isPlaced isOther same
      have apart' := state.apart j i other placed isOther isPlaced (Ne.symm same)
      have showsOther := state.shows j other isOther
      exact showsOther.kept forest forest'
        (forest.sameBelow_of_apart changed showsOther.known apart' apart)
  · rw [path_eq isOther] at above
    have known := forest.known_of_mem_path (state.shows j other isOther).known above
    have apart := forest.not_mem_descendants_of_mem_path (state.outside isPlaced isOther) above
    rw [handlers, changed.kept m known apart]
    exact state.silent j other isOther m above
  · intro j k other third isOther isThird different
    rw [path_eq isOther]
    exact state.apart j k other third isOther isThird different

theorem after_run (state : SystemState reports [] first)
    (run : SystemRun behaviour reports { document := first, host } events world) :
    SystemState reports events world.document ∧ world.host = host := by
  induction run with
  | start => exact ⟨state, rfl⟩
  | @step events i placed event world next _ isPlaced step ih =>
      obtain ⟨state', rfl⟩ := ih
      obtain ⟨-, after, rfl, state'', -⟩ := state'.after_step isPlaced step
      exact ⟨state'', rfl⟩

theorem exists_own_run (state : SystemState reports [] first) (i : Nat)
    (run : SystemRun behaviour reports { document := first, host } events world) :
    ∃ own, SystemRun behaviour reports { document := first, host } (events.filter (·.1 = i)) own := by
  induction run with
  | start => exact ⟨_, .start⟩
  | @step events j placed event world next before isPlaced step ih =>
      obtain ⟨own, ownRun⟩ := ih
      rw [List.filter_append]
      by_cases same : j = i
      · subst same
        obtain ⟨worldState, -⟩ := state.after_run before
        obtain ⟨ownState, -⟩ := state.after_run ownRun
        obtain ⟨offers, -⟩ := worldState.after_step isPlaced step
        have shows := ownState.shows j placed isPlaced
        rw [eventsOf_filter] at shows
        obtain ⟨next', step'⟩ := shows.exists_step ownState.forest (ownState.silent j placed isPlaced)
          behaviour offers own.host
        rw [List.filter_cons_of_pos (by simp)]
        exact ⟨next', .step ownRun isPlaced step'⟩
      · rw [List.filter_cons_of_neg (by simpa using same), List.filter_nil, List.append_nil]
        exact ⟨own, ownRun⟩

end SystemState

/-! ## Rendering many reports -/

theorem shows_of_render {placed : PlacedReport ν} (forest : before.IsForest)
    (known : container < before.size) (valid : placed.sizing.validate = .ok ())
    (run : (Report.render container placed.spec placed.rows placed.sizing).run before =
      .ok placed.report after)
    (added : after.children container = before.children container ++ [placed.column]) :
    IsPlaced container placed.column before after ∧ placed.Shows after { table := 0, control := 0 } := by
  have column_eq {column : NodeId} (isPlaced : IsPlaced container column before after) :
      placed.column = column := by
    rw [isPlaced.gains.children_eq] at added
    exact (List.singleton_inj.1 (List.append_cancel_left added)).symm
  by_cases empty : placed.rows = []
  · obtain ⟨card, after', run', isPlaced, report⟩ :=
      run_renderReport_allGood forest known placed.spec valid
    rw [empty, run', EStateM.Result.ok.injEq] at run
    obtain ⟨report_eq, rfl⟩ := run
    rw [column_eq isPlaced]
    exact ⟨isPlaced, .allGood (column_eq isPlaced) report_eq.symm report⟩
  · obtain ⟨card, table, after', run', isPlaced, report⟩ :=
      run_renderReport_isPlaced forest known placed.spec empty valid
    rw [run', EStateM.Result.ok.injEq] at run
    obtain ⟨report_eq, rfl⟩ := run
    rw [column_eq isPlaced]
    exact ⟨isPlaced, .paged (column_eq isPlaced) report_eq.symm rfl report⟩

structure Rendered (first : Document (Action ν)) (reports : List (PlacedReport ν))
    (doc : Document (Action ν)) : Prop where
  forest : doc.IsForest
  size_le : first.size ≤ doc.size
  parent_old : ∀ n < first.size, doc.parent n = first.parent n
  silent_old : ∀ n < first.size, doc.handlers n = []
  shows : ∀ placed ∈ reports, placed.Shows doc { table := 0, control := 0 }
  size_le_column : ∀ placed ∈ reports, first.size ≤ placed.column
  silent : ∀ placed ∈ reports, doc.handlers placed.column = []
  link : ∀ placed ∈ reports, ∃ container < first.size, doc.parent placed.column = some container
  distinct : (reports.map PlacedReport.column).Nodup

namespace Rendered

theorem size_le_of_mem_preorder (rendered : Rendered first reports doc) (forest : first.IsForest)
    {placed : PlacedReport ν} (member : placed ∈ reports) {n : Nat}
    (below : n ∈ doc.preorder placed.column) : first.size ≤ n := by
  by_contra old
  have known := forest.lt_of_mem_path rendered.forest rendered.parent_old (Nat.lt_of_not_le old)
    (rendered.forest.mem_preorder_iff.1 below)
  exact absurd known (Nat.not_lt.2 (rendered.size_le_column placed member))

theorem snoc (rendered : Rendered first reports before) (forest : first.IsForest)
    {placed : PlacedReport ν} (known : container < first.size)
    (isPlaced : IsPlaced container placed.column before after)
    (shows : placed.Shows after { table := 0, control := 0 }) (forest' : after.IsForest) :
    Rendered first (reports ++ [placed]) after := by
  have gains := isPlaced.gains
  have knownColumn {other : PlacedReport ν} (member : other ∈ reports) : other.column < before.size :=
    (rendered.shows other member).known
  have old {n : Nat} (known : n < first.size) : n < before.size :=
    Nat.lt_of_lt_of_le known rendered.size_le
  have new : before.size ≤ placed.column :=
    gains.size_le_new placed.column (List.mem_singleton_self _)
  have sameCard {other : PlacedReport ν} (member : other ∈ reports) {m : Nat}
      (below : m ∈ before.preorder other.column) : after.node m = before.node m := by
    refine gains.kept_ne (rendered.forest.known_of_mem_preorder (knownColumn member) below) ?_
    rintro rfl
    exact absurd known (Nat.not_lt.2 (rendered.size_le_of_mem_preorder forest member below))
  refine
    { forest := forest'
      size_le := Nat.le_trans rendered.size_le gains.size_le
      parent_old := fun n known => (gains.parent_kept (old known)).trans (rendered.parent_old n known)
      silent_old := fun n known => (gains.handlers_kept (old known)).trans (rendered.silent_old n known)
      shows := List.forall_mem_append.2 ⟨fun other member => ?_, List.forall_mem_singleton.2 shows⟩
      size_le_column := List.forall_mem_append.2 ⟨rendered.size_le_column,
        List.forall_mem_singleton.2 (Nat.le_trans rendered.size_le new)⟩
      silent := List.forall_mem_append.2 ⟨fun other member => ?_,
        List.forall_mem_singleton.2 isPlaced.silent⟩
      link := List.forall_mem_append.2 ⟨fun other member => ?_, List.forall_mem_singleton.2
        ⟨container, known, gains.link forest' (List.mem_singleton_self _)⟩⟩
      distinct := ?_ }
  · refine (rendered.shows other member).kept rendered.forest forest' ⟨?_, fun m below => ?_⟩
    · exact content_of_node (sameCard member rendered.forest.mem_preorder_self)
    · refine sameCard member ?_
      rw [rendered.forest.preorder_eq_cons]
      exact List.mem_cons_of_mem _ below
  · rw [gains.handlers_kept (knownColumn member)]
    exact rendered.silent other member
  · obtain ⟨place, knownPlace, link⟩ := rendered.link other member
    exact ⟨place, knownPlace, (gains.parent_kept (knownColumn member)).trans link⟩
  · rw [List.map_append, List.map_singleton, ← List.concat_eq_append, List.nodup_concat]
    refine ⟨fun member => ?_, rendered.distinct⟩
    obtain ⟨other, inReports, same⟩ := List.mem_map.1 member
    exact absurd (knownColumn inReports) (Nat.not_lt.2 (same ▸ new))

theorem of_rendersAll (forest : first.IsForest) (silent : ∀ n, first.handlers n = [])
    (renders : RendersAll first reports shown) : Rendered first reports shown := by
  induction renders with
  | nil =>
      exact
        { forest
          size_le := Nat.le_refl _
          parent_old := fun _ _ => rfl
          silent_old := fun n _ => silent n
          shows := List.forall_mem_nil _
          size_le_column := List.forall_mem_nil _
          silent := List.forall_mem_nil _
          link := List.forall_mem_nil _
          distinct := List.nodup_nil }
  | snoc earlier known valid run added rendered =>
      have known' := Nat.lt_of_lt_of_le known rendered.size_le
      obtain ⟨isPlaced, shows⟩ := shows_of_render rendered.forest known' valid run added
      exact rendered.snoc forest known isPlaced shows (isForest_of_run rendered.forest run)

theorem systemState (rendered : Rendered first reports shown) (forest : first.IsForest) :
    SystemState reports [] shown := by
  have path_eq {placed : PlacedReport ν} (member : placed ∈ reports) :
      ∃ container < first.size, shown.path placed.column = placed.column :: shown.path container := by
    obtain ⟨container, known, link⟩ := rendered.link placed member
    exact ⟨container, known, rendered.forest.path_of_parent link⟩
  have old {container m : Nat} (known : container < first.size) (above : m ∈ shown.path container) :
      m < first.size :=
    forest.lt_of_mem_path rendered.forest rendered.parent_old known above
  refine ⟨rendered.forest, fun i placed isPlaced => ?_, fun i placed isPlaced m above => ?_, ?_⟩
  · exact rendered.shows placed (List.mem_of_getElem? isPlaced)
  · obtain ⟨container, known, path⟩ := path_eq (List.mem_of_getElem? isPlaced)
    rw [path] at above
    rcases List.mem_cons.1 above with rfl | above
    · exact rendered.silent placed (List.mem_of_getElem? isPlaced)
    · exact rendered.silent_old m (old known above)
  · intro i j placed other isPlaced isOther different above
    obtain ⟨container, known, path⟩ := path_eq (List.mem_of_getElem? isPlaced)
    rw [path] at above
    rcases List.mem_cons.1 above with same | above
    · refine different ((List.getElem?_inj ?_ rendered.distinct).1 ?_)
      · rw [List.length_map]
        exact (List.getElem?_eq_some_iff.1 isPlaced).1
      · rw [List.getElem?_map, List.getElem?_map, isPlaced, isOther, Option.map_some, Option.map_some, same]
    · have new := rendered.size_le_column other (List.mem_of_getElem? isOther)
      exact absurd (old known above) (Nat.not_lt.2 new)

end Rendered

/-! ## Events of different reports -/

theorem eventsOf_swap (different : i ≠ j) (k : Nat) (events : List (Nat × ReportEvent))
    (event event' : ReportEvent) :
    eventsOf k (events ++ [(i, event)] ++ [(j, event')]) =
      eventsOf k (events ++ [(j, event')] ++ [(i, event)]) := by
  by_cases isFirst : i = k
  · subst isFirst
    rw [eventsOf_concat_ne (Ne.symm different), eventsOf_concat_self, eventsOf_concat_self,
      eventsOf_concat_ne (Ne.symm different)]
  · rw [eventsOf_concat_ne isFirst]
    by_cases isSecond : j = k
    · subst isSecond
      rw [eventsOf_concat_self, eventsOf_concat_self, eventsOf_concat_ne isFirst]
    · rw [eventsOf_concat_ne isSecond, eventsOf_concat_ne isFirst, eventsOf_concat_ne isSecond]

/-- Two worlds that came about by changes in two of the cards of a document: outside of the two cards they
are the same, and all cards and all that is around them show the same. -/
structure LooksSame (reports : List (PlacedReport ν)) (doc : Document (Action ν)) (column column' : NodeId)
    (left right : World ν σ) : Prop where
  host : left.host = right.host
  node : ∀ n < doc.size, n ∉ doc.descendants column → n ∉ doc.descendants column' →
    left.document.node n = right.document.node n
  element : ∀ n < doc.size, (∀ placed ∈ reports, n ∉ doc.descendants placed.column) →
    left.document.element n = right.document.element n
  agrees : ∀ placed ∈ reports, placed.Agrees left.document ↔ placed.Agrees right.document

namespace SystemState

variable {placed other : PlacedReport ν} {event' : ReportEvent} {middle last last' : World ν σ}

theorem after_two_steps (state : SystemState reports events doc) (isPlaced : reports[i]? = some placed)
    (isOther : reports[j]? = some other)
    (step : ReportStep behaviour placed { document := doc, host } event middle)
    (step' : ReportStep behaviour other middle event' last) :
    SystemState reports (events ++ [(i, event)] ++ [(j, event')]) last.document ∧ last.host = host ∧
      ∀ n < doc.size, n ∉ doc.descendants placed.column → n ∉ doc.descendants other.column →
        last.document.node n = doc.node n := by
  obtain ⟨-, after, rfl, state', changed⟩ := state.after_step isPlaced step
  obtain ⟨-, after', rfl, state'', changed'⟩ := state'.after_step isOther step'
  refine ⟨state'', rfl, fun n known outside outside' => ?_⟩
  have outside'' : n ∉ after.descendants other.column := fun below => outside'
    ((state.forest.descendants_kept_outside state'.forest changed known outside other.column).1 below)
  rw [changed'.kept n (Nat.lt_of_lt_of_le known changed.size_le) outside'', changed.kept n known outside]

theorem exists_swapped (state : SystemState reports events doc) (isPlaced : reports[i]? = some placed)
    (isOther : reports[j]? = some other) (different : i ≠ j)
    (step : ReportStep behaviour placed { document := doc, host } event middle)
    (step' : ReportStep behaviour other middle event' last) :
    ∃ middle' last', ReportStep behaviour other { document := doc, host } event' middle' ∧
      ReportStep behaviour placed middle' event last' := by
  obtain ⟨offers, after, rfl, state', -⟩ := state.after_step isPlaced step
  obtain ⟨offers', -⟩ := state'.after_step isOther step'
  rw [eventsOf_concat_ne different] at offers'
  obtain ⟨middle', swapped⟩ := (state.shows j other isOther).exists_step state.forest
    (state.silent j other isOther) behaviour offers' host
  obtain ⟨-, after', rfl, state'', -⟩ := state.after_step isOther swapped
  have shows := state''.shows i placed isPlaced
  rw [eventsOf_concat_ne (Ne.symm different)] at shows
  obtain ⟨last', swapped'⟩ := shows.exists_step state''.forest (state''.silent i placed isPlaced)
    behaviour offers host
  exact ⟨_, last', swapped, swapped'⟩

theorem looksSame (state : SystemState reports events doc) (isPlaced : reports[i]? = some placed)
    (isOther : reports[j]? = some other) (different : i ≠ j)
    (step : ReportStep behaviour placed { document := doc, host } event middle)
    (step' : ReportStep behaviour other middle event' last) {middle' : World ν σ}
    (swapped : ReportStep behaviour other { document := doc, host } event' middle')
    (swapped' : ReportStep behaviour placed middle' event last') :
    LooksSame reports doc placed.column other.column last last' := by
  obtain ⟨stateLeft, hostLeft, nodeLeft⟩ := state.after_two_steps isPlaced isOther step step'
  obtain ⟨stateRight, hostRight, nodeRight⟩ := state.after_two_steps isOther isPlaced swapped swapped'
  have shows (k : Nat) (third : PlacedReport ν) (isThird : reports[k]? = some third) :
      ∃ pages, third.Shows last.document pages ∧ third.Shows last'.document pages := by
    have right := stateRight.shows k third isThird
    rw [← eventsOf_swap different] at right
    exact ⟨_, stateLeft.shows k third isThird, right⟩
  have node (n : Nat) (known : n < doc.size) (outside : n ∉ doc.descendants placed.column)
      (outside' : n ∉ doc.descendants other.column) :
      last.document.node n = doc.node n ∧ last'.document.node n = doc.node n :=
    ⟨nodeLeft n known outside outside', nodeRight n known outside' outside⟩
  refine ⟨by rw [hostLeft, hostRight], fun n known outside outside' => ?_, fun n known outside => ?_,
    fun third member => ?_⟩
  · obtain ⟨left, right⟩ := node n known outside outside'
    rw [left, right]
  · refine state.forest.element_eq_of_columns stateLeft.forest stateRight.forest
      (reports.map PlacedReport.column) (fun m known outside => ?_) (fun column member => ?_)
      known (List.forall_mem_map.2 outside)
    · rw [List.forall_mem_map] at outside
      exact node m known (outside placed (List.mem_of_getElem? isPlaced))
        (outside other (List.mem_of_getElem? isOther))
    · obtain ⟨third, inReports, rfl⟩ := List.mem_map.1 member
      obtain ⟨k, isThird⟩ := List.mem_iff_getElem?.1 inReports
      obtain ⟨pages, left, right⟩ := shows k third isThird
      rw [left.element_eq stateLeft.forest, right.element_eq stateRight.forest]
  · obtain ⟨k, isThird⟩ := List.mem_iff_getElem?.1 member
    obtain ⟨pages, left, right⟩ := shows k third isThird
    exact ⟨fun agrees => agrees.of_shows left right stateLeft.forest stateRight.forest,
      fun agrees => agrees.of_shows right left stateRight.forest stateLeft.forest⟩

end SystemState

/-- After any events, every report offers its links and its pages. An event of a report changes nothing
outside of its card; each card, and whether its table and control agree, is what its own events alone make
of it; and events of different reports commute. -/
theorem reports_independent (behaviour : Behaviour ν σ) (reachable : doc.Reachable)
    (silent : ∀ n, doc.handlers n = []) (renders : RendersAll doc reports shown)
    (run : SystemRun behaviour reports { document := shown, host } events world) :
    (∀ placed ∈ reports,
      (∀ index, ∃ next, ReportStep behaviour placed world (.showPage index) next) ∧
        ∀ link, IsLink world.document placed.report.card.action link →
          ∃ handle : Handle, handle.Labels world.document link ∧
            ∃ next, Settles behaviour world (.click link (.done ())) next) ∧
      (∀ placed ∈ reports, ∀ event next, ReportStep behaviour placed world event next →
        next.host = world.host ∧
          ChangedWithin (world.document.descendants placed.column) world.document next.document) ∧
      (∀ (i : Nat) (placed : PlacedReport ν), reports[i]? = some placed →
        (∃ own, SystemRun behaviour reports { document := shown, host } (events.filter (·.1 = i)) own) ∧
          ∀ own, SystemRun behaviour reports { document := shown, host } (events.filter (·.1 = i)) own →
            own.document.element placed.column = world.document.element placed.column ∧
              (placed.Agrees own.document ↔ placed.Agrees world.document)) ∧
      ∀ (i j : Nat) (placed other : PlacedReport ν) (event event' : ReportEvent) (middle last : World ν σ),
        reports[i]? = some placed → reports[j]? = some other → i ≠ j →
          ReportStep behaviour placed world event middle → ReportStep behaviour other middle event' last →
            (∃ middle' last', ReportStep behaviour other world event' middle' ∧
              ReportStep behaviour placed middle' event last') ∧
            ∀ middle' last', ReportStep behaviour other world event' middle' →
              ReportStep behaviour placed middle' event last' →
              LooksSame reports world.document placed.column other.column last last' := by
  have forest := reachable.isForest
  have start : SystemState reports [] shown :=
    (Rendered.of_rendersAll forest silent renders).systemState forest
  obtain ⟨state, rfl⟩ := start.after_run run
  obtain ⟨document, host⟩ := world
  refine ⟨fun placed member => ?_, fun placed member event next step => ?_, fun i placed isPlaced => ?_, ?_⟩
  · obtain ⟨i, isPlaced⟩ := List.mem_iff_getElem?.1 member
    have shows := state.shows i placed isPlaced
    refine ⟨fun index => ?_, fun link isLink => ?_⟩
    · have offers : placed.Offers (placed.pagesAfter (eventsOf i events)) (.showPage index) := trivial
      exact shows.exists_step state.forest (state.silent i placed isPlaced) behaviour offers host
    · obtain ⟨handle, labels, -⟩ := shows.exists_handle state.forest isLink
      obtain ⟨after, settles, -⟩ := shows.settles_click state.forest (state.silent i placed isPlaced)
        behaviour isLink labels host
      exact ⟨handle, labels, _, settles⟩
  · obtain ⟨i, isPlaced⟩ := List.mem_iff_getElem?.1 member
    obtain ⟨-, after, rfl, -, changed⟩ := state.after_step isPlaced step
    exact ⟨rfl, changed⟩
  · refine ⟨start.exists_own_run i run, fun own ownRun => ?_⟩
    obtain ⟨ownState, -⟩ := start.after_run ownRun
    have shows := state.shows i placed isPlaced
    have ownShows := ownState.shows i placed isPlaced
    rw [eventsOf_filter] at ownShows
    refine ⟨?_, fun agrees => ?_, fun agrees => ?_⟩
    · rw [ownShows.element_eq ownState.forest, shows.element_eq state.forest]
    · exact agrees.of_shows ownShows shows ownState.forest state.forest
    · exact agrees.of_shows shows ownShows state.forest ownState.forest
  · intro i j placed other event event' middle last isPlaced isOther different step step'
    exact ⟨state.exists_swapped isPlaced isOther different step step',
      fun middle' last' => state.looksSame isPlaced isOther different step step'⟩

/-! ## Two reports on a desk -/

theorem silent_desk (n : NodeId) : desk.handlers n = [] := by
  rcases Nat.eq_zero_or_pos n with rfl | later
  · rfl
  · rw [handlers, node_eq_blank_of_size_le desk later]

def shortReport (card : CardNodes) (body : NodeId) : PlacedReport Unit where
  spec := shortSpec
  rows := shortRows
  sizing := shortSizing
  report :=
    { card := card.slots, content := some (shortSpec.pagedContent shortRows shortSizing card.slots body) }
  column := card.column

theorem reports_independent_desk :
    ∃ (reports : List (PlacedReport Unit)) (placed other : PlacedReport Unit)
      (shown : Document (Action Unit)) (world own : World Unit Unit),
      reports = [placed, other] ∧ RendersAll desk reports shown ∧
      SystemRun idle reports { document := shown, host := () } [(0, .click .next), (1, .showPage 2)] world ∧
      SystemRun idle reports { document := shown, host := () } [(0, .click .next)] own ∧
      own.document.element placed.column = world.document.element placed.column := by
  have valid : shortSizing.validate = .ok () := by decide
  have nonempty : shortRows ≠ [] := by decide
  have known : 0 < desk.size := by decide
  have forest := reachable_desk.isForest
  obtain ⟨card, table, middle, rendered, isPlaced, -⟩ :=
    run_renderReport_isPlaced forest known shortSpec nonempty valid
  have known' : 0 < middle.size := Nat.lt_of_lt_of_le known isPlaced.gains.size_le
  obtain ⟨card', table', shown, rendered', isPlaced', -⟩ :=
    run_renderReport_isPlaced (isForest_of_run forest rendered) known' shortSpec nonempty valid
  let placed := shortReport card table.body
  let other := shortReport card' table'.body
  have one : RendersAll desk ([] ++ [placed]) middle :=
    .snoc .nil known valid rendered isPlaced.gains.children_eq
  have renders : RendersAll desk ([placed] ++ [other]) shown :=
    .snoc one known valid rendered' isPlaced'.gains.children_eq
  have state := (Rendered.of_rendersAll forest silent_desk renders).systemState forest
  have needs : shortSizing.needsPages 3 = true := by decide
  have member : Handle.next ∈ (shortSizing.window 3 0).handles := by decide
  have offers : placed.Offers (placed.pagesAfter []) (.click .next) := ⟨_, rfl, needs, member⟩
  obtain ⟨next, step⟩ := (state.shows 0 placed rfl).exists_step state.forest (state.silent 0 placed rfl)
    idle offers ()
  have isFirst : ([placed] ++ [other])[0]? = some placed := rfl
  have isSecond : ([placed] ++ [other])[1]? = some other := rfl
  have clicked := SystemRun.start.step isFirst step
  have available := (reports_independent idle reachable_desk silent_desk renders clicked).1
  obtain ⟨last, step'⟩ := (available other (List.mem_of_getElem? isSecond)).1 2
  have both := clicked.step isSecond step'
  obtain ⟨-, -, independent, -⟩ := reports_independent idle reachable_desk silent_desk renders both
  obtain ⟨⟨own, ownRun⟩, same⟩ := independent 0 placed isFirst
  exact ⟨_, placed, other, shown, last, own, rfl, renders, both, ownRun, (same own ownRun).1⟩

end ReportCards
