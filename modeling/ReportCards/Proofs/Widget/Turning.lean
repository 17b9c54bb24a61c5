import ReportCards.Proofs.Click.Settle
import ReportCards.Proofs.Widget.Control

/-!
# Turning pages

A click on a link of a control is compared with `Handle.destination`, and a run of clicks with what the
destinations add up to. The control is read off the document alone: its links are the anchors below
the list, and `Handle.Labels` says which handle an anchor shows.
-/
namespace ReportCards
open Document Edit

variable {ν σ : Type} {behaviour : Behaviour ν σ} {pager : Pager ν} {count page : UInt64}
  {list item link : Nat} {handle : Handle} {doc before middle after : Document (Action ν)}

/-! ## Links -/

def IsLink (doc : Document (Action ν)) (list link : NodeId) : Prop :=
  link ∈ doc.descendants list ∧ doc.tag link = "a"

structure Handle.Labels (handle : Handle) (doc : Document (Action ν)) (link : NodeId) : Prop where
  text : doc.ownText link = handle.label
  attributes : doc.attributes link = handle.attributes

theorem Handle.Labels.unique {handle' : Handle} (labels : handle.Labels doc link)
    (labels' : handle'.Labels doc link) : handle = handle' := by
  have text : handle.label = handle'.label := labels.text.symm.trans labels'.text
  have attributes : handle.attributes = handle'.attributes :=
    labels.attributes.symm.trans labels'.attributes
  cases handle <;> cases handle' <;> first
    | rfl
    | (exfalso; revert attributes; simp [Handle.attributes]; done)
    | (exfalso; revert text; decide)
    | skip
  rename_i index index'
  simp only [Handle.attributes, List.cons.injEq, Prod.mk.injEq, true_and, and_true] at attributes
  have same := congrArg Decimal.wordOf? attributes
  rw [Decimal.wordOf?_ofWord, Decimal.wordOf?_ofWord] at same
  rw [Option.some.inj same]

theorem IsHandle.labels {window : PageWindow}
    (holds : IsHandle pager count window list doc item link handle) : handle.Labels doc link where
  text := by rw [ownText, holds.link_node]
  attributes := by rw [Document.attributes, holds.link_node]

theorem exists_right_of_mem {α β : Type} {holds : α → β → Prop} {left : List α} {right : List β}
    (all : List.Forall₂ holds left right) {a : α} (member : a ∈ left) :
    ∃ b ∈ right, holds a b := by
  induction all with
  | nil => cases member
  | cons first _ ih =>
      rcases List.mem_cons.1 member with rfl | later
      · exact ⟨_, List.mem_cons_self, first⟩
      · obtain ⟨b, inside, found⟩ := ih later
        exact ⟨b, List.mem_cons_of_mem _ inside, found⟩

theorem Shows.exists_handle_of_mem {n : NodeId} (shows : Shows pager count list doc page)
    (forest : doc.IsForest) (below : n ∈ doc.descendants list) :
    ∃ item link, ∃ handle ∈ (pager.sizing.window count page).handles,
      IsHandle pager count (pager.sizing.window count page) list doc item link handle ∧
        (n = item ∨ n = link) := by
  rw [forest.descendants_eq, List.mem_flatMap] at below
  obtain ⟨item, child, below⟩ := below
  obtain ⟨handle, inside, link, holds⟩ := exists_right_of_mem shows.handles child
  rw [holds.preorder_eq forest, List.mem_cons, List.mem_singleton] at below
  exact ⟨item, link, handle, inside, holds, below⟩

theorem Shows.exists_handle (shows : Shows pager count list doc page) (forest : doc.IsForest)
    (isLink : IsLink doc list link) :
    ∃ item, ∃ handle ∈ (pager.sizing.window count page).handles,
      IsHandle pager count (pager.sizing.window count page) list doc item link handle := by
  obtain ⟨below, anchor⟩ := isLink
  obtain ⟨item, other, handle, inside, holds, rfl | rfl⟩ := shows.exists_handle_of_mem forest below
  · rw [Document.tag, holds.item_node] at anchor
    exact absurd anchor (by decide : "li" ≠ "a")
  · exact ⟨item, handle, inside, holds⟩

theorem Shows.exists_link (shows : Shows pager count list doc page) (forest : doc.IsForest)
    (member : handle ∈ (pager.sizing.window count page).handles) :
    ∃ link, IsLink doc list link ∧ handle.Labels doc link := by
  obtain ⟨item, child, link, holds⟩ := exists_right_of_mem shows.handles.flip member
  refine ⟨link, ⟨?_, by rw [Document.tag, holds.link_node]⟩, holds.labels⟩
  rw [forest.descendants_eq, List.mem_flatMap]
  exact ⟨item, child, by rw [holds.preorder_eq forest]; simp⟩

theorem Shows.filter_descendants (shows : Shows pager count list doc page) (forest : doc.IsForest) :
    (doc.descendants list).filter (doc.isTagged "ul" Pager.listClass) = [] := by
  rw [List.filter_eq_nil_iff]
  intro n below
  obtain ⟨item, link, handle, -, holds, rfl | rfl⟩ := shows.exists_handle_of_mem forest below
  · rw [isTagged_iff, Document.tag, holds.item_node]
    exact fun both => absurd both.1 (by decide : "li" ≠ "ul")
  · rw [isTagged_iff, Document.tag, holds.link_node]
    exact fun both => absurd both.1 (by decide : "a" ≠ "ul")

theorem Shows.exists_target {n : NodeId} (shows : Shows pager count list doc page) (forest : doc.IsForest)
    (below : n ∈ doc.descendants list) {handler : Handler (Action ν)} (member : handler ∈ doc.handlers n) :
    ∃ target, handler.action = .turn pager count target := by
  obtain ⟨item, link, handle, -, holds, rfl | rfl⟩ := shows.exists_handle_of_mem forest below
  · rw [handlers, holds.item_node] at member
    cases member
  · have action := List.mem_map_of_mem (f := Handler.action) member
    rw [holds.actions] at action
    cases handle with
    | ellipsis => cases action
    | previous | page index | next => exact ⟨_, List.mem_singleton.1 action⟩

/-! ## What a handle leads to -/

def Handle.leads? (window : PageWindow) : Handle → Option UInt64
  | .previous => window.active?.bind fun index => if 0 < index then some (index - 1) else none
  | .ellipsis => none
  | .page index => some index
  | .next =>
      window.active?.bind fun index => if index + 1 < window.pageCount then some (index + 1) else none

theorem Shows.exists_handler (shows : Shows pager count list doc page) (forest : doc.IsForest)
    (turns : handle ≠ .ellipsis)
    (holds : IsHandle pager count (pager.sizing.window count page) list doc item link handle) :
    ∃ handler target, doc.handlers link = [handler] ∧ handler.action = .turn pager count target ∧
      target.index? doc = handle.leads? (pager.sizing.window count page) := by
  have active := shows.activeIndex_eq forest
  have actions := holds.actions
  have one {target : Target} (only : (doc.handlers link).map (·.action) = [.turn pager count target]) :
      ∃ handler, doc.handlers link = [handler] ∧ handler.action = .turn pager count target := by
    obtain ⟨handler, single, action⟩ := List.map_eq_singleton_iff.1 only
    exact ⟨handler, single, action⟩
  cases handle with
  | ellipsis => exact absurd rfl turns
  | page index =>
      obtain ⟨handler, single, action⟩ := one actions
      exact ⟨handler, _, single, action, rfl⟩
  | previous | next =>
      obtain ⟨handler, single, action⟩ := one actions
      exact ⟨handler, _, single, action, by rw [Target.index?, active, Handle.leads?]⟩

section

variable (valid : pager.sizing.validate = .ok ()) (fits : pager.sizing.Fits count)
  (shows : Shows pager count list doc page) (forest : doc.IsForest)
  (inside : page.toNat < (pager.sizing.pageCount count).toNat)
include valid fits inside

theorem destination_lt {pageIndex : Nat} (member : handle ∈ (pager.sizing.window count page).handles)
    (leads : handle.destination (pager.sizing.pageCount count).toNat page.toNat = some pageIndex) :
    pageIndex < (pager.sizing.pageCount count).toNat := by
  have bounds := Sizing.window_bounds valid fits (Nat.lt_of_le_of_lt (Nat.zero_le _) inside) page
  cases handle with
  | previous =>
      simp only [Handle.destination, Option.ite_none_right_eq_some, Option.some.injEq] at leads
      omega
  | next =>
      simp only [Handle.destination, Option.ite_none_right_eq_some, Option.some.injEq] at leads
      omega
  | ellipsis => cases leads
  | page index =>
      have inPages : index ∈ (pager.sizing.window count page).pages := by
        unfold PageWindow.handles at member
        generalize (pager.sizing.window count page).hidesEarlier = earlier at member
        generalize (pager.sizing.window count page).hidesLater = later at member
        cases earlier <;> cases later <;> simpa using member
      rw [PageWindow.mem_pages_iff] at inPages
      simp only [Handle.destination, Option.some.injEq] at leads
      omega

theorem active?_window : (pager.sizing.window count page).active? = some page := by
  have bounds := Sizing.window_bounds valid fits (Nat.lt_of_le_of_lt (Nat.zero_le _) inside) page
  rw [PageWindow.active?, if_pos (PageWindow.mem_pages_iff.2 ⟨bounds.1, bounds.2.1⟩),
    Sizing.current_window, Sizing.clamp_of_lt inside]

theorem toNat_leads? (handle : Handle) :
    (handle.leads? (pager.sizing.window count page)).map UInt64.toNat =
      handle.destination (pager.sizing.pageCount count).toNat page.toNat := by
  have active := active?_window valid fits inside
  cases handle with
  | ellipsis | page => rfl
  | previous =>
      have positive : 0 < page ↔ 0 < page.toNat := UInt64.lt_iff_toNat_lt
      simp only [Handle.leads?, active, Option.bind_some, Handle.destination, positive]
      split
      · rename_i some
        have one_le : 1 ≤ page := UInt64.le_iff_toNat_le.2 some
        rw [Option.map_some, UInt64.toNat_sub_of_le _ _ one_le]
        rfl
      · rfl
  | next =>
      have small := (pager.sizing.pageCount count).toNat_lt_size
      have more : (page + 1).toNat = page.toNat + 1 := by
        rw [UInt64.toNat_add, UInt64.toNat_one, Nat.mod_eq_of_lt (Nat.lt_of_le_of_lt inside small)]
      have less : page + 1 < (pager.sizing.window count page).pageCount ↔
          page.toNat + 1 < (pager.sizing.pageCount count).toNat := by
        rw [UInt64.lt_iff_toNat_lt, more, Sizing.pageCount_window]
      simp only [Handle.leads?, active, Option.bind_some, Handle.destination, less]
      split
      · rw [Option.map_some, more]
      · rfl

include shows forest

theorem exists_active : ∃ active, doc.selectAll list Pager.activeSelector = .ok [active] ∧
    doc.getAttribute active Pager.indexAttribute = some (Decimal.ofWord page) := by
  have bounds := Sizing.window_bounds valid fits (Nat.lt_of_le_of_lt (Nat.zero_le _) inside) page
  obtain ⟨active, selected, indexed⟩ :=
    shows.selectAll_active forest (PageWindow.mem_pages_iff.2 ⟨bounds.1, bounds.2.1⟩)
  rw [Sizing.current_window, Sizing.clamp_of_lt inside] at indexed
  exact ⟨active, selected, indexed⟩

theorem handler_of_isHandle (turns : handle ≠ .ellipsis)
    (holds : IsHandle pager count (pager.sizing.window count page) list doc item link handle) :
    ∃ handler target, doc.handlers link = [handler] ∧ handler.action = .turn pager count target ∧
      (target.index? doc).map UInt64.toNat =
        handle.destination (pager.sizing.pageCount count).toNat page.toNat := by
  obtain ⟨handler, target, only, turn, leads⟩ := shows.exists_handler forest turns holds
  exact ⟨handler, target, only, turn, by rw [leads, toNat_leads? valid fits inside]⟩

end

/-! ## Around the list -/

structure SameAround (list : NodeId) (before after : Document (Action ν)) : Prop where
  changed : ChangedWithin (before.preorder list) before after
  node_eq : after.node list =
    { before.node list with children := after.children list, text := after.ownText list }

theorem SameAround.refl (list : NodeId) (doc : Document (Action ν)) : SameAround list doc doc where
  changed := .refl _ doc
  node_eq := rfl

theorem SameAround.path_eq (same : SameAround list before after) (forest : before.IsForest)
    (forest' : after.IsForest) {n : NodeId} (known : n < before.size)
    (outside : n ∉ before.preorder list ∨ n = list) : after.path n = before.path n := by
  refine forest.path_kept forest' fun m above => ?_
  by_cases isList : m = list
  · rw [isList, parent, same.node_eq, parent]
  · have knownAbove := forest.known_of_mem_path known above
    rw [parent, same.changed.kept m knownAbove, parent]
    intro below
    rw [forest.mem_preorder_iff] at below
    rcases outside with outside | rfl
    · exact outside (forest.mem_preorder_iff.2 (forest.mem_path_trans above below))
    · rcases List.mem_cons.1 above with rfl | above
      · exact isList rfl
      · exact forest.not_mem_path_of_mem_ancestors above below

theorem SameAround.trans (first : SameAround list before middle)
    (second : SameAround list middle after) (forest : before.IsForest) (forest' : middle.IsForest) :
    SameAround list before after where
  changed := by
    refine first.changed.trans second.changed fun n known below => ?_
    by_contra outside
    rw [forest'.mem_preorder_iff, first.path_eq forest forest' known (.inl outside),
      ← forest.mem_preorder_iff] at below
    exact outside below
  node_eq := by
    rw [second.node_eq, first.node_eq]

/-- Whatever the contents of the list, the handlers on the list and above it leave the document as it
is when a click gets to them. -/
def QuietAround (behaviour : Behaviour ν σ) (list : NodeId) (doc : Document (Action ν)) : Prop :=
  ∀ (other : Document (Action ν)) (host : σ), other.IsForest → SameAround list doc other →
    ∃ host', Settles behaviour { document := other, host } (.click list (.done ()))
      { document := other, host := host' }

theorem quietAround_of_leavesAlone (forest : doc.IsForest) (known : list < doc.size)
    (alone : ∀ n ∈ doc.path list, ∀ handler ∈ doc.handlers n, ∀ other,
      (handler.action.program behaviour).LeavesAlone other) : QuietAround behaviour list doc := by
  intro other host forest' around
  refine settles_click_of_leavesAlone (fun m above handler member => ?_) host
  rw [around.path_eq forest forest' known (.inr rfl)] at above
  refine alone m above handler ?_ other
  rcases List.mem_cons.1 above with rfl | above'
  · rwa [handlers, around.node_eq] at member
  · have outside : m ∉ doc.preorder list := fun below =>
      forest.not_mem_path_of_mem_ancestors above' (forest.mem_preorder_iff.1 below)
    rwa [handlers, around.changed.kept m (forest.known_of_mem_ancestorsWithin above').2
      outside] at member

/-! ## Clicks -/

/-- What a click on a link comes to when page `page` is shown. -/
inductive ClickOutcome (behaviour : Behaviour ν σ) (pager : Pager ν) (code : ν) (count : UInt64)
    (list : NodeId) (world : World ν σ) (page : Nat) (link : NodeId) (handle : Handle) : Prop
  | stays (button : handle = .previous ∨ handle = .next)
      (nowhere : handle.destination (pager.sizing.pageCount count).toNat page = none)
      (settles : Settles behaviour world (.click link (.done ())) world)
  | passes (ellipsis : handle = .ellipsis)
      (bubbles : ∀ next, Settles behaviour world (.click link (.done ())) next ↔
        Settles behaviour world (.click list (.done ())) next)
      (host : σ)
      (settles : Settles behaviour world (.click link (.done ()))
        { document := world.document, host })
  | turns (next : UInt64)
      (leads : handle.destination (pager.sizing.pageCount count).toNat page = some next.toNat)
      (inside : next.toNat < (pager.sizing.pageCount count).toNat)
      (document : Document (Action ν)) (host : σ)
      (rendered : (pager.render count next).run world.document = .ok (some list) document)
      (shows : Shows pager count list document next)
      (told : Settles behaviour { document, host := world.host } (behaviour.onChange code next)
        { document, host })
      (settles : Settles behaviour world (.click link (.done ())) { document, host })

inductive ClickRun (behaviour : Behaviour ν σ) (list : NodeId) (first : World ν σ) :
    List Handle → World ν σ → Prop
  | start : ClickRun behaviour list first [] first
  | click {handles : List Handle} {handle : Handle} {world next : World ν σ} {link : NodeId}
      (before : ClickRun behaviour list first handles world)
      (isLink : IsLink world.document list link) (labels : handle.Labels world.document link)
      (settles : Settles behaviour world (.click link (.done ())) next) :
      ClickRun behaviour list first (handles ++ [handle]) next

/-- What holds between the clicks; `shown` is the document after the first rendering. -/
structure ControlState (pager : Pager ν) (count : UInt64) (list : NodeId)
    (shown doc : Document (Action ν)) (page : UInt64) : Prop where
  forest : doc.IsForest
  known : pager.container < doc.size
  shows : Shows pager count list doc page
  inside : page.toNat < (pager.sizing.pageCount count).toNat
  around : SameAround list shown doc

namespace ControlState

variable {shown : Document (Action ν)} {host : σ} {code : ν} {world next : World ν σ}

theorem outcome (valid : pager.sizing.validate = .ok ()) (fits : pager.sizing.Fits count)
    (needs : pager.sizing.needsPages count = true) (listener : pager.listener = .custom code)
    (alone : ∀ doc index, (behaviour.onChange code index).LeavesAlone doc)
    (quiet : QuietAround behaviour list shown)
    (state : ControlState pager count list shown world.document page)
    (isLink : IsLink world.document list link) :
    ∃ handle : Handle, handle.Labels world.document link ∧
      ClickOutcome behaviour pager code count list world page.toNat link handle := by
  obtain ⟨document, host⟩ := world
  obtain ⟨forest, known, shows, inside, around⟩ := state
  obtain ⟨item, handle, member, holds⟩ := shows.exists_handle forest isLink
  refine ⟨handle, holds.labels, ?_⟩
  by_cases ellipsis : handle = .ellipsis
  · subst ellipsis
    have linkPath : document.path link = link :: document.path item :=
      forest.path_of_parent (by rw [parent, holds.link_node])
    have itemPath : document.path item = item :: document.path list :=
      forest.path_of_parent (by rw [parent, holds.item_node])
    have noLinkHandler : document.handlers link = [] := List.map_eq_nil_iff.1 holds.actions
    have noItemHandler : document.handlers item = [] := by rw [handlers, holds.item_node]
    have bubbles : ∀ next, Settles behaviour { document, host } (.click link (.done ())) next ↔
        Settles behaviour { document, host } (.click list (.done ())) next := fun next =>
      (settles_click_parent linkPath noLinkHandler next).trans
        (settles_click_parent itemPath noItemHandler next)
    obtain ⟨host', settles⟩ := quiet document host forest around
    exact .passes rfl bubbles host' ((bubbles _).2 settles)
  · obtain ⟨handler, target, only, turn, leads⟩ :=
      handler_of_isHandle valid fits shows forest inside ellipsis holds
    cases reached : target.index? document with
    | none =>
        rw [reached, Option.map_none] at leads
        refine .stays ?_ leads.symm (settles_turn_nowhere only turn reached)
        cases handle <;> simp_all [Handle.destination]
    | some index =>
        rw [reached, Option.map_some] at leads
        have less := destination_lt valid fits inside member leads.symm
        obtain ⟨after, rendered, shows', -, -⟩ :=
          Pager.run_render_of_found needs forest known shows.found index
        rw [Sizing.clamp_of_lt less] at shows'
        obtain ⟨host', told, completes⟩ := (alone after index).ends behaviour host
        have notified : (behaviour.notify pager.listener index).Completes behaviour
            { document := after, host } { document := after, host := host' } := by
          rw [listener]
          exact completes
        exact .turns index leads.symm less after host' rendered shows' told
          (settles_turn only turn reached rendered notified)

theorem after_click (needs : pager.sizing.needsPages count = true) (forestShown : shown.IsForest)
    (state : ControlState pager count list shown world.document page)
    (outcome : ClickOutcome behaviour pager code count list world page.toNat link handle)
    (settles : Settles behaviour world (.click link (.done ())) next) :
    ∃ page' : UInt64,
      page'.toNat = handle.turn (pager.sizing.pageCount count).toNat page.toNat ∧
      ControlState pager count list shown next.document page' := by
  cases outcome with
  | stays _ nowhere stays =>
      rw [settles.unique stays]
      exact ⟨page, by rw [Handle.turn, nowhere]; rfl, state⟩
  | passes ellipsis _ host passes =>
      rw [settles.unique passes, ellipsis]
      exact ⟨page, rfl, state⟩
  | turns page' leads inside document host rendered shows told turns =>
      rw [settles.unique turns]
      obtain ⟨after, rendered', -, node, changed⟩ := Pager.run_render_of_found needs state.forest
        state.known state.shows.found page'
      rw [rendered] at rendered'
      cases rendered'
      refine ⟨page', by rw [Handle.turn, leads]; rfl, isForest_of_run state.forest rendered,
        Nat.lt_of_lt_of_le state.known changed.size_le, shows, inside, ?_⟩
      refine state.around.trans ⟨changed, ?_⟩ forestShown state.forest
      rw [shows.ownText]
      exact node

theorem after_run (valid : pager.sizing.validate = .ok ()) (fits : pager.sizing.Fits count)
    (needs : pager.sizing.needsPages count = true) (listener : pager.listener = .custom code)
    (alone : ∀ doc index, (behaviour.onChange code index).LeavesAlone doc)
    (quiet : QuietAround behaviour list shown)
    (state : ControlState pager count list shown shown page) {handles : List Handle}
    (run : ClickRun behaviour list { document := shown, host } handles world) :
    ∃ page' : UInt64,
      page'.toNat = handles.foldl (Handle.turn (pager.sizing.pageCount count).toNat) page.toNat ∧
      ControlState pager count list shown world.document page' := by
  induction run with
  | start => exact ⟨page, rfl, state⟩
  | click _ isLink labels settles ih =>
      obtain ⟨page', folded, state'⟩ := ih
      obtain ⟨handle, labels', outcome⟩ :=
        state'.outcome valid fits needs listener alone quiet isLink
      cases labels'.unique labels
      obtain ⟨page'', turned, state''⟩ := state'.after_click needs state.forest outcome settles
      refine ⟨page'', ?_, state''⟩
      rw [turned, folded, List.foldl_append, List.foldl_cons, List.foldl_nil]

end ControlState

/-- The control behaves as the abstract pager does. It is rendered for a page, and after any run of
clicks it shows the page that the clicked handles lead to, marked by its only active link; every link
in it shows a handle, and a click on it comes to what the handle says. -/
theorem clicks_refine_handles {code : ν} (valid : pager.sizing.validate = .ok ())
    (needs : pager.sizing.pageSize < count)
    (small : (pager.sizing.pageCount count).toNat + pager.sizing.maxHandles.toNat < 2 ^ 64)
    (reachable : doc.Reachable) (known : pager.container < doc.size)
    (listener : pager.listener = .custom code)
    (alone : ∀ doc index, (behaviour.onChange code index).LeavesAlone doc) (index : UInt64) :
    ∃ list shown, (pager.render count index).run doc = .ok (some list) shown ∧
      ∀ host handles world, QuietAround behaviour list shown →
        ClickRun behaviour list { document := shown, host } handles world →
        ∃ page : UInt64,
          page.toNat = handles.foldl (Handle.turn (pager.sizing.pageCount count).toNat)
            (min index.toNat ((pager.sizing.pageCount count).toNat - 1)) ∧
          page.toNat < (pager.sizing.pageCount count).toNat ∧
          Shows pager count list world.document page ∧
          (∃ active, world.document.selectAll list Pager.activeSelector = .ok [active] ∧
            world.document.getAttribute active Pager.indexAttribute =
              some (Decimal.ofWord page)) ∧
          ∀ link, IsLink world.document list link →
            ∃ handle : Handle, handle.Labels world.document link ∧
              ClickOutcome behaviour pager code count list world page.toNat link handle := by
  have needs' : pager.sizing.needsPages count = true := Sizing.needsPages_iff.2 needs
  have fits : pager.sizing.Fits count := .inr small
  have positive : 0 < (pager.sizing.pageCount count).toNat := by
    refine Sizing.pageCount_pos valid ?_
    exact Nat.lt_of_le_of_lt (Nat.zero_le _) (UInt64.lt_iff_toNat_lt.1 needs)
  have forest := reachable.isForest
  obtain ⟨list, shown, rendered, shows, grown⟩ :=
    Pager.run_render_shows needs' forest known index
  refine ⟨list, shown, rendered, fun host handles world quiet run => ?_⟩
  have first : ControlState pager count list shown shown (pager.sizing.clamp count index) :=
    { forest := isForest_of_run forest rendered
      known := Nat.lt_of_lt_of_le known grown
      shows
      inside := Sizing.clamp_lt positive index
      around := .refl list shown }
  obtain ⟨page, folded, state⟩ := first.after_run valid fits needs' listener alone quiet run
  rw [Sizing.toNat_clamp] at folded
  refine ⟨page, folded, state.inside, state.shows, ?_, fun link isLink => ?_⟩
  · exact exists_active valid fits state.shows state.forest state.inside
  · exact state.outcome valid fits needs' listener alone quiet isLink

/-! ## A shelf -/

def shelf : Edit (Action Unit) Unit := do
  let container ← Edit.create "div"
  Edit.onClick container (.custom ())

def bookkeeping : Behaviour Unit (List UInt64) where
  onClick _ := .stop (.done ())
  onChange _ page := .observe fun world => .setHost (world.host ++ [page]) (.done ())

def shelfPager : Pager Unit :=
  { container := 0, sizing := { pageSize := 1, maxHandles := 1 }, listener := .custom () }

theorem reachable_shelf : (shelf.after {}).Reachable := by
  have stepwise : shelf.Stepwise := by
    unfold shelf
    infer_instance
  exact stepwise.changes {}

theorem quietAround_shelf {shown : Document (Action Unit)}
    (rendered : (shelfPager.render 3 7).run (shelf.after {}) = .ok (some list) shown) :
    QuietAround bookkeeping list shown := by
  have forest := reachable_shelf.isForest
  have absent : (shelf.after {}).selectFirst shelfPager.container Pager.listSelector = .ok none := by
    rw [Pager.selectFirst_list, forest.descendants_eq]
    rfl
  have needs : shelfPager.sizing.needsPages 3 = true := by decide
  obtain ⟨list', after, rendered', shows, gains, node⟩ :=
    Pager.run_render_of_absent needs forest (by decide) absent 7
  rw [rendered] at rendered'
  cases rendered'
  have forest' : shown.IsForest := isForest_of_run forest rendered
  refine quietAround_of_leavesAlone forest' (shows.known forest') fun n above handler member other => ?_
  have up : shown.parent list = some shelfPager.container := by rw [parent, node]
  have root : shown.parent shelfPager.container = none := by
    rw [gains.parent_kept (by decide)]
    rfl
  rw [forest'.path_of_parent up, forest'.path_of_root root, List.mem_cons, List.mem_singleton] at above
  rcases above with rfl | rfl
  · rw [handlers, node] at member
    cases member
  · rw [handlers, gains.parent_node] at member
    have custom : handler.action = .custom () := by
      cases List.mem_singleton.1 member
      rfl
    rw [custom]
    exact .stop .done

theorem clicks_refine_handles_shelf :
    ∃ list shown world, (shelfPager.render 3 7).run (shelf.after {}) = .ok (some list) shown ∧
      QuietAround bookkeeping list shown ∧
      ClickRun bookkeeping list { document := shown, host := [] } [.previous] world ∧
      world.host = [1] ∧ Shows shelfPager 3 list world.document 1 := by
  have alone (doc : Document (Action Unit)) (page : UInt64) :
      (bookkeeping.onChange () page).LeavesAlone doc := .observe fun _ => .setHost .done
  have valid : shelfPager.sizing.validate = .ok () := by decide
  have needs : shelfPager.sizing.pageSize < 3 := by decide
  have known : shelfPager.container < (shelf.after {}).size := by decide
  have listener : shelfPager.listener = .custom () := rfl
  obtain ⟨list, shown, rendered, clicks⟩ :=
    clicks_refine_handles valid needs (by decide) reachable_shelf known listener alone 7
  have quiet := quietAround_shelf rendered
  have forest : shown.IsForest := isForest_of_run reachable_shelf.isForest rendered
  obtain ⟨page, folded, -, shows, -, outcomes⟩ := clicks [] [] _ quiet .start
  have last : page = 2 := UInt64.toNat_inj.1 folded
  subst last
  have member : Handle.previous ∈ (shelfPager.sizing.window 3 2).handles := by decide
  obtain ⟨item, child, link, holds⟩ := exists_right_of_mem shows.handles.flip member
  have isLink : IsLink shown list link := by
    refine ⟨?_, by rw [Document.tag, holds.link_node]⟩
    rw [forest.descendants_eq, List.mem_flatMap]
    exact ⟨item, child, by rw [holds.preorder_eq forest]; simp⟩
  obtain ⟨handle, labels, outcome⟩ := outcomes link isLink
  cases labels.unique holds.labels
  cases outcome with
  | stays _ nowhere => cases nowhere
  | passes ellipsis => cases ellipsis
  | turns next leads inside document host rendered' shows' told settles =>
      have one : next = 1 := UInt64.toNat_inj.1 (Option.some.inj leads).symm
      subst one
      have noted : Settles bookkeeping { document, host := [] } (bookkeeping.onChange () 1)
          { document, host := [1] } := .head rfl (.head rfl (.head rfl .refl))
      refine ⟨list, shown, _, rendered, quiet, .click .start isLink holds.labels settles, ?_, shows'⟩
      exact congrArg World.host (told.unique noted)

end ReportCards
