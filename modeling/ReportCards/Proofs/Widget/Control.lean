import ReportCards.Proofs.Selector.TagClass
import ReportCards.Proofs.Widget.Contents
import ReportCards.Proofs.Widget.Handle

/-!
# Controls

`Shows` says that a pager's container holds a control for a page: the list that the pager finds there
is filled with exactly the handles of the window around the page. `run_render_of_found` says that
rendering again turns a control for one page into one for another and touches nothing outside of the
list, and `run_render_shows` that the first rendering makes such a control, whatever the container
holds.
-/
namespace ReportCards
open Document Edit

variable {ν : Type} {pager : Pager ν} {count index page : UInt64} {window : PageWindow}
  {list item link n : Nat} {handle : Handle} {doc before after : Document (Action ν)}

/-! ## Finding the list -/

namespace Pager

theorem parse_listSelector : Selector.parse listSelector =
    .ok (.single { tag := some (.named "ul"), classes := [listClass] }) :=
  Selector.parse_tag_class ['u', 'l'] ['p', 'a', 'g', 'i', 'n', 'a', 't', 'i', 'o', 'n']
    (Selector.isName_of_all (List.cons_ne_nil _ _) rfl)
    (Selector.isName_of_all (List.cons_ne_nil _ _) rfl) rfl

theorem parse_activeSelector : Selector.parse activeSelector =
    .ok (.single { tag := some (.named "a"), classes := [activeClass] }) :=
  Selector.parse_tag_class ['a'] ['a', 'c', 't', 'i', 'v', 'e']
    (Selector.isName_of_all (List.cons_ne_nil _ _) rfl)
    (Selector.isName_of_all (List.cons_ne_nil _ _) rfl) rfl

theorem selectFirst_list (doc : Document (Action ν)) (n : NodeId) :
    doc.selectFirst n listSelector =
      .ok ((doc.descendants n).find? (doc.isTagged "ul" listClass)) :=
  doc.selectFirst_of_parse n parse_listSelector

end Pager

/-! ## The control for a page -/

structure Shows (pager : Pager ν) (count : UInt64) (list : NodeId) (doc : Document (Action ν))
    (page : UInt64) : Prop where
  found : doc.selectFirst pager.container Pager.listSelector = .ok (some list)
  ownText : doc.ownText list = ""
  handles : List.Forall₂ (fun item handle => ∃ link,
      IsHandle pager count (pager.sizing.window count page) list doc item link handle)
    (doc.children list) (pager.sizing.window count page).handles

namespace Shows

variable (shows : Shows pager count list doc page)
include shows

theorem find?_eq : (doc.descendants pager.container).find? (doc.isTagged "ul" Pager.listClass) =
    some list := by
  have found := shows.found
  rw [Pager.selectFirst_list] at found
  exact Except.ok.inj found

theorem mem_descendants : list ∈ doc.descendants pager.container :=
  List.mem_of_find?_eq_some shows.find?_eq

theorem known (forest : doc.IsForest) : list < doc.size :=
  forest.known_of_mem_descendants shows.mem_descendants

end Shows

/-! ## The handle of the current page -/

theorem IsHandle.preorder_eq (forest : doc.IsForest)
    (holds : IsHandle pager count window list doc item link handle) :
    doc.preorder item = [item, link] := by
  apply forest.preorder_of_only_leaf
  · rw [children, holds.item_node]
  · rw [children, holds.link_node]

theorem IsHandle.isTagged_link (holds : IsHandle pager count window list doc item link handle) :
    doc.isTagged "a" Pager.activeClass link = true ↔ handle = .page window.current := by
  have tag : doc.tag link = "a" := by rw [Document.tag, holds.link_node]
  have classes : doc.classes link = handle.classes window := by
    rw [Document.classes, holds.link_node]
  rw [isTagged_iff, tag, classes]
  cases handle with
  | page index =>
      by_cases current : window.current = index
      · simp [Handle.classes, PageWindow.isCurrent, current]
      · simp [Handle.classes, PageWindow.isCurrent, current, Ne.symm current]
  | previous | ellipsis | next => simp [Handle.classes]

theorem filter_active (forest : doc.IsForest) {items : List NodeId} {handles : List Handle}
    (all : List.Forall₂ (fun item handle => ∃ link,
      IsHandle pager count window list doc item link handle) items handles) :
    List.Forall₂ (fun link handle => ∃ item, IsHandle pager count window list doc item link handle)
      ((items.flatMap doc.preorder).filter (doc.isTagged "a" Pager.activeClass))
      (handles.filter (· = .page window.current)) := by
  induction all with
  | nil => exact .nil
  | @cons item handle items handles first _ ih =>
      obtain ⟨link, holds⟩ := first
      have itemTag : doc.isTagged "a" Pager.activeClass item = false := by
        rw [← Bool.not_eq_true, isTagged_iff, Document.tag, holds.item_node]
        simp
      rw [List.flatMap_cons, holds.preorder_eq forest, List.cons_append, List.cons_append,
        List.nil_append, List.filter_cons_of_neg (by simp [itemTag])]
      by_cases current : handle = .page window.current
      · rw [List.filter_cons_of_pos (holds.isTagged_link.2 current),
          List.filter_cons_of_pos (by simpa using current)]
        exact .cons ⟨item, holds⟩ ih
      · rw [List.filter_cons_of_neg (fun active => current (holds.isTagged_link.1 active)),
          List.filter_cons_of_neg (by simpa using current)]
        exact ih

theorem filter_handles (window : PageWindow) :
    window.handles.filter (· = .page window.current) =
      if window.current ∈ window.pages then [.page window.current] else [] := by
  have pages : (window.pages.map Handle.page).filter (· = .page window.current) =
      if window.current ∈ window.pages then [.page window.current] else [] := by
    have same : ((fun handle => decide (handle = Handle.page window.current)) ∘ Handle.page) =
        fun index => decide (index = window.current) := by
      funext index
      simp
    rw [List.filter_map, same, List.filter_eq]
    split
    · rename_i inside
      rw [List.count_eq_one_of_mem window.nodup_pages inside]
      rfl
    · rename_i outside
      rw [List.count_eq_zero_of_not_mem outside]
      rfl
  unfold PageWindow.handles
  simp only [List.filter_append, pages]
  cases window.hidesEarlier <;> cases window.hidesLater <;> simp

theorem IsHandle.getAttribute_index
    (holds : IsHandle pager count window list doc item link (.page index)) :
    doc.getAttribute link Pager.indexAttribute = some (Decimal.ofWord index) := by
  rw [getAttribute, holds.link_node]
  rfl

theorem Shows.selectAll_active (shows : Shows pager count list doc page) (forest : doc.IsForest)
    (inside : (pager.sizing.window count page).current ∈ (pager.sizing.window count page).pages) :
    ∃ link, doc.selectAll list Pager.activeSelector = .ok [link] ∧
      doc.getAttribute link Pager.indexAttribute =
        some (Decimal.ofWord (pager.sizing.window count page).current) := by
  have active := filter_active forest shows.handles
  rw [filter_handles, if_pos inside] at active
  cases selected : ((doc.children list).flatMap doc.preorder).filter
      (doc.isTagged "a" Pager.activeClass) with
  | nil => rw [selected] at active; cases active
  | cons link rest =>
      rw [selected] at active
      cases active with
      | cons first others =>
          cases others
          obtain ⟨item, holds⟩ := first
          refine ⟨link, ?_, holds.getAttribute_index⟩
          rw [doc.selectAll_of_parse list Pager.parse_activeSelector, forest.descendants_eq, selected]

theorem Shows.selectAll_active_of_outside (shows : Shows pager count list doc page)
    (forest : doc.IsForest)
    (outside : (pager.sizing.window count page).current ∉ (pager.sizing.window count page).pages) :
    doc.selectAll list Pager.activeSelector = .ok [] := by
  have active := filter_active forest shows.handles
  rw [filter_handles, if_neg outside, List.forall₂_nil_right_iff] at active
  rw [doc.selectAll_of_parse list Pager.parse_activeSelector, forest.descendants_eq, active]

def PageWindow.active? (window : PageWindow) : Option UInt64 :=
  if window.current ∈ window.pages then some window.current else none

theorem Shows.activeIndex_eq (shows : Shows pager count list doc page) (forest : doc.IsForest) :
    Pager.activeIndex doc list = (pager.sizing.window count page).active? := by
  rw [PageWindow.active?]
  split
  · rename_i inside
    obtain ⟨link, selected, indexed⟩ := shows.selectAll_active forest inside
    have first : doc.selectFirst list Pager.activeSelector = .ok (some link) := by
      rw [selectFirst, selected]
      rfl
    rw [Pager.activeIndex, first]
    simp only [indexed]
    exact Decimal.wordOf?_ofWord _
  · rename_i outside
    have first : doc.selectFirst list Pager.activeSelector = .ok none := by
      rw [selectFirst, shows.selectAll_active_of_outside forest outside]
      rfl
    rw [Pager.activeIndex, first]

/-! ## Rendering -/

namespace Pager

theorem run_refill (pager : Pager ν) (count : UInt64) (window : PageWindow) (forest : doc.IsForest)
    (known : list < doc.size) :
    ∃ items after, (clearContents list >>= fun _ => pager.fillList list count window).run doc =
        .ok () after ∧
      after.node list = { doc.node list with children := items, text := "" } ∧
      List.Forall₂ (fun item handle => ∃ link, IsHandle pager count window list after item link handle)
        items window.handles ∧
      ChangedWithin (doc.preorder list) doc after := by
  obtain ⟨empty, runClear, node, changed⟩ := run_clearContents forest list
  have forestEmpty : empty.IsForest := isForest_of_run forest runClear
  obtain ⟨items, after, runFill, gains, all⟩ := run_fillList pager count window forestEmpty
    (Nat.lt_of_lt_of_le known changed.size_le)
  refine ⟨items, after, ?_, ?_, all, ?_⟩
  · rw [run_bind_of_ok runClear, runFill]
  · rw [gains.parent_node, children, node]
    rfl
  · refine changed.trans gains.toChangedWithin fun m _ same => ?_
    rw [List.mem_singleton.1 same]
    exact forest.mem_preorder_self

theorem run_refill_of_found (forest : doc.IsForest) (known : pager.container < doc.size)
    (found : doc.selectFirst pager.container listSelector = .ok (some list))
    (count index : UInt64) :
    ∃ after, (clearContents list >>= fun _ =>
        pager.fillList list count (pager.sizing.window count index)).run doc = .ok () after ∧
      Shows pager count list after (pager.sizing.clamp count index) ∧
      after.node list = { doc.node list with children := after.children list, text := "" } ∧
      ChangedWithin (doc.preorder list) doc after := by
  rw [selectFirst_list] at found
  replace found := Except.ok.inj found
  have knownList : list < doc.size :=
    forest.known_of_mem_descendants (List.mem_of_find?_eq_some found)
  obtain ⟨items, after, run, node, all, changed⟩ :=
    run_refill pager count (pager.sizing.window count index) forest knownList
  have forest' : after.IsForest := isForest_of_run forest run
  have children_eq : after.children list = items := by rw [children, node]
  refine ⟨after, run, ⟨?_, ?_, ?_⟩, ?_, changed⟩
  · rw [selectFirst_list]
    refine congrArg Except.ok (forest.find?_replaced forest' known found changed ?_)
    have tagged := List.find?_some found
    rw [isTagged_iff, Document.tag, Document.classes] at tagged ⊢
    rw [node]
    exact tagged
  · rw [ownText, node]
  · rw [children_eq, Sizing.window_clamp]
    exact all
  · rw [node, children_eq]

theorem run_findOrCreateList_of_found {container : Nat}
    (found : doc.selectFirst container listSelector = .ok (some list)) :
    (findOrCreateList container).run doc = .ok list doc := by
  rw [findOrCreateList, EStateM.run_bind, EStateM.run_get]
  simp only [found]
  rfl

theorem run_findOrCreateList (forest : doc.IsForest) {container : Nat} (known : container < doc.size) :
    ∃ list after, (findOrCreateList container).run doc = .ok list after ∧ doc.size ≤ after.size ∧
      after.selectFirst container listSelector = .ok (some list) ∧
      ((after = doc ∧ doc.selectFirst container listSelector = .ok (some list)) ∨
        (doc.selectFirst container listSelector = .ok none ∧ Gains container [list] doc after ∧
          after.node list = { tag := "ul", classes := [listClass], parent := some container })) := by
  cases found : (doc.descendants container).find? (doc.isTagged "ul" listClass) with
  | some list =>
      have select : doc.selectFirst container listSelector = .ok (some list) := by
        rw [selectFirst_list, found]
      exact ⟨list, doc, run_findOrCreateList_of_found select, Nat.le_refl _, select, .inl ⟨rfl, select⟩⟩
  | none =>
      have select : doc.selectFirst container listSelector = .ok none := by
        rw [selectFirst_list, found]
      let created := doc.insert { tag := "ul", classes := [listClass] }
      have runCreate : (createWithClasses "ul" [listClass]).run doc = .ok doc.size created :=
        run_createWithClasses (by decide) (by decide) (by decide) (by decide) doc
      have forestCreated : created.IsForest := isForest_of_run forest runCreate
      have built : ChangedWithin [] doc created :=
        ⟨Nat.le_of_lt (by simp [created]), fun n old _ => node_insert_of_lt _ _ old⟩
      have node : created.node doc.size = { tag := "ul", classes := [listClass] } :=
        node_insert_self ..
      obtain ⟨runAppend, gains, listNode, -⟩ := forest.gains_adopt forestCreated built known
        (Nat.le_refl _) (by simp [created]) (by rw [parent, node])
      have forest' : (created.adopt container doc.size).IsForest :=
        isForest_of_run forestCreated runAppend
      rw [node] at listNode
      refine ⟨doc.size, _, ?_, gains.size_le, ?_, .inr ⟨select, gains, listNode⟩⟩
      · rw [findOrCreateList, EStateM.run_bind, EStateM.run_get]
        simp only [select]
        rw [run_bind_of_ok runCreate, run_bind_of_ok runAppend]
        rfl
      · have old : (doc.descendants container).find?
            ((created.adopt container doc.size).isTagged "ul" listClass) = none := by
          rw [List.find?_eq_none] at found ⊢
          intro m below
          rw [isTagged_of_node (gains.kept_descendants forest below)]
          exact found m below
        have tagged : (created.adopt container doc.size).isTagged "ul" listClass doc.size = true := by
          rw [isTagged_iff, Document.tag, Document.classes, listNode]
          exact ⟨rfl, List.mem_singleton_self _⟩
        rw [selectFirst_list, gains.descendants_eq forest forest', List.find?_append, old,
          Option.none_or, List.flatMap_singleton, forest'.preorder_eq_cons,
          List.find?_cons_of_pos tagged]

theorem run_render (needs : pager.sizing.needsPages count = true) {found : Document (Action ν)}
    (run : (findOrCreateList pager.container).run doc = .ok list found)
    (refill : (clearContents list >>= fun _ =>
      pager.fillList list count (pager.sizing.window count index)).run found = .ok () after) :
    (pager.render count index).run doc = .ok (some list) after := by
  rw [render, if_pos needs, run_bind_of_ok run]
  rw [← bind_assoc, run_bind_of_ok refill]
  rfl

theorem run_render_of_not_needs (pager : Pager ν) (unneeded : pager.sizing.needsPages count = false)
    (doc : Document (Action ν)) (index : UInt64) :
    (pager.render count index).run doc = .ok none doc := by
  rw [render, unneeded]
  rfl

theorem needsPages_of_run_render (run : (pager.render count index).run doc = .ok (some list) after) :
    pager.sizing.needsPages count = true := by
  by_contra unneeded
  rw [Bool.not_eq_true] at unneeded
  rw [pager.run_render_of_not_needs unneeded] at run
  cases run

theorem run_render_of_found (needs : pager.sizing.needsPages count = true) (forest : doc.IsForest)
    (known : pager.container < doc.size)
    (found : doc.selectFirst pager.container listSelector = .ok (some list)) (index : UInt64) :
    ∃ after, (pager.render count index).run doc = .ok (some list) after ∧
      Shows pager count list after (pager.sizing.clamp count index) ∧
      after.node list = { doc.node list with children := after.children list, text := "" } ∧
      ChangedWithin (doc.preorder list) doc after := by
  obtain ⟨list', found', run, -, -, cases⟩ := run_findOrCreateList forest known
  rw [found] at cases
  rcases cases with ⟨rfl, same⟩ | ⟨absent, -⟩
  · cases same
    obtain ⟨after, refill, rest⟩ := run_refill_of_found forest known found count index
    exact ⟨after, run_render needs run refill, rest⟩
  · cases absent

theorem run_render_shows (needs : pager.sizing.needsPages count = true) (forest : doc.IsForest)
    (known : pager.container < doc.size) (index : UInt64) :
    ∃ list after, (pager.render count index).run doc = .ok (some list) after ∧
      Shows pager count list after (pager.sizing.clamp count index) ∧ doc.size ≤ after.size := by
  obtain ⟨list, found, run, grown, select, -⟩ := run_findOrCreateList forest known
  have forestFound : found.IsForest := isForest_of_run forest run
  obtain ⟨after, refill, shows, -, changed⟩ :=
    run_refill_of_found forestFound (Nat.lt_of_lt_of_le known grown) select count index
  exact ⟨list, after, run_render needs run refill, shows, Nat.le_trans grown changed.size_le⟩

theorem run_render_of_absent (needs : pager.sizing.needsPages count = true) (forest : doc.IsForest)
    (known : pager.container < doc.size)
    (absent : doc.selectFirst pager.container listSelector = .ok none) (index : UInt64) :
    ∃ list after, (pager.render count index).run doc = .ok (some list) after ∧
      Shows pager count list after (pager.sizing.clamp count index) ∧
      Gains pager.container [list] doc after ∧
      after.node list = { tag := "ul", classes := [listClass], parent := some pager.container
                          children := after.children list } := by
  obtain ⟨list, found, run, -, select, cases⟩ := run_findOrCreateList forest known
  rw [absent] at cases
  rcases cases with ⟨-, present⟩ | ⟨-, gains, node⟩
  · cases present
  have forestFound : found.IsForest := isForest_of_run forest run
  obtain ⟨after, refill, shows, node', changed⟩ := run_refill_of_found forestFound
    (Nat.lt_of_lt_of_le known gains.size_le) select count index
  have new : doc.size ≤ list := gains.size_le_new list (List.mem_singleton_self list)
  have leaf : found.preorder list = [list] :=
    forestFound.preorder_of_leaf (by rw [children, node])
  rw [leaf] at changed
  have kept (m : Nat) (old : m < doc.size) : after.node m = found.node m :=
    changed.kept m (Nat.lt_of_lt_of_le old gains.size_le)
      (by rw [List.mem_singleton]; rintro rfl; exact absurd old (Nat.not_lt.2 new))
  refine ⟨list, after, run_render needs run refill, shows,
    ⟨⟨Nat.le_trans gains.size_le changed.size_le, fun m old outside => ?_⟩, ?_, gains.size_le_new⟩, ?_⟩
  · rw [kept m old, gains.kept m old outside]
  · rw [kept _ known, gains.parent_node]
  · rw [node', node]

end Pager

end ReportCards
