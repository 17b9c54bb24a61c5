import Mathlib.Data.List.Find
import ReportCards.Proofs.Widget.Control
import ReportCards.Proofs.Widget.Table

namespace ReportCards
open Document Edit

variable {ν : Type} {pager : Pager ν} {count index page : UInt64} {window : PageWindow}
  {list item link n : Nat} {handle : Handle} {control : Option UInt64}
  {doc before after : Document (Action ν)}

/-! ## Elements -/

def Handle.element (window : PageWindow) (handle : Handle) : Element :=
  branchElement "li" [{ leafElement "a" handle.label with
    classes := handle.classes window, attributes := handle.attributes }]

def PageWindow.element (window : PageWindow) : Element :=
  { branchElement "ul" (window.handles.map (Handle.element window)) with
    classes := [Pager.listClass] }

theorem IsHandle.element_eq (holds : IsHandle pager count window list doc item link handle)
    (forest : doc.IsForest) : doc.element item = handle.element window := by
  rw [forest.element_of_node holds.item_node, List.map_singleton,
    forest.element_of_node holds.link_node]
  cases handle <;> rfl

theorem Shows.map_element_eq (shows : Shows pager count list doc page) (forest : doc.IsForest) :
    (doc.children list).map doc.element = (pager.sizing.window count page).handles.map
      (Handle.element (pager.sizing.window count page)) := by
  rw [← List.forall₂_eq_eq_eq, List.forall₂_map_left_iff, List.forall₂_map_right_iff]
  refine shows.handles.imp fun item handle found => ?_
  obtain ⟨link, holds⟩ := found
  exact holds.element_eq forest

/-! ## What a slot holds -/

/-- The slot of the pager is empty, or the control for a page is all that is in it. -/
def HoldsControl (pager : Pager ν) (count : UInt64) (doc : Document (Action ν)) :
    (control : Option UInt64) → Prop
  | none => doc.children pager.container = []
  | some page => ∃ list, doc.children pager.container = [list] ∧
      doc.node list = { tag := "ul", classes := [Pager.listClass], children := doc.children list
                        parent := some pager.container } ∧
      Shows pager count list doc page

def controlElements (sizing : Sizing) (count : UInt64) : (control : Option UInt64) → List Element
  | none => []
  | some page => [(sizing.window count page).element]

theorem HoldsControl.map_element_eq (holds : HoldsControl pager count doc control)
    (forest : doc.IsForest) : (doc.children pager.container).map doc.element =
      controlElements pager.sizing count control := by
  cases control with
  | none =>
      have empty : doc.children pager.container = [] := holds
      rw [empty]
      rfl
  | some page =>
      obtain ⟨list, only, node, shows⟩ := holds
      rw [only, List.map_singleton, forest.element_of_node node, shows.map_element_eq forest]
      rfl

theorem Shows.kept (shows : Shows pager count list before page) (forest : before.IsForest)
    (forest' : after.IsForest)
    (same : ∀ m ∈ before.preorder pager.container, after.node m = before.node m) :
    Shows pager count list after page := by
  have inside : list ∈ before.preorder pager.container := by
    rw [forest.preorder_eq_cons]
    exact List.mem_cons_of_mem _ shows.mem_descendants
  have descendants : after.descendants pager.container = before.descendants pager.container := by
    have whole := forest.preorder_kept forest' same
    rw [forest.preorder_eq_cons, forest'.preorder_eq_cons] at whole
    exact List.tail_eq_of_cons_eq whole
  have tagged : ∀ m ∈ before.descendants pager.container,
      after.isTagged "ul" Pager.listClass m = before.isTagged "ul" Pager.listClass m := by
    intro m below
    refine isTagged_of_node (same m ?_) "ul" Pager.listClass
    rw [forest.preorder_eq_cons]
    exact List.mem_cons_of_mem _ below
  have items : ∀ item ∈ before.children list, ∀ m ∈ before.preorder item,
      after.node m = before.node m := fun item child m below =>
    same m (forest.preorder_subset_of_mem inside (forest.mem_preorder_of_child child below))
  refine ⟨?_, ?_, ?_⟩
  · rw [Pager.selectFirst_list, descendants, List.find?_congr tagged]
    exact congrArg _ shows.find?_eq
  · rw [Document.ownText, same list inside]
    exact shows.ownText
  · rw [children_of_node (same list inside)]
    refine ((List.forall₂_and_left _ _).2 ⟨items, shows.handles⟩).imp fun item handle found => ?_
    obtain ⟨sameItem, link, holds⟩ := found
    exact ⟨link, holds.kept forest sameItem⟩

theorem HoldsControl.kept (holds : HoldsControl pager count before control)
    (forest : before.IsForest) (forest' : after.IsForest)
    (same : ∀ m ∈ before.preorder pager.container, after.node m = before.node m) :
    HoldsControl pager count after control := by
  have children_eq := children_of_node (same _ forest.mem_preorder_self)
  cases control with
  | none =>
      have empty : before.children pager.container = [] := holds
      rw [HoldsControl, children_eq, empty]
  | some page =>
      obtain ⟨list, only, node, shows⟩ := holds
      have sameList : after.node list = before.node list := by
        refine same list (forest.mem_preorder_of_child ?_ forest.mem_preorder_self)
        rw [only]
        exact List.mem_singleton_self list
      refine ⟨list, by rw [children_eq, only], ?_, shows.kept forest forest' same⟩
      rw [sameList, children_of_node sameList, node]

/-! ## Rendering -/

theorem HoldsControl.render (holds : HoldsControl pager count doc control) (forest : doc.IsForest)
    (known : pager.container < doc.size) (needs : pager.sizing.needsPages count = true)
    (index : UInt64) :
    ∃ list after, (pager.render count index).run doc = .ok (some list) after ∧
      HoldsControl pager count after (some (pager.sizing.clamp count index)) ∧
      after.node pager.container =
        { doc.node pager.container with children := after.children pager.container } ∧
      ChangedWithin (doc.preorder pager.container) doc after := by
  cases control with
  | none =>
      have empty : doc.children pager.container = [] := holds
      have absent : doc.selectFirst pager.container Pager.listSelector = .ok none := by
        rw [Pager.selectFirst_list, forest.descendants_eq, empty]
        rfl
      obtain ⟨list, after, rendered, shows, gains, node⟩ :=
        Pager.run_render_of_absent needs forest known absent index
      have only : after.children pager.container = [list] := by rw [gains.children_eq, empty]; rfl
      refine ⟨list, after, rendered, ⟨list, only, node, shows⟩, ?_, ?_⟩
      · rw [gains.parent_node, only, empty]
        rfl
      · rw [forest.preorder_of_leaf empty]
        exact gains.toChangedWithin
  | some page =>
      obtain ⟨list, only, node, shows⟩ := holds
      obtain ⟨after, rendered, shows', node', changed⟩ :=
        Pager.run_render_of_found needs forest known shows.found index
      have link : doc.parent list = some pager.container := by rw [parent, node]
      have sameSlot : after.node pager.container = doc.node pager.container :=
        changed.kept _ known (forest.not_mem_preorder_child link)
      refine ⟨list, after, rendered, ⟨list, ?_, ?_, shows'⟩, ?_, ?_⟩
      · rw [children_of_node sameSlot, only]
      · rw [node', node]
      · rw [children_of_node sameSlot, sameSlot]
        rfl
      · refine changed.mono fun m below => forest.mem_preorder_of_child ?_ below
        exact (forest.mem_children_iff _ _).2 link

end ReportCards
