import ReportCards.Proofs.Document.Growth
import ReportCards.Proofs.Paging.Window

namespace ReportCards
open Document Edit

inductive Handle where
  | previous
  | ellipsis
  | page (index : UInt64)
  | next
deriving DecidableEq, Repr

namespace Handle

variable {ν : Type}

def destination (pageCount current : Nat) : Handle → Option Nat
  | previous => if 0 < current then some (current - 1) else none
  | ellipsis => none
  | page index => some index.toNat
  | next => if current + 1 < pageCount then some (current + 1) else none

def turn (pageCount current : Nat) (handle : Handle) : Nat :=
  (handle.destination pageCount current).getD current

def label : Handle → String
  | previous => Pager.previousLabel
  | ellipsis => Pager.ellipsisLabel
  | page index => Decimal.ofWord (index + 1)
  | next => Pager.nextLabel

def attributes : Handle → List (String × String)
  | page index => [(Pager.indexAttribute, Decimal.ofWord index)]
  | _ => []

def classes (window : PageWindow) : Handle → List String
  | page index => if window.isCurrent index then [Pager.activeClass] else []
  | _ => []

def actions (pager : Pager ν) (count : UInt64) (window : PageWindow) (list : NodeId) :
    Handle → List (Action ν)
  | previous => [.turn pager count (.previous list)]
  | ellipsis => []
  | page index => [.turn pager count (.page index)]
  | next => [.turn pager count (.next list window.pageCount)]

end Handle

def PageWindow.handles (window : PageWindow) : List Handle :=
  [.previous] ++ (if window.hidesEarlier then [.ellipsis] else [])
    ++ window.pages.map .page ++ (if window.hidesLater then [.ellipsis] else []) ++ [.next]

variable {ν : Type} {pager : Pager ν} {count : UInt64} {window : PageWindow} {list item link : Nat}
  {handle : Handle} {doc before after : Document (Action ν)}

namespace Pager

def drawHandle (pager : Pager ν) (list : NodeId) (count : UInt64) (window : PageWindow)
    (handle : Handle) : Edit (Action ν) Unit := do
  let link ← addHandle list handle.label
  handle.attributes.forM fun (name, value) => setAttribute link name value
  (handle.classes window).forM (addClass link)
  (handle.actions pager count window list).forM (onClick link)

theorem fillList_eq (pager : Pager ν) (list : NodeId) (count : UInt64) (window : PageWindow) :
    pager.fillList list count window = window.handles.forM (pager.drawHandle list count window) := by
  have page (index : UInt64) : pager.drawHandle list count window (.page index) =
      pager.addPageHandle list count window index := by
    unfold drawHandle addPageHandle Handle.attributes Handle.classes Handle.actions
    by_cases current : window.isCurrent index <;> simp [current, Handle.label]
  have ellipsis : pager.drawHandle list count window .ellipsis =
      (addHandle list ellipsisLabel >>= fun _ => pure ()) := by
    simp [drawHandle, Handle.attributes, Handle.classes, Handle.actions, Handle.label]
  have ends (handle : Handle) (plain : handle.attributes = [] ∧ handle.classes window = [])
      (action : Action ν) (only : handle.actions pager count window list = [action]) :
      pager.drawHandle list count window handle =
        (addHandle list handle.label >>= fun link => onClick link action) := by
    simp [drawHandle, plain, only]
  have pages : (window.pages.map Handle.page).forM (pager.drawHandle list count window) =
      window.pages.forM (pager.addPageHandle list count window) := by
    simp only [List.forM_eq_forM, List.forM_map, page]
  rw [List.forM_eq_forM] at pages
  unfold fillList PageWindow.handles
  simp only [List.forM_eq_forM, List.forM_append, List.forM_cons, List.forM_nil, pages,
    ends .previous ⟨rfl, rfl⟩ _ rfl, ends .next ⟨rfl, rfl⟩ _ rfl]
  cases window.hidesEarlier <;> cases window.hidesLater <;> simp [ellipsis, Handle.label]

end Pager

/-- The item is in the list, and the link in it is the handle. -/
structure IsHandle (pager : Pager ν) (count : UInt64) (window : PageWindow) (list : NodeId)
    (doc : Document (Action ν)) (item link : NodeId) (handle : Handle) : Prop where
  item_node : doc.node item = { tag := "li", children := [link], parent := some list }
  link_node : doc.node link =
    { tag := "a", classes := handle.classes window, attributes := handle.attributes
      text := handle.label, parent := some item, handlers := doc.handlers link }
  actions : (doc.handlers link).map (·.action) = handle.actions pager count window list

theorem IsHandle.kept (forest : before.IsForest)
    (same : ∀ m ∈ before.preorder item, after.node m = before.node m)
    (holds : IsHandle pager count window list before item link handle) :
    IsHandle pager count window list after item link handle := by
  have child : link ∈ before.children item := by
    rw [children, holds.item_node]
    exact List.mem_singleton_self link
  have sameItem := same item forest.mem_preorder_self
  have sameLink := same link (forest.mem_preorder_of_child child forest.mem_preorder_self)
  have sameHandlers : after.handlers link = before.handlers link := by
    rw [handlers, sameLink, handlers]
  refine ⟨?_, ?_, ?_⟩
  · rw [sameItem, holds.item_node]
  · rw [sameLink, sameHandlers]
    exact holds.link_node
  · rw [sameHandlers, holds.actions]

/-! ## Drawing -/

namespace Pager

theorem run_addHandle (forest : doc.IsForest) (known : list < doc.size) (label : String) :
    ∃ after, (addHandle list label).run doc = .ok (doc.size + 1) after ∧
      Gains list [doc.size] doc after ∧ doc.size + 1 < after.size ∧
      after.node doc.size = { tag := "li", children := [doc.size + 1], parent := some list } ∧
      after.node (doc.size + 1) = { tag := "a", text := label, parent := some doc.size } := by
  obtain ⟨d1, createItem, e1, size1⟩ := (Extends.refl doc).plant rfl
    (run_create_of_small (by decide : isTagName "li" = true) (by decide) doc)
  obtain ⟨d2, createLink, e2, size2⟩ := e1.plant size1
    (run_create_of_small (by decide : isTagName "a" = true) (by decide) d1)
  have leaf : d2.children (doc.size + 1) = [] := by
    rw [children, e2.new_eq 1 (by simp)]
    rfl
  have setLabel := run_setText_of_leaf leaf label
  have e3 := e2.update (i := 1) (by simp) fun node => { node with text := label }
  have forest3 := isForest_of_run (isForest_of_run (isForest_of_run forest createItem) createLink) setLabel
  obtain ⟨d4, appendLink, e4, -⟩ :=
    e3.adopt (i := 0) (j := 1) forest3 (by simp) (by simp) (by simp) rfl rfl
  have forest4 := isForest_of_run forest3 appendLink
  have size4 : doc.size + 2 ≤ d4.size := e4.size_le
  have itemNode : d4.node doc.size = { tag := "li", children := [doc.size + 1] } :=
    e4.new_eq 0 (by simp)
  obtain ⟨appendItem, gains, item, others⟩ := forest.gains_adopt forest4 e4.changedWithin known
    (Nat.le_refl _) (by omega) (by rw [parent, itemNode])
  refine ⟨_, ?_, gains, by rw [size_adopt]; omega, by rw [item, itemNode], ?_⟩
  · refine (run_bind_of_ok createItem).trans ?_
    refine (run_bind_of_ok createLink).trans ?_
    refine (run_bind_of_ok setLabel).trans ?_
    refine (run_bind_of_ok appendLink).trans ?_
    exact (run_bind_of_ok appendItem).trans rfl
  · exact (others _ (by omega) (by omega)).trans (e4.new_eq 1 (by simp))

theorem run_setAttributes (handle : Handle) (known : link < doc.size)
    (plain : doc.attributes link = []) :
    ∃ after, (handle.attributes.forM fun (name, value) => setAttribute link name value).run doc =
        .ok PUnit.unit after ∧
      Rewrites link { doc.node link with attributes := handle.attributes } doc after := by
  cases handle with
  | page index =>
      have accepted : isAttributeName indexAttribute = true := by decide
      have noAttributes : (doc.node link).attributes = [] := plain
      refine ⟨_, run_forM_singleton (run_setAttribute accepted link _), ?_⟩
      convert rewrites_update doc known _ using 1
      rw [Node.setAttribute, if_neg (by decide), noAttributes]
      rfl
  | previous | ellipsis | next =>
      refine ⟨doc, rfl, ?_⟩
      convert Rewrites.refl link doc using 1
      simp only [Handle.attributes, ← plain]
      rfl

theorem run_addClasses (handle : Handle) (window : PageWindow) (known : link < doc.size)
    (plain : doc.classes link = []) :
    ∃ after, ((handle.classes window).forM (addClass link)).run doc = .ok PUnit.unit after ∧
      Rewrites link { doc.node link with classes := handle.classes window } doc after := by
  have atMostOne : handle.classes window = [activeClass] ∨ handle.classes window = [] := by
    unfold Handle.classes
    split
    · split <;> simp
    · simp
  rcases atMostOne with marked | unmarked
  · have accepted : isClassName activeClass = true := by decide
    have noClasses : (doc.node link).classes = [] := plain
    rw [marked]
    refine ⟨_, run_forM_singleton (run_addClass accepted link), ?_⟩
    convert rewrites_update doc known _ using 1
    rw [Node.addClass, noClasses]
    rfl
  · rw [unmarked]
    refine ⟨doc, rfl, ?_⟩
    convert Rewrites.refl link doc using 1
    rw [← plain]
    rfl

theorem run_onClicks (pager : Pager ν) (count : UInt64) (window : PageWindow) (list : NodeId)
    (handle : Handle) (known : link < doc.size) (plain : doc.handlers link = []) :
    ∃ after handlers,
      ((handle.actions pager count window list).forM (onClick link)).run doc =
        .ok PUnit.unit after ∧
      Rewrites link { doc.node link with handlers } doc after ∧
      handlers.map (·.action) = handle.actions pager count window list := by
  have noHandlers : (doc.node link).handlers = [] := plain
  have atMostOne : (∃ action, handle.actions pager count window list = [action]) ∨
      handle.actions pager count window list = [] := by
    cases handle <;> simp [Handle.actions]
  rcases atMostOne with ⟨action, one⟩ | none
  · rw [one]
    refine ⟨_, [{ serial := doc.registered, action }],
      run_forM_singleton (run_onClick link action), ?_, rfl⟩
    have counted : Rewrites link (doc.node link) doc
      { doc with registered := doc.registered + 1 } := ⟨rfl, fun _ _ => rfl, rfl⟩
    refine counted.trans ?_
    convert rewrites_update _ (by rwa [counted.size_eq]) _ using 1
    rw [counted.node_eq, noHandlers]
    rfl
  · rw [none]
    refine ⟨doc, [], rfl, ?_, rfl⟩
    convert Rewrites.refl link doc using 1
    rw [← noHandlers]

theorem run_decorate (pager : Pager ν) (count : UInt64) (window : PageWindow) (list : NodeId)
    (handle : Handle) (known : link < doc.size) {node : Node (Action ν)} (old : doc.node link = node)
    (plain : node.classes = [] ∧ node.attributes = [] ∧ node.handlers = []) :
    ∃ after handlers, (do
        handle.attributes.forM fun (name, value) => setAttribute link name value
        (handle.classes window).forM (addClass link)
        (handle.actions pager count window list).forM (onClick link) :
          Edit (Action ν) PUnit).run doc = .ok PUnit.unit after ∧
      Rewrites link { node with
        classes := handle.classes window, attributes := handle.attributes, handlers } doc after ∧
      handlers.map (·.action) = handle.actions pager count window list := by
  obtain ⟨noClasses, noAttributes, noHandlers⟩ := plain
  obtain ⟨d1, runAttributes, first⟩ :=
    run_setAttributes handle known (by rw [attributes, old, noAttributes])
  rw [old] at first
  have known1 : link < d1.size := by rwa [first.size_eq]
  obtain ⟨d2, runClasses, second⟩ :=
    run_addClasses handle window known1 (by rw [classes, first.node_eq, noClasses])
  rw [first.node_eq] at second
  have known2 : link < d2.size := by rwa [second.size_eq]
  obtain ⟨d3, handlers, runActions, third, same⟩ := run_onClicks pager count window list handle known2
    (by rw [Document.handlers, second.node_eq, noHandlers])
  rw [second.node_eq] at third
  refine ⟨d3, handlers, ?_, (first.trans second).trans third, same⟩
  rw [run_bind_of_ok runAttributes, run_bind_of_ok runClasses, runActions]

theorem run_drawHandle (pager : Pager ν) (count : UInt64) (window : PageWindow) (handle : Handle)
    (forest : doc.IsForest) (known : list < doc.size) :
    ∃ item after, (pager.drawHandle list count window handle).run doc = .ok PUnit.unit after ∧
      Gains list [item] doc after ∧
      ∃ link, IsHandle pager count window list after item link handle := by
  obtain ⟨middle, runAdd, gains, size, itemNode, linkNode⟩ :=
    run_addHandle forest known handle.label
  obtain ⟨after, handlers, runDecorate, rewrites, actions⟩ := run_decorate pager count window list
    handle size linkNode ⟨rfl, rfl, rfl⟩
  have handlersEq : after.handlers (doc.size + 1) = handlers := by
    rw [Document.handlers, rewrites.node_eq]
  refine ⟨doc.size, after, ?_, ⟨⟨?_, fun n old outside => ?_⟩, ?_, gains.size_le_new⟩,
    doc.size + 1, ?_, ?_, ?_⟩
  · rw [drawHandle, run_bind_of_ok runAdd]
    exact runDecorate
  · rw [rewrites.size_eq]
    exact gains.size_le
  · rw [rewrites.other n (Nat.ne_of_lt (Nat.lt_succ_of_lt old)), gains.kept n old outside]
  · rw [rewrites.other list (Nat.ne_of_lt (Nat.lt_succ_of_lt known)), gains.parent_node]
  · rw [rewrites.other _ (Nat.ne_of_lt (Nat.lt_succ_self _)), itemNode]
  · rw [rewrites.node_eq, handlersEq]
  · rw [handlersEq, actions]

instance (pager : Pager ν) (list : NodeId) (count : UInt64) (window : PageWindow)
    (handle : Handle) : Stepwise (pager.drawHandle list count window handle) := by
  unfold drawHandle
  infer_instance

theorem run_fillList (pager : Pager ν) (count : UInt64) (window : PageWindow)
    (forest : doc.IsForest) (known : list < doc.size) :
    ∃ items after, (pager.fillList list count window).run doc = .ok () after ∧
      Gains list items doc after ∧
      List.Forall₂ (fun item handle => ∃ link, IsHandle pager count window list after item link handle)
        items window.handles := by
  rw [fillList_eq]
  refine run_forM_of_gains (fun forest _ same holds => ?_) (fun handle doc forest known => ?_)
    window.handles forest known
  · obtain ⟨link, isHandle⟩ := holds
    exact ⟨link, isHandle.kept forest same⟩
  · exact run_drawHandle pager count window handle forest known

end Pager
end ReportCards
