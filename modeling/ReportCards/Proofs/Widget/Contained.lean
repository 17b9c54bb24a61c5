import ReportCards.Proofs.Click.Stopping
import ReportCards.Proofs.Widget.Turning

namespace ReportCards
open Relation Document Edit Machine

variable {ν σ : Type} {behaviour : Behaviour ν σ} {pager : Pager ν} {count : UInt64} {window : PageWindow}
  {list item link n : Nat} {handle : Handle} {doc before after : Document (Action ν)}

structure HoldsHandle (pager : Pager ν) (count : UInt64) (window : PageWindow) (list : NodeId)
    (doc : Document (Action ν)) (item link : NodeId) (handle : Handle) : Prop where
  item_node : doc.node item =
    { tag := "li", children := [link], parent := some list, handlers := doc.handlers item }
  link_node : doc.node link =
    { tag := "a", classes := handle.classes window, attributes := handle.attributes
      text := handle.label, parent := some item, handlers := doc.handlers link }
  actions : (doc.handlers link).map (·.action) = handle.actions pager count window list

def Pager.HandlesIn (pager : Pager ν) (list : NodeId) (doc : Document (Action ν)) : Prop :=
  ∃ (count : UInt64) (window : PageWindow), List.Forall₂
    (fun item handle => ∃ link, HoldsHandle pager count window list doc item link handle)
    (doc.children list) window.handles

/-- The pager has rendered its control in the list, and since then others have changed nothing of it but
handlers that are not on its links. -/
inductive Pager.HasRendered (pager : Pager ν) (list : NodeId) : Document (Action ν) → Prop
  | render {count index : UInt64} {before after : Document (Action ν)} (reachable : before.Reachable)
      (known : pager.container < before.size)
      (run : (pager.render count index).run before = .ok (some list) after) : HasRendered pager list after
  | elsewhere {before after : Document (Action ν)} (rendered : HasRendered pager list before)
      (changes : ReflTransGen Change before after) (children : after.children list = before.children list)
      (kept : ∀ n ∈ before.descendants list,
        after.node n = { before.node n with handlers := after.handlers n })
      (links : ∀ link, IsLink before list link → after.handlers link = before.handlers link) :
      HasRendered pager list after

theorem IsHandle.holdsHandle (holds : IsHandle pager count window list doc item link handle) :
    HoldsHandle pager count window list doc item link handle where
  item_node := by rw [handlers, holds.item_node]
  link_node := holds.link_node
  actions := holds.actions

namespace HoldsHandle

variable (holds : HoldsHandle pager count window list doc item link handle)
include holds

theorem labels : handle.Labels doc link where
  text := by rw [ownText, holds.link_node]
  attributes := by rw [attributes, holds.link_node]

theorem parent_link : doc.parent link = some item := by
  rw [parent, holds.link_node]

theorem parent_item : doc.parent item = some list := by
  rw [parent, holds.item_node]

theorem preorder_eq (forest : doc.IsForest) : doc.preorder item = [item, link] := by
  apply forest.preorder_of_only_leaf
  · rw [children, holds.item_node]
  · rw [children, holds.link_node]

theorem isLink (forest : doc.IsForest) : IsLink doc list link := by
  constructor
  · rw [forest.mem_descendants_iff, forest.ancestors_of_parent holds.parent_link,
      forest.ancestors_of_parent holds.parent_item]
    exact List.mem_cons_of_mem _ List.mem_cons_self
  · rw [Document.tag, holds.link_node]

end HoldsHandle

namespace Pager

theorem HandlesIn.exists_handle (handles : pager.HandlesIn list doc) (forest : doc.IsForest)
    (isLink : IsLink doc list link) :
    ∃ count window item handle, HoldsHandle pager count window list doc item link handle := by
  obtain ⟨count, window, all⟩ := handles
  obtain ⟨below, anchor⟩ := isLink
  rw [forest.descendants_eq, List.mem_flatMap] at below
  obtain ⟨item, child, below⟩ := below
  obtain ⟨handle, -, other, holds⟩ := exists_right_of_mem all child
  rw [holds.preorder_eq forest, List.mem_cons, List.mem_singleton] at below
  rcases below with rfl | rfl
  · rw [Document.tag, holds.item_node] at anchor
    exact absurd anchor (by decide : "li" ≠ "a")
  · exact ⟨count, window, item, handle, holds⟩

theorem HandlesIn.kept (handles : pager.HandlesIn list before) (forest : before.IsForest)
    (children : after.children list = before.children list)
    (kept : ∀ n ∈ before.descendants list,
      after.node n = { before.node n with handlers := after.handlers n })
    (links : ∀ link, IsLink before list link → after.handlers link = before.handlers link) :
    pager.HandlesIn list after := by
  obtain ⟨count, window, all⟩ := handles
  refine ⟨count, window, ?_⟩
  rw [children]
  apply all.imp
  rintro item handle ⟨link, holds⟩
  have isLink := holds.isLink forest
  have below : item ∈ before.descendants list := by
    rw [forest.mem_descendants_iff, forest.ancestors_of_parent holds.parent_item]
    exact List.mem_cons_self
  refine ⟨link, ?_, ?_, ?_⟩
  · rw [kept item below, holds.item_node]
  · rw [kept link isLink.1, holds.link_node]
  · rw [links link isLink, holds.actions]

theorem HasRendered.isForest (rendered : pager.HasRendered list doc) : doc.IsForest := by
  induction rendered with
  | render reachable _ run => exact isForest_of_run reachable.isForest run
  | elsewhere _ changes _ _ _ ih => exact ih.of_changes changes

theorem HasRendered.handlesIn (rendered : pager.HasRendered list doc) : pager.HandlesIn list doc := by
  induction rendered with
  | @render count index before after reachable known run =>
      obtain ⟨list', after', run', shows, -⟩ :=
        run_render_shows (needsPages_of_run_render run) reachable.isForest known index
      rw [run] at run'
      cases run'
      refine ⟨count, _, shows.handles.imp ?_⟩
      rintro item handle ⟨link, holds⟩
      exact ⟨link, holds.holdsHandle⟩
  | elsewhere rendered _ children kept links ih => exact ih.kept rendered.isForest children kept links

end Pager

theorem HoldsHandle.exists_turn (holds : HoldsHandle pager count window list doc item link handle)
    (turns : handle ≠ .ellipsis) :
    ∃ handler ∈ doc.handlers link, ∃ target, handler.action = .turn pager count target := by
  have actions := holds.actions
  have one {target : Target} (only : (doc.handlers link).map (·.action) = [.turn pager count target]) :
      ∃ handler ∈ doc.handlers link, ∃ target, handler.action = .turn pager count target := by
    obtain ⟨handler, single, action⟩ := List.map_eq_singleton_iff.1 only
    exact ⟨handler, by rw [single]; exact List.mem_singleton_self handler, target, action⟩
  cases handle with
  | ellipsis => exact absurd rfl turns
  | previous | page index | next => exact one actions

variable {machine : Machine ν σ}

/-- A click on a link of a control is stopped at the link, unless this is an ellipsis: then the link has no
handler, and the click is one on the item that the link is in. The handlers of the link are idle, that is, the
click is not one that they make themselves. -/
theorem Pager.clicks_stay_in_control (reachable : machine.Reachable behaviour) {who : Option Nat}
    {goOn : Program ν σ Unit} {rest : List (Frame ν σ)}
    (clicks : machine.stack = .running who (.click link goOn) :: rest)
    (rendered : pager.HasRendered list machine.world.document)
    (isLink : IsLink machine.world.document list link)
    (idle : ∀ handler ∈ machine.world.document.handlers link, handler.serial ∉ machine.runningHandlers) :
    ∃ handle : Handle, handle.Labels machine.world.document link ∧
      ∃ begun, machine.step behaviour = some begun ∧
        (handle ≠ .ellipsis →
          ∀ steps, (∀ earlier < steps,
              machine.stack.length < (begun.run behaviour earlier).stack.length) →
            (∀ visit ∈ begun.visitsAfter behaviour machine.stack.length steps, visit.node = link) ∧
              (machine.stack.length < (begun.run behaviour steps).stack.length ∨
                (begun.run behaviour steps).stack = .running who goOn :: rest ∧
                  ∃ visit, begun.visitsAfter behaviour machine.stack.length steps = [visit] ∧
                    visit.stopped = true)) ∧
        (handle = .ellipsis →
          machine.world.document.handlers link = [] ∧
            ∃ item, machine.world.document.parent link = some item ∧
              begun.run behaviour 1 =
                { machine with stack := clickOn machine.world.document item :: .running who goOn :: rest }) := by
  have forest := rendered.isForest
  obtain ⟨count, window, item, handle, holds⟩ := rendered.handlesIn.exists_handle forest isLink
  refine ⟨handle, holds.labels, ?_⟩
  by_cases ellipsis : handle = .ellipsis
  · subst ellipsis
    have silent : machine.world.document.handlers link = [] := List.map_eq_nil_iff.1 holds.actions
    have path := forest.path_of_parent holds.parent_link
    obtain ⟨world, frames⟩ := machine
    cases clicks
    refine ⟨_, rfl, fun turns => absurd rfl turns, fun _ => ⟨silent, item, holds.parent_link, ?_⟩⟩
    rw [clickOn, path]
    simp only [run, Machine.step, silent]
    rfl
  · obtain ⟨handler, member, target, turn⟩ := holds.exists_turn ellipsis
    have stops := Action.willStop_turn behaviour pager count target
    rw [← turn] at stops
    obtain ⟨begun, move, stays⟩ := click_visits_one reachable clicks member (idle handler member) stops
    exact ⟨begun, move, fun _ => stays, fun same => absurd same ellipsis⟩

/-! ## Clicks on a shelf -/

def stocking : Program Unit (List UInt64) Unit :=
  .perform (.create "div") fun _ => .perform (.onClick 0 (.custom ())) fun _ =>
    .perform (.renderPager shelfPager 3 7) fun _ => .done ()

theorem reachable_stocked {shown : Document (Action Unit)}
    (run : (shelfPager.render 3 7).run (shelf.after {}) = .ok (some list) shown)
    (program : Program Unit (List UInt64) Unit) :
    (start { document := shown, host := [] } program).Reachable bookkeeping := by
  have stocked : ((start { document := {}, host := [] } stocking).run bookkeeping 3).world.document =
      ((Operation.renderPager shelfPager 3 7).apply (shelf.after {})).2 := rfl
  have applied : ((Operation.renderPager shelfPager 3 7).apply (shelf.after {})).2 = shown := by
    rw [Operation.apply, Operation.edit, run]
  rw [← applied, ← stocked]
  exact .restart ((Reachable.first [] stocking).run 3) [] program

theorem Pager.clicks_stay_in_control_shelf :
    ∃ list shown next ellipsis item, shelfPager.HasRendered list shown ∧
      Handle.next.Labels shown next ∧ Handle.ellipsis.Labels shown ellipsis ∧
      shown.parent ellipsis = some item ∧
      (∃ begun, (start { document := shown, host := [] } (.click next (.done ()))).step bookkeeping =
          some begun ∧
        ∀ steps, (∀ earlier < steps, 1 < (begun.run bookkeeping earlier).stack.length) →
          ∀ visit ∈ begun.visitsAfter bookkeeping 1 steps, visit.node = next) ∧
      (start { document := shown, host := [] } (.click ellipsis (.done ()))).run bookkeeping 2 =
        { world := { document := shown, host := [] }
          stack := [clickOn shown item, .running none (.done ())] } := by
  have forest := reachable_shelf.isForest
  have needs : shelfPager.sizing.needsPages 3 = true := by decide
  have known : shelfPager.container < (shelf.after {}).size := by decide
  obtain ⟨list, shown, run, shows, -⟩ := run_render_shows needs forest known 7
  have forest' : shown.IsForest := isForest_of_run forest run
  have rendered : shelfPager.HasRendered list shown := .render reachable_shelf known run
  have forward : Handle.next ∈ (shelfPager.sizing.window 3 2).handles := by decide
  have hidden : Handle.ellipsis ∈ (shelfPager.sizing.window 3 2).handles := by decide
  obtain ⟨next, isNext, labelsNext⟩ := shows.exists_link forest' forward
  obtain ⟨ellipsis, isEllipsis, labelsEllipsis⟩ := shows.exists_link forest' hidden
  obtain ⟨handle, labels, begun, move, stays, -⟩ := clicks_stay_in_control
    (reachable_stocked run (.click next (.done ()))) rfl rendered isNext (fun _ _ => List.not_mem_nil)
  cases labels.unique labelsNext
  obtain ⟨handle, labels, begun', move', -, passes⟩ := clicks_stay_in_control
    (reachable_stocked run (.click ellipsis (.done ()))) rfl rendered isEllipsis (fun _ _ => List.not_mem_nil)
  cases labels.unique labelsEllipsis
  obtain ⟨-, item, up, on⟩ := passes rfl
  refine ⟨list, shown, next, ellipsis, item, rendered, labelsNext, labelsEllipsis, up, ⟨begun, move, ?_⟩, ?_⟩
  · intro steps notOver
    exact (stays nofun steps notOver).1
  · rw [Machine.run, move']
    exact on

end ReportCards
