import Mathlib.Algebra.BigOperators.Group.List.Basic
import Mathlib.Algebra.GroupWithZero.Nat
import ReportCards.Proofs.Widget.Shared

namespace ReportCards
open Relation Document Edit Machine

variable {ν σ : Type} {behaviour : Behaviour ν σ} {pager : Pager ν} {count index page : UInt64}
  {container list item link n m : Nat} {handle : Handle} {world world' : World ν σ}
  {doc first found before middle after : Document (Action ν)}

/-! ## Clicks that find no handler -/

structure IsInert (behaviour : Behaviour ν σ) (world : World ν σ) (n : NodeId) : Prop where
  calls : ∀ machine, Steps behaviour (.start world (.click n (.done ()))) machine →
    machine.world = world ∧ machine.runningHandlers = []
  settles : Settles behaviour world (.click n (.done ())) world

inductive PassesBy (world : World ν σ) (n : NodeId) : Machine ν σ → Prop
  | start : PassesBy world n (.start world (.click n (.done ())))
  | visit {path : List NodeId} (silent : ∀ m ∈ path, world.document.handlers m = []) :
      PassesBy world n { world, stack := [.clicking [] path false, .running none (.done ())] }
  | back : PassesBy world n { world, stack := [.running none (.done ())] }
  | ended : PassesBy world n { world, stack := [] }

theorem PassesBy.step (silent : ∀ m ∈ world.document.path n, world.document.handlers m = [])
    {machine next : Machine ν σ} (passes : PassesBy world n machine)
    (move : machine.step behaviour = some next) : PassesBy world n next := by
  cases passes with
  | start =>
      cases move
      exact .visit silent
  | @visit path silent =>
      cases path with
      | nil =>
          cases move
          exact .back
      | cons m path =>
          obtain ⟨first, others⟩ := List.forall_mem_cons.1 silent
          simp only [Machine.step, first] at move
          cases move
          exact .visit others
  | back =>
      cases move
      exact .ended
  | ended => cases move

theorem isInert_of_silent (silent : ∀ m ∈ world.document.path n, world.document.handlers m = [])
    (behaviour : Behaviour ν σ) : IsInert behaviour world n where
  calls machine steps := by
    have passes : PassesBy world n machine := by
      induction steps with
      | refl => exact .start
      | tail _ move ih => exact ih.step silent move
    cases passes <;> exact ⟨rfl, rfl⟩
  settles := settles_click_silent silent world.host

/-! ## What becomes of the contents of a list -/

structure Document.IsRetired (doc : Document (Action ν)) (list n : NodeId) : Prop where
  outside : n ∉ doc.descendants list
  silent : ∀ m ∈ doc.path n, doc.handlers m = []

/-- What was below the list is there still, or it is retired. Everything else keeps its place and its
handlers. -/
structure Document.Retires (list : NodeId) (before after : Document (Action ν)) : Prop where
  size_le : before.size ≤ after.size
  replaced : ∀ n ∈ before.descendants list, n ∈ after.descendants list ∨ after.IsRetired list n
  path_eq : ∀ n < before.size, n ∉ before.descendants list → after.path n = before.path n
  handlers_eq : ∀ n < before.size, n ∉ before.descendants list → after.handlers n = before.handlers n
  list_handlers : after.handlers list = before.handlers list

namespace Document.Retires

theorem refl (list : NodeId) (doc : Document (Action ν)) : Retires list doc doc where
  size_le := Nat.le_refl _
  replaced _ below := .inl below
  path_eq _ _ _ := rfl
  handlers_eq _ _ _ := rfl
  list_handlers := rfl

theorem not_mem_descendants (retires : Retires list before after) (forest : before.IsForest)
    (forest' : after.IsForest) (known : n < before.size) (outside : n ∉ before.descendants list) :
    n ∉ after.descendants list := by
  have same := (List.cons.inj (retires.path_eq n known outside)).2
  rw [forest.mem_descendants_iff] at outside
  rw [forest'.mem_descendants_iff, same]
  exact outside

theorem isRetired (retires : Retires list before after) (forest : before.IsForest)
    (forest' : after.IsForest) (known : n < before.size) (retired : before.IsRetired list n) :
    after.IsRetired list n where
  outside := retires.not_mem_descendants forest forest' known retired.outside
  silent m above := by
    rw [retires.path_eq n known retired.outside] at above
    have outside := forest.not_mem_descendants_of_mem_path retired.outside above
    rw [retires.handlers_eq m (forest.known_of_mem_path known above) outside]
    exact retired.silent m above

theorem trans (first : Retires list before middle) (second : Retires list middle after)
    (forest : before.IsForest) (forest' : middle.IsForest) (forest'' : after.IsForest) :
    Retires list before after where
  size_le := Nat.le_trans first.size_le second.size_le
  replaced n below := by
    rcases first.replaced n below with below' | retired
    · exact second.replaced n below'
    · have known := Nat.lt_of_lt_of_le (forest.known_of_mem_descendants below) first.size_le
      exact .inr (second.isRetired forest' forest'' known retired)
  path_eq n known outside := by
    have outside' := first.not_mem_descendants forest forest' known outside
    rw [second.path_eq n (Nat.lt_of_lt_of_le known first.size_le) outside', first.path_eq n known outside]
  handlers_eq n known outside := by
    have outside' := first.not_mem_descendants forest forest' known outside
    rw [second.handlers_eq n (Nat.lt_of_lt_of_le known first.size_le) outside',
      first.handlers_eq n known outside]
  list_handlers := by rw [second.list_handlers, first.list_handlers]

theorem of_gains (gains : Gains container [list] first found) (forest : first.IsForest)
    (forest' : found.IsForest)
    (node : found.node list = { tag := "ul", classes := [Pager.listClass], parent := some container }) :
    Retires list first found where
  size_le := gains.size_le
  replaced n below := by
    -- Nothing was below a list that is new.
    have old : list < first.size :=
      (forest.known_of_mem_ancestorsWithin (forest.mem_descendants_iff.1 below)).2
    exact absurd old (Nat.not_lt.2 (gains.size_le_new list (List.mem_singleton_self list)))
  path_eq n known _ := by
    apply forest.path_kept forest'
    intro m above
    exact gains.parent_kept (forest.known_of_mem_path known above)
  handlers_eq n known _ := gains.handlers_kept known
  list_handlers := by
    have new := gains.size_le_new list (List.mem_singleton_self list)
    rw [handlers, node, handlers, node_eq_blank_of_size_le _ new]

section

variable {items : List NodeId} (forest : before.IsForest) (forest' : after.IsForest)
  (known : list < before.size) (empties : Empties list before middle) (gains : Gains list items middle after)
include forest forest' empties gains

theorem isRetired_of_refill (below : n ∈ before.descendants list) : after.IsRetired list n := by
  have stays (m : NodeId) (below : m ∈ before.descendants list) : m < middle.size ∧ m ≠ list := by
    rw [empties.size_eq]
    refine ⟨forest.known_of_mem_descendants below, ?_⟩
    rintro rfl
    exact forest.not_mem_descendants_self below
  -- The path ends at an old child of the list, so it does not leave what was below the list.
  have path (m : NodeId) (above : m ∈ after.path n) : m ∈ before.descendants list := by
    induction n using forest.upward_induction with
    | step n ih =>
        obtain ⟨old, different⟩ := stays n below
        have up : after.parent n = if before.parent n = some list then none else before.parent n := by
          rw [gains.parent_kept old, parent, empties.node_other n different]
        cases link : before.parent n with
        | none =>
            rw [link, if_neg (Option.some_ne_none list).symm] at up
            rw [forest'.path_of_root up, List.mem_singleton] at above
            rwa [above]
        | some p =>
            by_cases isChild : p = list
            · rw [link, if_pos (by rw [isChild])] at up
              rw [forest'.path_of_root up, List.mem_singleton] at above
              rwa [above]
            · rw [link, if_neg (by simpa using isChild)] at up
              rw [forest'.path_of_parent up] at above
              rcases List.mem_cons.1 above with rfl | above
              · exact below
              · apply ih p link _ above
                rw [forest.mem_descendants_iff, forest.ancestors_of_parent link] at below
                rw [forest.mem_descendants_iff]
                exact (List.mem_cons.1 below).resolve_left (Ne.symm isChild)
  constructor
  · intro still
    rw [forest'.mem_descendants_iff] at still
    exact forest.not_mem_descendants_self (path list (List.mem_cons_of_mem _ still))
  · intro m above
    obtain ⟨old, different⟩ := stays m (path m above)
    rw [gains.handlers_kept old, handlers, empties.node_other m different, if_pos (path m above)]

include known in
theorem of_refill : Retires list before after where
  size_le := by
    rw [← empties.size_eq]
    exact gains.size_le
  replaced n below := .inr (isRetired_of_refill forest forest' empties gains below)
  path_eq n old outside := by
    apply forest.path_kept forest'
    intro m above
    have knownAbove := forest.known_of_mem_path old above
    rw [gains.parent_kept (by rwa [empties.size_eq])]
    by_cases same : m = list
    · rw [same, parent, empties.node_eq, parent]
    · rw [parent, empties.node_other m same, if_neg]
      intro link
      apply forest.not_mem_descendants_of_mem_path outside above
      rw [forest.mem_descendants_iff, forest.ancestors_of_parent link]
      exact List.mem_cons_self
  handlers_eq n old outside := by
    rw [gains.handlers_kept (by rwa [empties.size_eq])]
    by_cases same : n = list
    · rw [same, handlers, empties.node_eq, handlers]
    · rw [handlers, empties.node_other n same, if_neg outside]
  list_handlers := by
    rw [gains.handlers_kept (by rwa [empties.size_eq]), handlers, empties.node_eq, handlers]

end

end Document.Retires

/-- Everything that was below the list is retired, and everything else keeps its place and its handlers. -/
structure Document.Replaces (list : NodeId) (before after : Document (Action ν)) : Prop where
  retires : Retires list before after
  replaced : ∀ n ∈ before.descendants list, after.IsRetired list n

theorem Pager.replaces_of_run_render (forest : doc.IsForest) (known : pager.container < doc.size)
    (made : (findOrCreateList pager.container).run doc = .ok list found) {node : NodeId}
    (run : (pager.render count index).run doc = .ok (some node) after) :
    Replaces list doc after := by
  have needs := needsPages_of_run_render run
  obtain ⟨list', found', made', grown, select, cases⟩ := run_findOrCreateList forest known
  rw [made] at made'
  cases made'
  have forestFound : found.IsForest := isForest_of_run forest made
  have forest' : after.IsForest := isForest_of_run forest run
  have knownList : list < found.size := by
    rw [selectFirst_list] at select
    exact forestFound.known_of_mem_descendants (List.mem_of_find?_eq_some (Except.ok.inj select))
  obtain ⟨empty, runClear, empties⟩ := run_clearContents_empties forestFound list
  obtain ⟨items, after', runFill, gains, -⟩ := run_fillList pager count (pager.sizing.window count index)
    (isForest_of_run forestFound runClear) (by rwa [empties.size_eq])
  have run' := run_render needs made ((run_bind_of_ok runClear).trans runFill)
  rw [run] at run'
  cases run'
  have refilled := Retires.of_refill forestFound forest' knownList empties gains
  rcases cases with ⟨rfl, -⟩ | ⟨-, gains', node⟩
  · exact ⟨refilled, fun n => Retires.isRetired_of_refill forest forest' empties gains⟩
  · have created := Retires.of_gains gains' forest forestFound node
    refine ⟨created.trans refilled forest forestFound forest', fun n below => ?_⟩
    rcases created.replaced n below with below' | retired
    · exact Retires.isRetired_of_refill forestFound forest' empties gains below'
    · have known := Nat.lt_of_lt_of_le (forest.known_of_mem_descendants below) grown
      exact refilled.isRetired forestFound forest' known retired

/-! ## How many handlers there are -/

def Document.handlersBelow (doc : Document (Action ν)) (list : NodeId) : Nat :=
  ((doc.descendants list).map fun n => (doc.handlers n).length).sum

theorem sum_handlers_of_handles {window : PageWindow} (forest : doc.IsForest) {items : List NodeId}
    {handles : List Handle} (all : List.Forall₂ (fun item handle => ∃ link,
      IsHandle pager count window list doc item link handle) items handles) :
    ((items.flatMap doc.preorder).map fun n => (doc.handlers n).length).sum =
      (handles.map fun handle => (handle.actions pager count window list).length).sum := by
  induction all with
  | nil => rfl
  | @cons item handle items handles first _ ih =>
      obtain ⟨link, holds⟩ := first
      have onItem : doc.handlers item = [] := by rw [handlers, holds.item_node]
      have onLink : (doc.handlers link).length = (handle.actions pager count window list).length := by
        rw [← holds.actions, List.length_map]
      rw [List.flatMap_cons, holds.preorder_eq forest, List.map_append, List.sum_append, ih]
      simp [onItem, onLink]

theorem PageWindow.sum_actions (pager : Pager ν) (count : UInt64) (window : PageWindow) (list : NodeId) :
    (window.handles.map fun handle => (handle.actions pager count window list).length).sum =
      window.pages.length + 2 := by
  have pages : (window.pages.map fun i => (Handle.actions pager count window list (.page i)).length).sum =
      window.pages.length := by
    simp [Handle.actions]
  unfold handles
  simp only [List.map_append, List.map_map, Function.comp_def, List.sum_append, pages]
  cases window.hidesEarlier <;> cases window.hidesLater <;> simp [Handle.actions] <;> omega

theorem Shows.handlersBelow_eq (shows : Shows pager count list doc page) (forest : doc.IsForest) :
    doc.handlersBelow list = (pager.sizing.window count page).pages.length + 2 := by
  rw [handlersBelow, forest.descendants_eq, sum_handlers_of_handles forest shows.handles,
    PageWindow.sum_actions]

/-! ## Runs -/

inductive SharedStep (behaviour : Behaviour ν σ) (container : NodeId) :
    Option (SharedPager ν × NodeId) × World ν σ → Option (SharedPager ν × NodeId) × World ν σ → Prop
  | render {last : Option (SharedPager ν × NodeId)} {world : World ν σ} {shared : SharedPager ν}
      {index : UInt64} {list : NodeId} {after : Document (Action ν)} (valid : shared.IsValid behaviour)
      (run : ((shared.pager container).render shared.count index).run world.document =
        .ok (some list) after) :
      SharedStep behaviour container (last, world)
        (some (shared, list), { document := after, host := world.host })
  | skip {last : Option (SharedPager ν × NodeId)} {world : World ν σ} {shared : SharedPager ν}
      {index : UInt64} {after : Document (Action ν)} (valid : shared.IsValid behaviour)
      (run : ((shared.pager container).render shared.count index).run world.document = .ok none after) :
      SharedStep behaviour container (last, world) (last, { document := after, host := world.host })
  | click {world next : World ν σ} {shared : SharedPager ν} {list link : NodeId}
      (isLink : IsLink world.document list link)
      (settles : Settles behaviour world (.click link (.done ())) next) :
      SharedStep behaviour container (some (shared, list), world) (some (shared, list), next)

variable {last last' : Option (SharedPager ν × NodeId)} {start : World ν σ}

theorem SharedRun.step (run : SharedRun behaviour container start last world)
    (step : SharedStep behaviour container (last, world) (last', world')) :
    SharedRun behaviour container start last' world' := by
  cases step with
  | render valid rendered => exact .render run valid rendered
  | skip valid skipped => exact .skip run valid skipped
  | click isLink settles => exact .click run isLink settles

namespace SharedState

theorem isForest (state : SharedState behaviour container list first found last doc)
    (forest : first.IsForest) : doc.IsForest := by
  cases state with
  | fresh => exact forest
  | controlled _ _ state => exact state.forest

section

variable (state : SharedState behaviour container list first found last world.document)
  (forest : first.IsForest) (known : container < first.size)
  (made : (Pager.findOrCreateList container).run first = .ok list found)
include state forest known made

theorem exists_found : container < world.document.size ∧
    ∃ next, (Pager.findOrCreateList container).run world.document = .ok list next := by
  cases state with
  | fresh => exact ⟨known, found, made⟩
  | controlled _ _ state => exact ⟨state.known, _, Pager.run_findOrCreateList_of_found state.shows.found⟩

theorem not_mem_descendants_container : container ∉ world.document.descendants list := by
  have forest' := state.isForest forest
  intro below
  obtain ⟨known', next, made'⟩ := state.exists_found forest known made
  obtain ⟨list', next', again, -, select, ⟨rfl, -⟩ | ⟨-, gains, -⟩⟩ := Pager.run_findOrCreateList forest' known'
  · rw [made'] at again
    cases again
    rw [Pager.selectFirst_list] at select
    have above := List.mem_of_find?_eq_some (Except.ok.inj select)
    rw [forest'.mem_descendants_iff] at above below
    exact forest'.not_mem_ancestors_self (forest'.mem_ancestors_trans above below)
  · rw [made'] at again
    cases again
    have old := (forest'.known_of_mem_ancestorsWithin (forest'.mem_descendants_iff.1 below)).2
    exact absurd old (Nat.not_lt.2 (gains.size_le_new list (List.mem_singleton_self list)))

theorem replaces_of_render {shared : SharedPager ν} {node : NodeId}
    (run : ((shared.pager container).render shared.count index).run world.document = .ok (some node) after) :
    Replaces list world.document after := by
  obtain ⟨known', next, made'⟩ := state.exists_found forest known made
  exact Pager.replaces_of_run_render (state.isForest forest) known' made' run

theorem eq_or_replaces (quiet : QuietAround behaviour list found)
    (step : SharedStep behaviour container (last, world) (last', world')) :
    world'.document = world.document ∨ Replaces list world.document world'.document := by
  cases step with
  | render valid run => exact .inr (state.replaces_of_render forest known made run)
  | skip valid run =>
      obtain ⟨some, -⟩ | ⟨-, same⟩ := state.after_render forest known made valid run
      · cases some
      · exact .inl same
  | @click _ _ shared node link isLink settles =>
      cases state with
      | controlled valid needs state tags =>
          obtain ⟨handle, -, outcome⟩ :=
            state.outcome valid.sizing (valid.fits container) needs rfl valid.alone quiet isLink
          cases outcome with
          | stays _ _ stays =>
              rw [settles.unique stays]
              exact .inl rfl
          | passes _ _ host passes =>
              rw [settles.unique passes]
              exact .inl rfl
          | turns next _ _ document host rendered _ _ turns =>
              rw [settles.unique turns]
              have made' := Pager.run_findOrCreateList_of_found state.shows.found
              exact .inr (Pager.replaces_of_run_render state.forest state.known made' rendered)

end

end SharedState

theorem retires_of_steps (forest : first.IsForest) (known : container < first.size)
    (made : (Pager.findOrCreateList container).run first = .ok list found)
    (quiet : QuietAround behaviour list found) {host : σ}
    (run : SharedRun behaviour container { document := first, host } last world)
    (steps : ReflTransGen (SharedStep behaviour container) (last, world) (last', world')) :
    SharedRun behaviour container { document := first, host } last' world' ∧
      Retires list world.document world'.document := by
  generalize final : (last', world') = pair at steps
  induction steps generalizing last' world' with
  | refl =>
      cases final
      exact ⟨run, .refl list _⟩
  | @tail middle _ _ step ih =>
      subst final
      obtain ⟨last₂, world₂⟩ := middle
      obtain ⟨run₂, retires⟩ := ih rfl
      have run' := run₂.step step
      have state := SharedState.of_run forest known made quiet run
      have state₂ := SharedState.of_run forest known made quiet run₂
      have state' := SharedState.of_run forest known made quiet run'
      refine ⟨run', ?_⟩
      rcases state₂.eq_or_replaces forest known made quiet step with same | replaces
      · rw [same]
        exact retires
      · exact retires.trans replaces.retires (state.isForest forest) (state₂.isForest forest)
          (state'.isForest forest)

structure IsReplaced (behaviour : Behaviour ν σ) (list : NodeId) (world : World ν σ) (n : NodeId) : Prop where
  outside : n ∉ world.document.descendants list
  handlers : world.document.handlers n = []
  inert : IsInert behaviour world n

theorem Document.IsRetired.isReplaced (retired : world.document.IsRetired list n)
    (behaviour : Behaviour ν σ) : IsReplaced behaviour list world n where
  outside := retired.outside
  handlers := retired.silent n (world.document.mem_path_self n)
  inert := isInert_of_silent retired.silent behaviour

/-- What was ever in a shared list and is not in it now is out of use. The handlers in the list are those of
the handles that are shown, and no other node of the document gains or loses a handler. -/
theorem replaced_handles_retire (reachable : doc.Reachable) (known : container < doc.size)
    (made : (Pager.findOrCreateList container).run doc = .ok list found)
    (quiet : QuietAround behaviour list found) {host : σ}
    (run : SharedRun behaviour container { document := doc, host } last world) :
    (∀ last' world', ReflTransGen (SharedStep behaviour container) (last, world) (last', world') →
      (∀ n ∈ world.document.descendants list,
        n ∈ world'.document.descendants list ∨ IsReplaced behaviour list world' n) ∧
      (∀ n < world.document.size, n ∉ world.document.descendants list →
        n ∉ world'.document.descendants list ∧ world'.document.handlers n = world.document.handlers n) ∧
      world'.document.handlers list = world.document.handlers list ∧
      world'.document.handlers container = world.document.handlers container) ∧
    (∀ last' world', SharedStep behaviour container (last, world) (last', world') →
      world'.document = world.document ∨
        ∀ n ∈ world.document.descendants list, IsReplaced behaviour list world' n) ∧
    (∀ (shared : SharedPager ν) index node after, shared.IsValid behaviour →
      ((shared.pager container).render shared.count index).run world.document = .ok (some node) after →
      node = list ∧
        after.handlersBelow list = (shared.sizing.window shared.count index).pages.length + 2 ∧
        ∀ n ∈ world.document.descendants list,
          IsReplaced behaviour list { document := after, host := world.host } n) ∧
    ∀ shared node, last = some (shared, node) → ∃ page,
      Shows (shared.pager container) shared.count list world.document page ∧
        world.document.handlersBelow list = (shared.sizing.window shared.count page).pages.length + 2 := by
  have forest := reachable.isForest
  have state := SharedState.of_run forest known made quiet run
  have forestWorld := state.isForest forest
  refine ⟨?_, ?_, ?_, ?_⟩
  · intro last' world' steps
    obtain ⟨run', retires⟩ := retires_of_steps forest known made quiet run steps
    have forest' := (SharedState.of_run forest known made quiet run').isForest forest
    refine ⟨?_, ?_, retires.list_handlers, ?_⟩
    · intro n below
      rcases retires.replaced n below with still | retired
      · exact .inl still
      · exact .inr (retired.isReplaced behaviour)
    · intro n old outside
      exact ⟨retires.not_mem_descendants forestWorld forest' old outside, retires.handlers_eq n old outside⟩
    · apply retires.handlers_eq
      · exact (state.exists_found forest known made).1
      · exact state.not_mem_descendants_container forest known made
  · intro last' world' step
    rcases state.eq_or_replaces forest known made quiet step with same | replaces
    · exact .inl same
    · exact .inr fun n below => (replaces.replaced n below).isReplaced behaviour
  · intro shared index node after valid rendered
    have replaces := state.replaces_of_render forest known made rendered
    obtain ⟨same, state'⟩ | ⟨none, -⟩ := state.after_render forest known made valid rendered
    · cases same
      refine ⟨rfl, ?_, fun n below => (replaces.replaced n below).isReplaced behaviour⟩
      obtain ⟨known', next, made'⟩ := state.exists_found forest known made
      obtain ⟨after', rendered', control, -⟩ := (shared.pager container).exists_controlState valid.sizing
        (Pager.needsPages_of_run_render rendered) forestWorld known' made' index
      rw [rendered] at rendered'
      cases rendered'
      have handlers := control.shows.handlersBelow_eq control.forest
      rw [Sizing.window_clamp] at handlers
      exact handlers
    · cases none
  · rintro shared node rfl
    cases state with
    | @controlled _ _ page _ _ state =>
        exact ⟨page, state.shows, state.shows.handlersBelow_eq state.forest⟩

theorem replaced_handles_retire_stand :
    ∃ list first second,
      ((threePages.pager 0).render threePages.count 2).run ((stand 0).after {}) = .ok (some list) first ∧
      ((twoPages.pager 0).render twoPages.count 0).run first = .ok (some list) second ∧
      first.handlersBelow list = 3 ∧ second.handlersBelow list = 4 ∧
      ∀ n ∈ first.descendants list, IsReplaced ledger list { document := second, host := [] } n := by
  have validThree : threePages.IsValid ledger := ⟨by decide, by decide, ledger_leavesAlone _⟩
  have validTwo : twoPages.IsValid ledger := ⟨by decide, by decide, ledger_leavesAlone _⟩
  have reachable := reachable_stand 0
  have forest := reachable.isForest
  have known : 0 < ((stand 0).after {}).size := by decide
  have quiet : QuietAround ledger 0 ((stand 0).after {}) := by
    apply quietAround_of_leavesAlone forest known
    intro n above handler member
    rw [forest.path_of_root rfl, List.mem_singleton] at above
    subst above
    cases member
  have absent : ((stand 0).after {}).selectFirst 0 Pager.listSelector = .ok none := by
    rw [Pager.selectFirst_list, forest.descendants_eq]
    rfl
  obtain ⟨list, found, made, -, -, ⟨-, present⟩ | ⟨-, gains, node⟩⟩ := Pager.run_findOrCreateList forest known
  · rw [absent] at present
    cases present
  have quiet' := quiet.of_gains forest (isForest_of_run forest made) known gains node
  have needs : (threePages.pager 0).sizing.needsPages threePages.count = true := by decide
  obtain ⟨first, firstRun, -⟩ :=
    (threePages.pager 0).exists_controlState validThree.sizing needs forest known made 2
  have begun : SharedRun ledger 0 { document := (stand 0).after {}, host := [] } none _ := .start
  obtain ⟨-, -, rendered, -⟩ := replaced_handles_retire reachable known made quiet' begun
  obtain ⟨-, three, -⟩ := rendered threePages 2 list first validThree firstRun
  have run := begun.render validThree firstRun
  have state := SharedState.of_run forest known made quiet' run
  obtain ⟨second, secondRun, -⟩ := state.exists_render forest known made validTwo (by decide) 0
  obtain ⟨-, -, rendered, -⟩ := replaced_handles_retire reachable known made quiet' run
  obtain ⟨-, four, replaced⟩ := rendered twoPages 0 list second validTwo secondRun
  exact ⟨list, first, second, firstRun, secondRun, three, four, replaced⟩

end ReportCards
