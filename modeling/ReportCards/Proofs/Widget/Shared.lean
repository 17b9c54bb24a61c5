import ReportCards.Proofs.Document.Tags
import ReportCards.Proofs.Widget.Turning

namespace ReportCards
open Document Edit

variable {ν σ : Type} {behaviour : Behaviour ν σ} {container list : Nat}
  {first found doc before after : Document (Action ν)} {host : σ} {world : World ν σ}

structure SharedPager (ν : Type) where
  sizing : Sizing
  code : ν
  count : UInt64
deriving DecidableEq, Repr

namespace SharedPager

def pager (shared : SharedPager ν) (container : NodeId) : Pager ν :=
  { container, sizing := shared.sizing, listener := .custom shared.code }

def needsPages (shared : SharedPager ν) : Bool :=
  shared.sizing.needsPages shared.count

def pageCount (shared : SharedPager ν) : UInt64 :=
  shared.sizing.pageCount shared.count

structure IsValid (behaviour : Behaviour ν σ) (shared : SharedPager ν) : Prop where
  sizing : shared.sizing.validate = .ok ()
  small : shared.pageCount.toNat + shared.sizing.maxHandles.toNat < 2 ^ 64
  alone : ∀ doc index, (behaviour.onChange shared.code index).LeavesAlone doc

theorem IsValid.fits {shared : SharedPager ν} (valid : shared.IsValid behaviour) (container : NodeId) :
    (shared.pager container).sizing.Fits shared.count :=
  .inr valid.small

end SharedPager

variable {shared : SharedPager ν} {last : Option (SharedPager ν × NodeId)}

/-- Renderings into the container, and clicks on links of the list that was rendered last. The run knows
that list, and which pager rendered it. -/
inductive SharedRun (behaviour : Behaviour ν σ) (container : NodeId) (first : World ν σ) :
    Option (SharedPager ν × NodeId) → World ν σ → Prop
  | start : SharedRun behaviour container first none first
  | render {last : Option (SharedPager ν × NodeId)} {world : World ν σ} {shared : SharedPager ν}
      {index : UInt64} {list : NodeId} {after : Document (Action ν)}
      (before : SharedRun behaviour container first last world) (valid : shared.IsValid behaviour)
      (run : ((shared.pager container).render shared.count index).run world.document =
        .ok (some list) after) :
      SharedRun behaviour container first (some (shared, list)) { document := after, host := world.host }
  | skip {last : Option (SharedPager ν × NodeId)} {world : World ν σ} {shared : SharedPager ν}
      {index : UInt64} {after : Document (Action ν)}
      (before : SharedRun behaviour container first last world) (valid : shared.IsValid behaviour)
      (run : ((shared.pager container).render shared.count index).run world.document = .ok none after) :
      SharedRun behaviour container first last { document := after, host := world.host }
  | click {world next : World ν σ} {shared : SharedPager ν} {list link : NodeId}
      (before : SharedRun behaviour container first (some (shared, list)) world)
      (isLink : IsLink world.document list link)
      (settles : Settles behaviour world (.click link (.done ())) next) :
      SharedRun behaviour container first (some (shared, list)) next

structure SharedPager.Controls (behaviour : Behaviour ν σ) (container list : NodeId)
    (shared : SharedPager ν) (world : World ν σ) : Prop where
  actions : ∀ n ∈ world.document.descendants list, ∀ handler ∈ world.document.handlers n,
    ∃ target, handler.action = .turn (shared.pager container) shared.count target
  clicks : ∃ page : UInt64, page.toNat < shared.pageCount.toNat ∧
    Shows (shared.pager container) shared.count list world.document page ∧
    ∀ link, IsLink world.document list link → ∃ handle : Handle, handle.Labels world.document link ∧
      ClickOutcome behaviour (shared.pager container) shared.code shared.count list world page.toNat
        link handle

structure IsShared (behaviour : Behaviour ν σ) (container list : NodeId)
    (last : Option (SharedPager ν × NodeId)) (world : World ν σ) : Prop where
  renders : ∀ shared : SharedPager ν, shared.IsValid behaviour → ∀ index, ∃ after,
    ((shared.pager container).render shared.count index).run world.document =
      .ok (if shared.needsPages then some list else none) after
  controls : ∀ shared node, last = some (shared, node) →
    node = list ∧ shared.Controls behaviour container list world

/-! ## One rendering -/

theorem Pager.exists_controlState (pager : Pager ν) {count : UInt64}
    (valid : pager.sizing.validate = .ok ()) (needs : pager.sizing.needsPages count = true)
    (forest : doc.IsForest) (known : pager.container < doc.size)
    (made : (findOrCreateList pager.container).run doc = .ok list found) (index : UInt64) :
    ∃ after, (pager.render count index).run doc = .ok (some list) after ∧
      ControlState pager count list found after (pager.sizing.clamp count index) ∧
      TagsWithin ["li", "a"] found after := by
  obtain ⟨list', found', run, grown, select, -⟩ := run_findOrCreateList forest known
  rw [made] at run
  cases run
  have knownFound : pager.container < found.size := Nat.lt_of_lt_of_le known grown
  have forestFound : found.IsForest := isForest_of_run forest made
  obtain ⟨after, refill, shows, node, changed⟩ :=
    run_refill_of_found forestFound knownFound select count index
  have positive : 0 < (pager.sizing.pageCount count).toNat := by
    refine Sizing.pageCount_pos valid (Nat.lt_of_le_of_lt (Nat.zero_le pager.sizing.pageSize.toNat) ?_)
    exact UInt64.lt_iff_toNat_lt.1 (Sizing.needsPages_iff.1 needs)
  refine ⟨after, run_render needs made refill, ?_, tagsWithin_of_run refill⟩
  exact
    { forest := isForest_of_run forestFound refill
      known := Nat.lt_of_lt_of_le knownFound changed.size_le
      shows
      inside := Sizing.clamp_lt positive index
      around := ⟨changed, by rw [shows.ownText]; exact node⟩ }

/-! ## Runs -/

/-- What holds between the events. `found` is the first document with the list in it, which was there or
was made by the first rendering. -/
inductive SharedState (behaviour : Behaviour ν σ) (container list : NodeId)
    (first found : Document (Action ν)) : Option (SharedPager ν × NodeId) → Document (Action ν) → Prop
  | fresh : SharedState behaviour container list first found none first
  | controlled {shared : SharedPager ν} {doc : Document (Action ν)} {page : UInt64}
      (valid : shared.IsValid behaviour) (needs : shared.needsPages = true)
      (state : ControlState (shared.pager container) shared.count list found doc page)
      (tags : TagsWithin ["li", "a"] found doc) :
      SharedState behaviour container list first found (some (shared, list)) doc

namespace SharedState

section

variable (forest : first.IsForest) (known : container < first.size)
  (made : (Pager.findOrCreateList container).run first = .ok list found)
include forest known made

theorem exists_render (state : SharedState behaviour container list first found last doc)
    (valid : shared.IsValid behaviour) (needs : shared.needsPages = true) (index : UInt64) :
    ∃ after, ((shared.pager container).render shared.count index).run doc = .ok (some list) after ∧
      SharedState behaviour container list first found (some (shared, list)) after := by
  cases state with
  | fresh =>
      obtain ⟨after, run, state, tags⟩ :=
        (shared.pager container).exists_controlState valid.sizing needs forest known made index
      exact ⟨after, run, .controlled valid needs state tags⟩
  | controlled _ _ state tags =>
      obtain ⟨after, run, state', tags'⟩ :=
        (shared.pager container).exists_controlState valid.sizing needs state.forest state.known
          (Pager.run_findOrCreateList_of_found state.shows.found) index
      have forestFound : found.IsForest := isForest_of_run forest made
      have around := state.around.trans state'.around forestFound state.forest
      exact ⟨after, run, .controlled valid needs { state' with around } (tags.trans tags')⟩

theorem after_render (state : SharedState behaviour container list first found last doc)
    (valid : shared.IsValid behaviour) {index : UInt64} {result : Option NodeId}
    (run : ((shared.pager container).render shared.count index).run doc = .ok result after) :
    (result = some list ∧ SharedState behaviour container list first found (some (shared, list)) after) ∨
      (result = none ∧ after = doc) := by
  cases needs : shared.needsPages with
  | true =>
      obtain ⟨after', run', state'⟩ := state.exists_render forest known made valid needs index
      rw [run] at run'
      cases run'
      exact .inl ⟨rfl, state'⟩
  | false =>
      rw [(shared.pager container).run_render_of_not_needs needs] at run
      cases run
      exact .inr ⟨rfl, rfl⟩

end

theorem after_click (forestFound : found.IsForest) (quiet : QuietAround behaviour list found)
    {node link : NodeId} {next : World ν σ}
    (state : SharedState behaviour container list first found (some (shared, node)) world.document)
    (isLink : IsLink world.document node link)
    (settles : Settles behaviour world (.click link (.done ())) next) :
    SharedState behaviour container list first found (some (shared, node)) next.document := by
  cases state with
  | controlled valid needs state tags =>
      have needs' : (shared.pager container).sizing.needsPages shared.count = true := needs
      obtain ⟨handle, -, outcome⟩ :=
        state.outcome valid.sizing (valid.fits container) needs' rfl valid.alone quiet isLink
      obtain ⟨page', -, state'⟩ := state.after_click needs' forestFound outcome settles
      refine .controlled valid needs state' (tags.trans ?_)
      cases outcome with
      | stays _ _ stays =>
          rw [settles.unique stays]
          exact .refl _ world.document
      | passes _ _ host passes =>
          rw [settles.unique passes]
          exact .refl _ world.document
      | turns index _ _ document host rendered _ _ turns =>
          rw [settles.unique turns]
          -- The click renders into the list that is there, so no list is made.
          obtain ⟨after, rendered', -, tags'⟩ :=
            (shared.pager container).exists_controlState valid.sizing needs' state.forest state.known
              (Pager.run_findOrCreateList_of_found state.shows.found) index
          rw [rendered] at rendered'
          cases rendered'
          exact tags'

theorem of_run (forest : first.IsForest) (known : container < first.size)
    (made : (Pager.findOrCreateList container).run first = .ok list found)
    (quiet : QuietAround behaviour list found)
    (run : SharedRun behaviour container { document := first, host } last world) :
    SharedState behaviour container list first found last world.document := by
  induction run with
  | start => exact .fresh
  | render _ valid run ih =>
      obtain ⟨same, state⟩ | ⟨none, -⟩ := ih.after_render forest known made valid run
      · cases same
        exact state
      · cases none
  | skip _ valid run ih =>
      obtain ⟨some, -⟩ | ⟨-, rfl⟩ := ih.after_render forest known made valid run
      · cases some
      · exact ih
  | click _ isLink settles ih => exact ih.after_click (isForest_of_run forest made) quiet isLink settles

theorem isShared (forest : first.IsForest) (known : container < first.size)
    (made : (Pager.findOrCreateList container).run first = .ok list found)
    (quiet : QuietAround behaviour list found)
    (state : SharedState behaviour container list first found last world.document) :
    IsShared behaviour container list last world where
  renders shared valid index := by
    cases needs : shared.needsPages with
    | true =>
        obtain ⟨after, run, -⟩ := state.exists_render forest known made valid needs index
        exact ⟨after, run⟩
    | false => exact ⟨_, (shared.pager container).run_render_of_not_needs needs _ index⟩
  controls shared node same := by
    subst same
    cases state with
    | @controlled _ _ page valid needs state tags =>
        refine ⟨rfl, fun n below handler => state.shows.exists_target state.forest below, page,
          state.inside, state.shows, fun link isLink => ?_⟩
        exact state.outcome valid.sizing (valid.fits container) needs rfl valid.alone quiet isLink

end SharedState

/-! ## Without a list -/

theorem Document.Gains.trans_around (gains : Gains container [list] first found)
    (forest' : found.IsForest) (known : container < first.size)
    (node : found.node list = { tag := "ul", classes := [Pager.listClass], parent := some container })
    (around : SameAround list found after) : Gains container [list] first after := by
  have leaf : found.preorder list = [list] := forest'.preorder_of_leaf (by rw [children, node])
  refine gains.trans_new known around.changed fun m member => ?_
  rw [leaf] at member
  exact gains.size_le_new m member

theorem QuietAround.of_gains (quiet : QuietAround behaviour container first) (forest : first.IsForest)
    (forest' : found.IsForest) (known : container < first.size) (gains : Gains container [list] first found)
    (node : found.node list = { tag := "ul", classes := [Pager.listClass], parent := some container }) :
    QuietAround behaviour list found := by
  intro other host forestOther around
  have grown := gains.trans_around forest' known node around
  have around' : SameAround container first other := by
    refine ⟨⟨grown.size_le, fun m known outside => grown.kept_ne known ?_⟩, ?_⟩
    · rintro rfl
      exact outside forest.mem_preorder_self
    · rw [ownText, children, grown.parent_node]
  obtain ⟨host', settles⟩ := quiet other host forestOther around'
  have up : other.path list = list :: other.path container := by
    refine forestOther.path_of_parent ?_
    rw [parent, around.node_eq, node]
  refine ⟨host', (settles_click_parent up ?_ _).2 settles⟩
  rw [handlers, around.node_eq, node]

/-! ## The lists in the container -/

namespace SharedState

theorem gains_of_absent (state : SharedState behaviour container list first found last doc)
    (forest : first.IsForest) (forest' : found.IsForest) (known : container < first.size)
    (absent : first.selectAll container Pager.listSelector = .ok [])
    (gains : Gains container [list] first found)
    (node : found.node list = { tag := "ul", classes := [Pager.listClass], parent := some container })
    (rendered : last ≠ none) :
    Gains container [list] first doc ∧ doc.selectAll container Pager.listSelector = .ok [list] := by
  cases state with
  | fresh => exact absurd rfl rendered
  | @controlled shared doc page valid needs state tags =>
      have grown := gains.trans_around forest' known node state.around
      refine ⟨grown, ?_⟩
      rw [selectAll_of_parse _ _ Pager.parse_listSelector, Except.ok.injEq] at absent ⊢
      -- What was below the container before is as it was, so there is still no list among it.
      have old : (first.descendants container).filter (doc.isTagged "ul" Pager.listClass) = [] := by
        rw [← absent]
        exact List.filter_congr fun m below => isTagged_of_node (grown.kept_descendants forest below) _ _
      rw [grown.descendants_eq forest state.forest, List.filter_append, old, List.nil_append,
        List.flatMap_singleton, state.forest.preorder_eq_cons,
        List.filter_cons_of_pos (List.find?_some state.shows.find?_eq),
        state.shows.filter_descendants state.forest]

theorem lists_of_present (state : SharedState behaviour container list first first last doc)
    (forest : first.IsForest) (known : container < first.size) {others : List NodeId}
    (present : first.selectAll container Pager.listSelector = .ok (list :: others)) :
    SameAround list first doc ∧ (∃ rest, rest.Sublist others ∧
        doc.selectAll container Pager.listSelector = .ok (list :: rest)) ∧
      ∀ n, first.size ≤ n → doc.tag n ≠ "ul" := by
  have new {n : Nat} (unknown : first.size ≤ n) : first.tag n = "" := by
    rw [Document.tag, node_eq_blank_of_size_le _ unknown]
  cases state with
  | fresh =>
      refine ⟨.refl list first, ⟨others, List.Sublist.refl _, present⟩, fun n unknown => ?_⟩
      rw [new unknown]
      decide
  | @controlled shared doc page valid needs state tags =>
      refine ⟨state.around, ?_, fun n unknown => ?_⟩
      · rw [selectAll_of_parse _ _ Pager.parse_listSelector, Except.ok.injEq] at present
        have head : (first.descendants container).find? (first.isTagged "ul" Pager.listClass) =
            some list := by
          rw [← List.head?_filter, present]
          rfl
        obtain ⟨later, before, after⟩ := forest.filter_replaced state.forest known head
          state.around.changed (List.find?_some state.shows.find?_eq)
        rw [before, List.cons_append] at present
        rw [state.shows.filter_descendants state.forest, List.singleton_append] at after
        refine ⟨later, ?_, ?_⟩
        · rw [← (List.cons.inj present).2]
          exact List.sublist_append_right _ later
        · rw [selectAll_of_parse _ _ Pager.parse_listSelector]
          exact congrArg Except.ok after
      · rcases tags n with kept | made
        · rw [kept, new unknown]
          decide
        · intro isList
          rw [isList] at made
          exact absurd made (by decide)

end SharedState

/-- Pagers that share a container share one list, which is theirs in turn. Whoever renders a control gets
the same list at the same place, and nothing else in the container changes. A click on a link in the list
comes to what the pager that was last has to say about it. Where there are lists already, the first of them
is used. -/
theorem pagers_share_list (reachable : doc.Reachable) (known : container < doc.size) :
    (doc.selectAll container Pager.listSelector = .ok [] → QuietAround behaviour container doc →
      ∃ list, ∀ host last world,
        SharedRun behaviour container { document := doc, host } last world →
          IsShared behaviour container list last world ∧
          (last = none → world.document = doc) ∧
          (last ≠ none → Gains container [list] doc world.document ∧
            world.document.selectAll container Pager.listSelector = .ok [list])) ∧
    ∀ list others, doc.selectAll container Pager.listSelector = .ok (list :: others) →
      QuietAround behaviour list doc →
      ∀ host last world, SharedRun behaviour container { document := doc, host } last world →
        IsShared behaviour container list last world ∧
        SameAround list doc world.document ∧
        (∃ rest, rest.Sublist others ∧
          world.document.selectAll container Pager.listSelector = .ok (list :: rest)) ∧
        ∀ n, doc.size ≤ n → world.document.tag n ≠ "ul" := by
  have forest := reachable.isForest
  refine ⟨fun absent quiet => ?_, fun list others present quiet host last world run => ?_⟩
  · obtain ⟨list, found, made, -, -, ⟨-, some⟩ | ⟨-, gains, node⟩⟩ :=
      Pager.run_findOrCreateList forest known
    · rw [selectFirst, absent] at some
      cases some
    have forest' : found.IsForest := isForest_of_run forest made
    have quiet' := quiet.of_gains forest forest' known gains node
    refine ⟨list, fun host last world run => ?_⟩
    have state := SharedState.of_run forest known made quiet' run
    refine ⟨state.isShared forest known made quiet', fun fresh => ?_, fun rendered => ?_⟩
    · subst fresh
      cases state
      rfl
    · exact state.gains_of_absent forest forest' known absent gains node rendered
  · have head : doc.selectFirst container Pager.listSelector = .ok (some list) := by
      rw [selectFirst, present]
      rfl
    have made := Pager.run_findOrCreateList_of_found head
    have state := SharedState.of_run forest known made quiet run
    exact ⟨state.isShared forest known made quiet, state.lists_of_present forest known present⟩

/-! ## Two pagers -/

def stand (lists : Nat) : Edit (Action Bool) Unit := do
  let container ← Edit.create "div"
  (List.range lists).forM fun _ => do
    let list ← Edit.createWithClasses "ul" [Pager.listClass]
    Edit.append container list

def ledger : Behaviour Bool (List (Bool × UInt64)) where
  onClick _ := .done ()
  onChange code page := .observe fun world => .setHost (world.host ++ [(code, page)]) (.done ())

def threePages : SharedPager Bool :=
  { sizing := { pageSize := 1, maxHandles := 1 }, code := false, count := 3 }

def twoPages : SharedPager Bool :=
  { sizing := { pageSize := 2, maxHandles := 5 }, code := true, count := 4 }

theorem reachable_stand (lists : Nat) : ((stand lists).after {}).Reachable := by
  have stepwise : (stand lists).Stepwise := by
    unfold stand
    infer_instance
  exact stepwise.changes {}

theorem ledger_leavesAlone (shared : SharedPager Bool) (doc : Document (Action Bool)) (index : UInt64) :
    (ledger.onChange shared.code index).LeavesAlone doc :=
  .observe fun _ => .setHost .done

theorem pagers_share_list_stand :
    (∃ list world, SharedRun ledger 0 { document := (stand 0).after {}, host := [] }
        (some (twoPages, list)) world ∧
      world.host = [(true, 1)] ∧ world.document.selectAll 0 Pager.listSelector = .ok [list]) ∧
    ∃ after, ((threePages.pager 0).render threePages.count 0).run ((stand 2).after {}) =
        .ok (some 1) after ∧ ∀ n, 3 ≤ n → after.tag n ≠ "ul" := by
  have validThree : threePages.IsValid ledger := ⟨by decide, by decide, ledger_leavesAlone _⟩
  have validTwo : twoPages.IsValid ledger := ⟨by decide, by decide, ledger_leavesAlone _⟩
  constructor
  · have forest := (reachable_stand 0).isForest
    have absent : ((stand 0).after {}).selectAll 0 Pager.listSelector = .ok [] := by
      rw [selectAll_of_parse _ _ Pager.parse_listSelector, forest.descendants_eq]
      rfl
    have quiet : QuietAround ledger 0 ((stand 0).after {}) := by
      refine quietAround_of_leavesAlone forest (by decide) fun n above handler member => ?_
      rw [forest.path_of_root rfl, List.mem_singleton] at above
      subst above
      cases member
    obtain ⟨list, runs⟩ := (pagers_share_list (reachable_stand 0) (by decide)).1 absent quiet
    obtain ⟨shared, -⟩ := runs [] none _ .start
    obtain ⟨first, firstRun⟩ := shared.renders threePages validThree 2
    have run := SharedRun.start.render validThree firstRun
    obtain ⟨shared, -⟩ := runs _ _ _ run
    obtain ⟨second, rendered⟩ := shared.renders twoPages validTwo 0
    replace run := run.render validTwo rendered
    obtain ⟨shared, -⟩ := runs _ _ _ run
    obtain ⟨-, -, page, inside, shows, outcomes⟩ := shared.controls twoPages list rfl
    have forest' : second.IsForest := isForest_of_run (isForest_of_run forest firstRun) rendered
    have member : Handle.page 1 ∈ ((twoPages.pager 0).sizing.window twoPages.count page).handles := by
      have cases : page = 0 ∨ page = 1 := by
        have two : page.toNat < 2 := inside
        rw [← UInt64.toNat_inj, ← UInt64.toNat_inj, UInt64.toNat_zero, UInt64.toNat_one]
        omega
      rcases cases with rfl | rfl <;> decide
    obtain ⟨link, isLink, labels⟩ := shows.exists_link forest' member
    obtain ⟨handle, labels', outcome⟩ := outcomes link isLink
    cases labels'.unique labels
    cases outcome with
    | stays button => rcases button with back | forth <;> contradiction
    | passes ellipsis => cases ellipsis
    | turns next leads _ document host _ _ told settles =>
        have one : next = 1 := UInt64.toNat_inj.1 (Option.some.inj leads).symm
        subst one
        have noted : Settles ledger { document, host := [] } (ledger.onChange true 1)
            { document, host := [(true, 1)] } := .head rfl (.head rfl (.head rfl .refl))
        replace run := run.click isLink settles
        obtain ⟨-, -, lists⟩ := runs _ _ _ run
        refine ⟨list, _, run, congrArg World.host (told.unique noted), (lists ?_).2⟩
        exact Option.some_ne_none _
  · have forest := (reachable_stand 2).isForest
    have present : ((stand 2).after {}).selectAll 0 Pager.listSelector = .ok [1, 2] := by
      rw [selectAll_of_parse _ _ Pager.parse_listSelector, forest.descendants_eq]
      rfl
    have quiet : QuietAround ledger 1 ((stand 2).after {}) := by
      refine quietAround_of_leavesAlone forest (by decide) fun n above handler member => ?_
      rw [forest.path_of_parent (p := 0) rfl, forest.path_of_root rfl, List.mem_cons, List.mem_singleton]
        at above
      rcases above with rfl | rfl <;> cases member
    have runs := (pagers_share_list (reachable_stand 2) (by decide)).2 1 [2] present quiet []
    obtain ⟨shared, -⟩ := runs none _ .start
    obtain ⟨after, rendered⟩ := shared.renders threePages validThree 0
    obtain ⟨-, -, -, plain⟩ := runs _ _ (.render .start validThree rendered)
    exact ⟨after, rendered, plain⟩

end ReportCards
