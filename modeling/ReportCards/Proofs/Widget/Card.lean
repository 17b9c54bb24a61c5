import ReportCards.Proofs.Widget.Table
import ReportCards.Widget.Card

namespace ReportCards
open Document Edit

variable {κ : Type} {doc : Document κ} {container : Nat} {id title : String}

structure CardNodes where
  column : NodeId
  frame : NodeId
  header : NodeId
  content : NodeId
  actions : NodeId
  action : NodeId

def CardNodes.slots (nodes : CardNodes) : Card :=
  { content := nodes.content, action := nodes.action }

/-- The nodes make up a card; what is in its slots is left open, and so are the place of the card and
the handlers on its column. -/
structure IsCard (id title : String) (nodes : CardNodes) (doc : Document κ) : Prop where
  column : doc.content nodes.column =
    { tag := "div", classes := columnClasses, attributes := [("id", id)], children := [nodes.frame] }
  frame : doc.node nodes.frame =
    { tag := "div", classes := ["card"], children := [nodes.header, nodes.content, nodes.actions]
      parent := some nodes.column }
  header : doc.node nodes.header =
    { tag := "h3", classes := ["card-title"], text := title, parent := some nodes.frame }
  content : doc.node nodes.content =
    { tag := "div", classes := ["card-content"], children := doc.children nodes.content
      parent := some nodes.frame }
  actions : doc.node nodes.actions =
    { tag := "ul", classes := ["card-actions", "float-left"], children := [nodes.action]
      parent := some nodes.frame }
  action : doc.node nodes.action =
    { tag := "li", children := doc.children nodes.action, parent := some nodes.actions }

def cardElement (id title : String) (content action : List Element) : Element where
  tag := "div"
  id := some id
  classes := columnClasses
  attributes := []
  text := ""
  children := [{
    branchElement "div" [
      { leafElement "h3" title with classes := ["card-title"] },
      { branchElement "div" content with classes := ["card-content"] },
      { branchElement "ul" [branchElement "li" action] with
        classes := ["card-actions", "float-left"] }] with
    classes := ["card"] }]

namespace IsCard

variable {nodes : CardNodes} {before after : Document κ}

section

variable (isCard : IsCard id title nodes doc) (forest : doc.IsForest)
include isCard forest

theorem element_eq :
    doc.element nodes.column = cardElement id title ((doc.children nodes.content).map doc.element)
      ((doc.children nodes.action).map doc.element) := by
  rw [forest.element_of_content isCard.column, List.map_singleton,
    forest.element_of_node isCard.frame, List.map_cons, List.map_cons, List.map_singleton,
    forest.element_of_node isCard.header, forest.element_of_node isCard.content,
    forest.element_of_node isCard.actions, List.map_singleton, forest.element_of_node isCard.action]
  rfl

omit forest in
theorem known {n : Nat} (member : n ∈ [nodes.column, nodes.frame, nodes.header, nodes.content,
    nodes.actions, nodes.action]) : n < doc.size := by
  have frame : doc.parent nodes.frame = some nodes.column := by rw [parent, isCard.frame]
  have header : doc.parent nodes.header = some nodes.frame := by rw [parent, isCard.header]
  have content : doc.parent nodes.content = some nodes.frame := by rw [parent, isCard.content]
  have actions : doc.parent nodes.actions = some nodes.frame := by rw [parent, isCard.actions]
  have action : doc.parent nodes.action = some nodes.actions := by rw [parent, isCard.action]
  have column : nodes.column < doc.size := by
    refine known_of_mem_children (c := nodes.frame) ?_
    rw [children_of_content isCard.column]
    exact List.mem_singleton_self _
  simp only [List.mem_cons, List.not_mem_nil, or_false] at member
  rcases member with rfl | rfl | rfl | rfl | rfl | rfl
  · exact column
  · exact known_of_parent frame
  · exact known_of_parent header
  · exact known_of_parent content
  · exact known_of_parent actions
  · exact known_of_parent action

theorem ancestors_content : doc.ancestors nodes.content = nodes.frame :: doc.path nodes.column := by
  have content : doc.parent nodes.content = some nodes.frame := by rw [parent, isCard.content]
  have frame : doc.parent nodes.frame = some nodes.column := by rw [parent, isCard.frame]
  rw [forest.ancestors_of_parent content, forest.ancestors_of_parent frame, path]

theorem ancestors_action :
    doc.ancestors nodes.action = nodes.actions :: nodes.frame :: doc.path nodes.column := by
  have action : doc.parent nodes.action = some nodes.actions := by rw [parent, isCard.action]
  have actions : doc.parent nodes.actions = some nodes.frame := by rw [parent, isCard.actions]
  have frame : doc.parent nodes.frame = some nodes.column := by rw [parent, isCard.frame]
  rw [forest.ancestors_of_parent action, forest.ancestors_of_parent actions,
    forest.ancestors_of_parent frame, path]

theorem mem_descendants {n : Nat}
    (member : n ∈ [nodes.frame, nodes.header, nodes.content, nodes.actions, nodes.action]) :
    n ∈ doc.descendants nodes.column := by
  have frame : nodes.column ∈ doc.path nodes.frame := by
    rw [forest.path_of_parent (p := nodes.column) (by rw [parent, isCard.frame])]
    exact List.mem_cons_of_mem _ (doc.mem_path_self _)
  have inFrame {n : Nat} (link : doc.parent n = some nodes.frame) :
      nodes.column ∈ doc.ancestors n := by
    rw [forest.ancestors_of_parent link]
    exact frame
  rw [forest.mem_descendants_iff]
  simp only [List.mem_cons, List.not_mem_nil, or_false] at member
  rcases member with rfl | rfl | rfl | rfl | rfl
  · rw [forest.ancestors_of_parent (p := nodes.column) (by rw [parent, isCard.frame])]
    exact List.mem_cons_self
  · exact inFrame (by rw [parent, isCard.header])
  · exact inFrame (by rw [parent, isCard.content])
  · exact inFrame (by rw [parent, isCard.actions])
  · rw [isCard.ancestors_action forest]
    exact List.mem_cons_of_mem _ (List.mem_cons_of_mem _ (doc.mem_path_self _))

theorem siblings : [nodes.header, nodes.content, nodes.actions].Nodup := by
  have distinct := forest.nodup_children nodes.frame
  rwa [children, isCard.frame] at distinct

theorem disjoint_of_ne {a b : NodeId} (first : a ∈ [nodes.header, nodes.content, nodes.actions])
    (second : b ∈ [nodes.header, nodes.content, nodes.actions]) (different : a ≠ b) :
    (doc.preorder a).Disjoint (doc.preorder b) := by
  have link {c : NodeId} (member : c ∈ [nodes.header, nodes.content, nodes.actions]) :
      doc.parent c = some nodes.frame := by
    rw [← forest.mem_children_iff, children, isCard.frame]
    exact member
  exact forest.disjoint_preorder_of_siblings (link first) (link second) different

theorem preorder_action_subset : doc.preorder nodes.action ⊆ doc.preorder nodes.actions := by
  intro m below
  refine forest.mem_preorder_of_child ?_ below
  rw [children, isCard.actions]
  exact List.mem_singleton_self _

theorem disjoint_slots : (doc.preorder nodes.content).Disjoint (doc.preorder nodes.action) := by
  have distinct := isCard.siblings forest
  simp only [List.nodup_cons, List.mem_cons, List.not_mem_nil, or_false] at distinct
  intro m below below'
  exact isCard.disjoint_of_ne forest (by simp) (by simp) distinct.2.1 below
    (isCard.preorder_action_subset forest below')

theorem not_mem_preorder_content {n : Nat}
    (member : n ∈ [nodes.column, nodes.frame, nodes.header, nodes.actions]) :
    n ∉ doc.preorder nodes.content := by
  have distinct := isCard.siblings forest
  simp only [List.nodup_cons, List.mem_cons, List.not_mem_nil, or_false, not_or] at distinct
  have above {m : Nat} (member : m ∈ nodes.frame :: doc.path nodes.column) :
      m ∉ doc.preorder nodes.content := by
    rw [← isCard.ancestors_content forest] at member
    rw [forest.mem_preorder_iff]
    exact forest.not_mem_path_of_mem_ancestors member
  simp only [List.mem_cons, List.not_mem_nil, or_false] at member
  rcases member with rfl | rfl | rfl | rfl
  · exact above (List.mem_cons_of_mem _ (doc.mem_path_self _))
  · exact above List.mem_cons_self
  · exact isCard.disjoint_of_ne forest (by simp) (by simp) distinct.1.1 forest.mem_preorder_self
  · exact fun below => isCard.disjoint_of_ne forest (by simp) (by simp) distinct.2.1 below
      forest.mem_preorder_self

theorem not_mem_preorder_action {n : Nat}
    (member : n ∈ [nodes.column, nodes.frame, nodes.header, nodes.content, nodes.actions]) :
    n ∉ doc.preorder nodes.action := by
  have distinct := isCard.siblings forest
  simp only [List.nodup_cons, List.mem_cons, List.not_mem_nil, or_false, not_or] at distinct
  have above {m : Nat} (member : m ∈ nodes.actions :: nodes.frame :: doc.path nodes.column) :
      m ∉ doc.preorder nodes.action := by
    rw [← isCard.ancestors_action forest] at member
    rw [forest.mem_preorder_iff]
    exact forest.not_mem_path_of_mem_ancestors member
  simp only [List.mem_cons, List.not_mem_nil, or_false] at member
  rcases member with rfl | rfl | rfl | rfl | rfl
  · exact above (List.mem_cons_of_mem _ (List.mem_cons_of_mem _ (doc.mem_path_self _)))
  · exact above (List.mem_cons_of_mem _ List.mem_cons_self)
  · exact fun below => isCard.disjoint_of_ne forest (by simp) (by simp) distinct.1.2
      forest.mem_preorder_self (isCard.preorder_action_subset forest below)
  · exact isCard.disjoint_slots forest forest.mem_preorder_self
  · exact above List.mem_cons_self

end

/-! ## Changes in the slots -/

theorem kept (isCard : IsCard id title nodes before)
    (column : after.content nodes.column = before.content nodes.column)
    (same : ∀ n ∈ [nodes.frame, nodes.header, nodes.actions], after.node n = before.node n)
    (slots : ∀ n ∈ [nodes.content, nodes.action],
      after.node n = { before.node n with children := after.children n }) :
    IsCard id title nodes after where
  column := by rw [column, isCard.column]
  frame := by rw [same _ (by simp), isCard.frame]
  header := by rw [same _ (by simp), isCard.header]
  content := by rw [slots _ (by simp), isCard.content]
  actions := by rw [same _ (by simp), isCard.actions]
  action := by rw [slots _ (by simp), isCard.action]

theorem kept_content (isCard : IsCard id title nodes before) (forest : before.IsForest)
    (changed : ChangedWithin (before.preorder nodes.content) before after)
    (slot : after.node nodes.content =
      { before.node nodes.content with children := after.children nodes.content }) :
    IsCard id title nodes after ∧ ∀ m ∈ before.preorder nodes.action, after.node m = before.node m := by
  have outside {n : Nat} (member : n ∈ [nodes.column, nodes.frame, nodes.header, nodes.actions]) :
      after.node n = before.node n :=
    changed.kept n (isCard.known (by simp at member ⊢; tauto))
      (isCard.not_mem_preorder_content forest member)
  have other {m : Nat} (below : m ∈ before.preorder nodes.action) : after.node m = before.node m :=
    changed.kept m (forest.known_of_mem_preorder (isCard.known (by simp)) below)
      fun below' => isCard.disjoint_slots forest below' below
  refine ⟨isCard.kept (content_of_node (outside (by simp))) (fun n member => ?_) fun n member => ?_,
    fun m => other⟩
  · exact outside (List.mem_cons_of_mem _ member)
  · rcases List.mem_pair.1 member with rfl | rfl
    · exact slot
    · have same := other forest.mem_preorder_self
      rw [children, same]

theorem kept_action (isCard : IsCard id title nodes before) (forest : before.IsForest)
    (changed : ChangedWithin (before.preorder nodes.action) before after)
    (slot : after.node nodes.action =
      { before.node nodes.action with children := after.children nodes.action }) :
    IsCard id title nodes after ∧ ∀ m ∈ before.preorder nodes.content, after.node m = before.node m := by
  have outside {n : Nat} (member : n ∈ [nodes.column, nodes.frame, nodes.header, nodes.content,
      nodes.actions]) : after.node n = before.node n :=
    changed.kept n (isCard.known (by simp at member ⊢; tauto))
      (isCard.not_mem_preorder_action forest member)
  refine ⟨isCard.kept (content_of_node (outside (by simp))) (fun n member => ?_) fun n member => ?_,
    fun m below => ?_⟩
  · exact outside (by simp at member ⊢; tauto)
  · rcases List.mem_pair.1 member with rfl | rfl
    · rw [children, outside (by simp)]
    · exact slot
  · exact changed.kept m (forest.known_of_mem_preorder (isCard.known (by simp)) below)
      (isCard.disjoint_slots forest below)

theorem kept_below (isCard : IsCard id title nodes before) (forest : before.IsForest)
    (same : SameBelow nodes.column before after) : IsCard id title nodes after := by
  have inside {n : Nat} (member : n ∈ [nodes.frame, nodes.header, nodes.content, nodes.actions,
      nodes.action]) : after.node n = before.node n :=
    same.kept n (isCard.mem_descendants forest member)
  refine isCard.kept same.content_eq (fun n member => inside ?_) fun n member => ?_
  · simp only [List.mem_cons, List.not_mem_nil, or_false] at member ⊢
    tauto
  · have member' : n ∈ [nodes.frame, nodes.header, nodes.content, nodes.actions, nodes.action] := by
      simp only [List.mem_cons, List.not_mem_nil, or_false] at member ⊢
      tauto
    rw [children, inside member']

end IsCard

def CardNodes.from (first : Nat) : CardNodes where
  column := first
  frame := first + 1
  header := first + 2
  content := first + 3
  actions := first + 4
  action := first + 5

theorem run_createCard_built (forest : doc.IsForest) (container : NodeId) (id title : String) :
    ∃ built, (createCard container id title).run doc =
        (append container doc.size >>= fun _ =>
          pure { content := doc.size + 3, action := doc.size + 5 } : Edit κ Card).run built ∧
      built.IsForest ∧
      Extends [
        { tag := "div", classes := columnClasses, attributes := [("id", id)]
          children := [doc.size + 1] },
        { tag := "div", classes := ["card"], children := [doc.size + 2, doc.size + 3, doc.size + 4]
          parent := some doc.size },
        { tag := "h3", classes := ["card-title"], text := title, parent := some (doc.size + 1) },
        { tag := "div", classes := ["card-content"], parent := some (doc.size + 1) },
        { tag := "ul", classes := ["card-actions", "float-left"], children := [doc.size + 5]
          parent := some (doc.size + 1) },
        { tag := "li", parent := some (doc.size + 4) }] doc built := by
  obtain ⟨d1, runColumn, e1, size1⟩ := (Extends.refl doc).plant rfl
    (run_createWithClasses (by decide : isTagName "div" = true) (by decide)
      (by decide : ∀ name ∈ columnClasses, isClassName name = true) (by decide) doc)
  have runId : (setId doc.size id).run d1 = .ok ()
      (d1.update (doc.size + 0) fun node => node.setAttribute "id" id) :=
    run_setAttribute (by decide) _ _
  have e2 := e1.update (i := 0) (by simp) fun node => node.setAttribute "id" id
  have size2 : (d1.update (doc.size + 0) fun node => node.setAttribute "id" id).size =
      doc.size + 1 := (size_update ..).trans size1
  have identified : ({ tag := "div", classes := columnClasses } : Node κ).setAttribute "id" id =
      { tag := "div", classes := columnClasses, attributes := [("id", id)] } := by
    rw [Node.setAttribute, if_neg (by decide)]
    rfl
  rw [List.nil_append, List.modify_zero_cons, identified] at e2
  obtain ⟨d3, runFrame, e3, size3⟩ := e2.plant size2
    (run_createWithClasses (by decide : isTagName "div" = true) (by decide)
      (by decide : ∀ name ∈ ["card"], isClassName name = true) (by decide) _)
  obtain ⟨d4, runHeader, e4, size4⟩ := e3.plant size3
    (run_createWithClasses (by decide : isTagName "h3" = true) (by decide)
      (by decide : ∀ name ∈ ["card-title"], isClassName name = true) (by decide) _)
  have headerLeaf : d4.children (doc.size + 2) = [] := by
    rw [children, e4.new_eq 2 (by simp)]
    rfl
  have runTitle := run_setText_of_leaf headerLeaf title
  have e5 := e4.update (i := 2) (by simp) fun node => { node with text := title }
  have size5 : (d4.update (doc.size + 2) fun node => { node with text := title }).size =
      doc.size + 3 := (size_update ..).trans size4
  obtain ⟨d6, runContent, e6, size6⟩ := e5.plant size5
    (run_createWithClasses (by decide : isTagName "div" = true) (by decide)
      (by decide : ∀ name ∈ ["card-content"], isClassName name = true) (by decide) _)
  obtain ⟨d7, runActions, e7, size7⟩ := e6.plant size6
    (run_createWithClasses (by decide : isTagName "ul" = true) (by decide)
      (by decide : ∀ name ∈ ["card-actions", "float-left"], isClassName name = true) (by decide) _)
  obtain ⟨d8, runAction, e8, size8⟩ := e7.plant size7
    (run_create_of_small (by decide : isTagName "li" = true) (by decide) _)
  have forest8 : d8.IsForest := isForest_of_run (isForest_of_run (isForest_of_run (isForest_of_run
    (isForest_of_run (isForest_of_run (isForest_of_run (isForest_of_run forest runColumn) runId)
    runFrame) runHeader) runTitle) runContent) runActions) runAction
  obtain ⟨d9, appendAction, e9, -⟩ :=
    e8.adopt (i := 4) (j := 5) forest8 (by simp) (by simp) (by simp) rfl rfl
  have forest9 := isForest_of_run forest8 appendAction
  obtain ⟨d10, appendHeader, e10, -⟩ :=
    e9.adopt (i := 1) (j := 2) forest9 (by simp) (by simp) (by simp) rfl rfl
  have forest10 := isForest_of_run forest9 appendHeader
  obtain ⟨d11, appendContent, e11, -⟩ :=
    e10.adopt (i := 1) (j := 3) forest10 (by simp) (by simp) (by simp) rfl rfl
  have forest11 := isForest_of_run forest10 appendContent
  obtain ⟨d12, appendActions, e12, -⟩ :=
    e11.adopt (i := 1) (j := 4) forest11 (by simp) (by simp) (by simp) rfl rfl
  have forest12 := isForest_of_run forest11 appendActions
  obtain ⟨d13, appendFrame, e13, -⟩ :=
    e12.adopt (i := 0) (j := 1) forest12 (by simp) (by simp) (by simp) rfl rfl
  refine ⟨d13, ?_, isForest_of_run forest12 appendFrame, e13⟩
  refine (run_bind_of_ok runColumn).trans ?_
  refine (run_bind_of_ok runId).trans ?_
  refine (run_bind_of_ok runFrame).trans ?_
  refine (run_bind_of_ok runHeader).trans ?_
  refine (run_bind_of_ok runTitle).trans ?_
  refine (run_bind_of_ok runContent).trans ?_
  refine (run_bind_of_ok runActions).trans ?_
  refine (run_bind_of_ok runAction).trans ?_
  refine (run_bind_of_ok appendAction).trans ?_
  refine (run_bind_of_ok appendHeader).trans ?_
  refine (run_bind_of_ok appendContent).trans ?_
  refine (run_bind_of_ok appendActions).trans ?_
  exact run_bind_of_ok appendFrame

theorem run_createCard (forest : doc.IsForest) (known : container < doc.size) (id title : String) :
    let nodes := CardNodes.from doc.size
    ∃ after, (createCard container id title).run doc = .ok nodes.slots after ∧
      Gains container [nodes.column] doc after ∧ IsCard id title nodes after ∧
      after.children nodes.content = [] ∧ after.children nodes.action = [] ∧
      after.handlers nodes.column = [] := by
  intro nodes
  obtain ⟨built, run, forestBuilt, new⟩ := run_createCard_built forest container id title
  have size : doc.size + 6 ≤ built.size := new.size_le
  have column : built.node doc.size =
      { tag := "div", classes := columnClasses, attributes := [("id", id)]
        children := [doc.size + 1] } := new.new_eq 0 (by simp)
  obtain ⟨appendColumn, gains, columnNode, others⟩ := forest.gains_adopt forestBuilt
    new.changedWithin known (Nat.le_refl _) (by omega) (by rw [parent, column])
  have node {i : Nat} (inside : 0 < i ∧ i < 6) :
      (built.adopt container doc.size).node (doc.size + i) = built.node (doc.size + i) :=
    others _ (by omega) (by omega)
  have column' : (built.adopt container doc.size).content doc.size =
      { tag := "div", classes := columnClasses, attributes := [("id", id)]
        children := [doc.size + 1] } := by rw [content, columnNode, column]
  have content' : (built.adopt container doc.size).node (doc.size + 3) =
      { tag := "div", classes := ["card-content"], parent := some (doc.size + 1) } :=
    (node (by decide)).trans (new.new_eq 3 (by simp))
  have action' : (built.adopt container doc.size).node (doc.size + 5) =
      { tag := "li", parent := some (doc.size + 4) } :=
    (node (by decide)).trans (new.new_eq 5 (by simp))
  have emptyContent : (built.adopt container doc.size).children (doc.size + 3) = [] := by
    rw [children, content']
  have emptyAction : (built.adopt container doc.size).children (doc.size + 5) = [] := by
    rw [children, action']
  have silent : (built.adopt container doc.size).handlers doc.size = [] := by
    rw [handlers, columnNode, column]
  refine ⟨_, ?_, gains, ?_, emptyContent, emptyAction, silent⟩
  · rw [run, run_bind_of_ok appendColumn]
    rfl
  · exact
      { column := column'
        frame := (node (by decide)).trans (new.new_eq 1 (by simp))
        header := (node (by decide)).trans (new.new_eq 2 (by simp))
        content := emptyContent.symm ▸ content'
        actions := (node (by decide)).trans (new.new_eq 4 (by simp))
        action := emptyAction.symm ▸ action' }

end ReportCards
