import ReportCards.Proofs.Selector.Within
import ReportCards.Proofs.Widget.Card

namespace ReportCards
open Document Edit Selector Text

variable {κ : Type} {doc before after : Document κ} {container : Nat} {id title : String}
  {nodes : CardNodes}

/-! ## Queries -/

def contentQuery (id : String) : String := "#" ++ id ++ " .card-content"

def actionQuery (id : String) : String := "#" ++ id ++ " ul.card-actions > li"

def contentSelector : Selector :=
  .single { classes := ["card-content"] }

def actionSelector : Selector :=
  .under (.single { tag := some (.named "ul"), classes := ["card-actions"] }) .child
    { tag := some (.named "li") }

theorem contentSelector_writtenAs : contentSelector.WrittenAs ".card-content".toList := by
  have name : IsName "card-content".toList := isName_of_all (by decide) (by decide)
  exact .single (.intro (.intro .absent (.cons (.className name) .nil) (by decide)))

theorem actionSelector_writtenAs : actionSelector.WrittenAs "ul.card-actions > li".toList := by
  have list : IsName "ul".toList := isName_of_all (by decide) (by decide)
  have name : IsName "card-actions".toList := isName_of_all (by decide) (by decide)
  have item : IsName "li".toList := isName_of_all (by decide) (by decide)
  have blank : ∀ c ∈ [' '], isBlank c = true := List.forall_mem_singleton.2 (by decide)
  have outer := Selector.WrittenAs.single
    (.intro (.intro (.named list) (.cons (.className name) .nil) (by decide)))
  have whole := Selector.WrittenAs.under outer (Combinator.WrittenAs.child blank blank)
    (.intro (.intro (.named item) .nil (by decide)))
  exact whole

theorem parse_within {selector : Selector} {source : String} {first : List Char} {last : Char}
    (source_eq : source.toList = '#' :: (id.toList ++ ' ' :: first) ++ [last])
    (isName : IsName id.toList) (written : selector.WrittenAs (first ++ [last]))
    (notBlank : isBlank last = false) : parse source = .ok (selector.within id) := by
  rw [parse_eq_ok_iff, source_eq, trim_between (by decide) notBlank]
  simpa using written.within isName

theorem parse_contentQuery (isName : IsName id.toList) :
    parse (contentQuery id) = .ok (contentSelector.within id) := by
  refine @parse_within _ _ _ ".card-conten".toList 't' ?_ isName contentSelector_writtenAs (by decide)
  simp [contentQuery, String.toList_append]

theorem parse_actionQuery (isName : IsName id.toList) :
    parse (actionQuery id) = .ok (actionSelector.within id) := by
  refine @parse_within _ _ _ "ul.card-actions > l".toList 'i' ?_ isName actionSelector_writtenAs
    (by decide)
  simp [actionQuery, String.toList_append]

/-! ## Below the column -/

namespace IsCard

variable (isCard : IsCard id title nodes doc) (forest : doc.IsForest)
include isCard forest

theorem descendants_eq : doc.descendants nodes.column =
    nodes.frame :: nodes.header :: (doc.preorder nodes.content ++ nodes.actions ::
      doc.preorder nodes.action) := by
  have column : doc.children nodes.column = [nodes.frame] := children_of_content isCard.column
  have frame : doc.children nodes.frame = [nodes.header, nodes.content, nodes.actions] := by
    rw [children, isCard.frame]
  have header : doc.children nodes.header = [] := by rw [children, isCard.header]
  have actions : doc.children nodes.actions = [nodes.action] := by rw [children, isCard.actions]
  rw [forest.descendants_eq, column, List.flatMap_singleton, forest.preorder_eq nodes.frame, frame]
  simp [forest.preorder_of_leaf header, forest.preorder_eq nodes.actions, actions]

variable (emptyContent : doc.children nodes.content = []) (emptyAction : doc.children nodes.action = [])
include emptyContent emptyAction

theorem descendants_of_empty : doc.descendants nodes.column =
    [nodes.frame, nodes.header, nodes.content, nodes.actions, nodes.action] := by
  rw [isCard.descendants_eq forest, forest.preorder_of_leaf emptyContent,
    forest.preorder_of_leaf emptyAction]
  rfl

theorem mem_ancestors_iff {n : NodeId} : nodes.column ∈ doc.ancestors n ↔
    n ∈ [nodes.frame, nodes.header, nodes.content, nodes.actions, nodes.action] := by
  rw [← forest.mem_descendants_iff, isCard.descendants_of_empty forest emptyContent emptyAction]

theorem selectsBelow_content_iff {n : NodeId} :
    contentSelector.SelectsBelow doc nodes.column n ↔ n = nodes.content := by
  simp only [contentSelector, SelectsBelow, isCard.mem_ancestors_iff forest emptyContent emptyAction]
  constructor
  · rintro ⟨holds, member⟩
    simp only [List.mem_cons, List.not_mem_nil, or_false] at member
    rcases member with rfl | rfl | rfl | rfl | rfl
    · simp [Compound.holds, hasClass, classes, isCard.frame] at holds
    · simp [Compound.holds, hasClass, classes, isCard.header] at holds
    · rfl
    · simp [Compound.holds, hasClass, classes, isCard.actions] at holds
    · simp [Compound.holds, hasClass, classes, isCard.action] at holds
  · rintro rfl
    refine ⟨?_, by simp⟩
    simp [Compound.holds, hasClass, classes, isCard.content]

theorem selectsBelow_action_iff {n : NodeId} :
    actionSelector.SelectsBelow doc nodes.column n ↔ n = nodes.action := by
  have listed : doc.children nodes.actions = [nodes.action] := by rw [children, isCard.actions]
  simp only [actionSelector, SelectsBelow, isCard.mem_ancestors_iff forest emptyContent emptyAction,
    Combinator.Joins]
  constructor
  · rintro ⟨-, m, link, holds, member⟩
    simp only [List.mem_cons, List.not_mem_nil, or_false] at member
    rcases member with rfl | rfl | rfl | rfl | rfl
    · simp [Compound.holds, TagTest.holds, tag, isCard.frame] at holds
    · simp [Compound.holds, TagTest.holds, tag, isCard.header] at holds
    · simp [Compound.holds, TagTest.holds, tag, isCard.content] at holds
    · rw [← forest.mem_children_iff, listed] at link
      exact List.mem_singleton.1 link
    · simp [Compound.holds, TagTest.holds, tag, isCard.action] at holds
  · rintro rfl
    refine ⟨by simp [Compound.holds, TagTest.holds, tag, isCard.action], nodes.actions, ?_, ?_,
      by simp⟩
    · rw [parent, isCard.action]
    · simp [Compound.holds, TagTest.holds, tag, hasClass, classes, isCard.actions]

omit forest emptyContent emptyAction in
theorem attributes_eq_nil {n : NodeId}
    (member : n ∈ [nodes.frame, nodes.header, nodes.content, nodes.actions, nodes.action]) :
    (doc.node n).attributes = [] := by
  simp only [List.mem_cons, List.not_mem_nil, or_false] at member
  rcases member with rfl | rfl | rfl | rfl | rfl
  · rw [isCard.frame]
  · rw [isCard.header]
  · rw [isCard.content]
  · rw [isCard.actions]
  · rw [isCard.action]

theorem eq_of_getAttribute {n : NodeId} {value : String} (inside : n ∈ doc.preorder nodes.column)
    (carries : doc.getAttribute n "id" = some value) : n = nodes.column := by
  rw [forest.preorder_eq_cons, isCard.descendants_of_empty forest emptyContent emptyAction,
    List.mem_cons] at inside
  rcases inside with rfl | below
  · rfl
  · simp [getAttribute, Node.getAttribute, isCard.attributes_eq_nil below] at carries

end IsCard

theorem IsCard.getAttribute_column (isCard : IsCard id title nodes doc) :
    doc.getAttribute nodes.column "id" = some id := by
  have attributes : (doc.node nodes.column).attributes = [("id", id)] :=
    congrArg Node.attributes isCard.column
  simp [getAttribute, Node.getAttribute, attributes]

/-! ## The new card among the others -/

theorem IsCard.isIdentified (isCard : IsCard id title nodes after) (forest : before.IsForest)
    (forest' : after.IsForest) (gains : Gains container [nodes.column] before after)
    (known : container < before.size) (emptyContent : after.children nodes.content = [])
    (emptyAction : after.children nodes.action = [])
    (unused : ∀ n ∈ before.path container ++ before.descendants container,
      before.getAttribute n "id" ≠ some id) :
    after.IsIdentified container id nodes.column := by
  have below : after.descendants container = before.descendants container ++ after.preorder nodes.column := by
    rw [gains.descendants_eq forest forest', List.flatMap_singleton]
  have path : after.path container = before.path container :=
    forest.path_kept forest' fun m above => gains.parent_kept (forest.known_of_mem_path known above)
  refine ⟨?_, isCard.getAttribute_column, ?_⟩
  · rw [below]
    exact List.mem_append_right _ forest'.mem_preorder_self
  · intro n inSight carries
    rw [path, below, ← List.append_assoc, List.mem_append] at inSight
    rcases inSight with old | new
    · have knownOld : n < before.size := by
        rcases List.mem_append.1 old with above | below
        · exact forest.known_of_mem_path known above
        · exact forest.known_of_mem_descendants below
      rw [gains.getAttribute_kept knownOld] at carries
      exact absurd carries (unused n old)
    · exact isCard.eq_of_getAttribute forest' emptyContent emptyAction new carries

/-- Creating a card appends it to the container and changes nothing else. From the container, its slots
are found by its identifier. -/
theorem card_slots_addressable (reachable : doc.Reachable) (known : container < doc.size)
    (isName : IsName id.toList)
    (unused : ∀ n ∈ doc.path container ++ doc.descendants container,
      doc.getAttribute n "id" ≠ some id) (title : String) :
    ∃ nodes after, (createCard container id title).run doc = .ok nodes.slots after ∧
      IsCard id title nodes after ∧
      after.selectAll container (contentQuery id) = .ok [nodes.content] ∧
      after.selectAll container (actionQuery id) = .ok [nodes.action] ∧
      doc.size ≤ nodes.column ∧
      after.node container =
        { doc.node container with children := doc.children container ++ [nodes.column] } ∧
      (∀ n < doc.size, n ≠ container → after.node n = doc.node n) ∧
      ∀ c ∈ doc.children container, after.subtree c = doc.subtree c := by
  have forest := reachable.isForest
  obtain ⟨after, run, gains, isCard, emptyContent, emptyAction, -⟩ :=
    run_createCard forest known id title
  have forest' : after.IsForest := isForest_of_run forest run
  have identified := isCard.isIdentified forest forest' gains known emptyContent emptyAction unused
  refine ⟨CardNodes.from doc.size, after, run, isCard, ?_, ?_, ?_, gains.parent_node, ?_, ?_⟩
  · rw [selectAll_eq_filter (parse_contentQuery isName), identified.filter_selects_within forest' fun m =>
      isCard.selectsBelow_content_iff forest' emptyContent emptyAction]
  · rw [selectAll_eq_filter (parse_actionQuery isName), identified.filter_selects_within forest' fun m =>
      isCard.selectsBelow_action_iff forest' emptyContent emptyAction]
  · exact gains.size_le_new _ (List.mem_singleton_self _)
  · exact fun n => gains.kept_ne
  · intro c child
    exact forest.subtree_kept forest' (gains.kept_below forest ((forest.mem_children_iff _ c).1 child))

def pageWithCard : Edit Unit Unit := do
  let page ← create "section"
  setId page "page"
  let container ← create "div"
  append page container
  let card ← createCard container "first" "First"
  let body ← createTable card.content ["name"]
  let _ ← addRow body ["value"]

theorem reachable_pageWithCard : (pageWithCard.after {}).Reachable := by
  have stepwise : pageWithCard.Stepwise := by
    unfold pageWithCard
    infer_instance
  exact stepwise.changes {}

theorem card_slots_addressable_second :
    let doc := pageWithCard.after {}
    doc.Reachable ∧ 1 < doc.size ∧ IsName "second".toList ∧
      (∀ n ∈ doc.path 1 ++ doc.descendants 1, doc.getAttribute n "id" ≠ some "second") ∧
      ∃ (nodes : CardNodes) (after : Document Unit),
        (createCard 1 "second" "#first > li").run doc = .ok nodes.slots after ∧
        after.selectAll 1 "#second .card-content" = .ok [nodes.content] ∧
        after.selectAll 1 "#second ul.card-actions > li" = .ok [nodes.action] ∧
        after.children 1 = [2, nodes.column] := by
  intro doc
  have known : 1 < doc.size := by decide +kernel
  have isName : IsName "second".toList := isName_of_all (by decide) (by decide)
  have unused : ∀ n ∈ doc.path 1 ++ doc.descendants 1, doc.getAttribute n "id" ≠ some "second" := by
    decide +kernel
  have first : doc.children 1 = [2] := by decide +kernel
  obtain ⟨nodes, after, run, -, content, action, -, container, -⟩ :=
    card_slots_addressable reachable_pageWithCard known isName unused "#first > li"
  refine ⟨reachable_pageWithCard, known, isName, unused, nodes, after, run, content, action, ?_⟩
  rw [children, container, first]
  rfl

end ReportCards
