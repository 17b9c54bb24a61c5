import ReportCards.Proofs.Document.Subtree

namespace ReportCards.Document

variable {κ : Type} {doc before middle after : Document κ} {n m p c : NodeId}

structure ChangedWithin (region : List NodeId) (before after : Document κ) : Prop where
  size_le : before.size ≤ after.size
  kept : ∀ n < before.size, n ∉ region → after.node n = before.node n

theorem ChangedWithin.refl (region : List NodeId) (doc : Document κ) :
    ChangedWithin region doc doc where
  size_le := Nat.le_refl _
  kept _ _ _ := rfl

theorem ChangedWithin.trans {region region' : List NodeId} (first : ChangedWithin region before middle)
    (second : ChangedWithin region' middle after)
    (inside : ∀ n < before.size, n ∈ region' → n ∈ region) : ChangedWithin region before after where
  size_le := Nat.le_trans first.size_le second.size_le
  kept n known outside := by
    have outside' : n ∉ region' := fun member => outside (inside n known member)
    rw [second.kept n (Nat.lt_of_lt_of_le known first.size_le) outside', first.kept n known outside]

theorem ChangedWithin.mono {region region' : List NodeId} (changed : ChangedWithin region before after)
    (inside : region ⊆ region') : ChangedWithin region' before after where
  size_le := changed.size_le
  kept n known outside := changed.kept n known fun member => outside (inside member)

/-- What a node shows by itself: everything but its place and its handlers. -/
def content (doc : Document κ) (n : NodeId) : Node κ :=
  { doc.node n with parent := none, handlers := [] }

theorem content_of_node (same : after.node n = before.node n) :
    after.content n = before.content n := by
  rw [content, same, content]

theorem children_of_content {node : Node κ} (same : doc.content n = node) :
    doc.children n = node.children := by
  rw [← same]
  rfl

theorem children_of_node (same : after.node n = before.node n) :
    after.children n = before.children n := by
  rw [children, same, children]

/-- Nothing has changed below the node, and the node itself shows what it did. -/
structure SameBelow (n : NodeId) (before after : Document κ) : Prop where
  content_eq : after.content n = before.content n
  kept : ∀ m ∈ before.descendants n, after.node m = before.node m

namespace IsForest

/-! ## Paths -/

theorem path_kept (forest : before.IsForest) (forest' : after.IsForest)
    (kept : ∀ m ∈ before.path n, after.parent m = before.parent m) :
    after.path n = before.path n := by
  induction n using forest.upward_induction with
  | step n ih =>
      have same := kept n (before.mem_path_self n)
      cases link : before.parent n with
      | none =>
          rw [link] at same
          rw [path, path, forest.ancestors_of_root link, forest'.ancestors_of_root same]
      | some p =>
          rw [link] at same
          rw [forest.path_of_parent link, forest'.path_of_parent same, ih p link]
          intro m above
          refine kept m ?_
          rw [forest.path_of_parent link]
          exact List.mem_cons_of_mem _ above

theorem path_of_root (forest : doc.IsForest) (root : doc.parent n = none) : doc.path n = [n] := by
  rw [path, forest.ancestors_of_root root]

theorem known_of_mem_path (forest : doc.IsForest) (known : n < doc.size) (above : m ∈ doc.path n) :
    m < doc.size := by
  rcases List.mem_cons.1 above with rfl | above
  · exact known
  · exact (forest.known_of_mem_ancestorsWithin above).2

theorem lt_of_mem_path (forest : before.IsForest) (forest' : after.IsForest)
    (kept : ∀ m < before.size, after.parent m = before.parent m) (known : n < before.size)
    (above : m ∈ after.path n) : m < before.size := by
  have same := forest.path_kept forest' fun m above => kept m (forest.known_of_mem_path known above)
  rw [same] at above
  exact forest.known_of_mem_path known above

/-! ## Subtrees -/

theorem mem_preorder_of_child (forest : doc.IsForest) (child : c ∈ doc.children n)
    (below : m ∈ doc.preorder c) : m ∈ doc.preorder n := by
  rw [forest.preorder_eq]
  exact List.mem_cons_of_mem _ (List.mem_flatMap.2 ⟨c, child, below⟩)

theorem subtree_kept (forest : before.IsForest) (forest' : after.IsForest)
    (kept : ∀ m ∈ before.preorder n, after.node m = before.node m) :
    after.subtree n = before.subtree n := by
  induction n using forest.downward_induction with
  | step n ih =>
      have same := children_of_node (kept n forest.mem_preorder_self)
      rw [forest.subtree_eq, forest'.subtree_eq, same]
      refine congrArg (Subtree.node n) (List.map_congr_left fun c child => ih c child fun m below => ?_)
      exact kept m (forest.mem_preorder_of_child child below)

theorem preorder_kept (forest : before.IsForest) (forest' : after.IsForest)
    (kept : ∀ m ∈ before.preorder n, after.node m = before.node m) :
    after.preorder n = before.preorder n := by
  rw [preorder, preorder, forest.subtree_kept forest' kept]

theorem element_of_content (forest : doc.IsForest) {node : Node κ} (same : doc.content n = node) :
    doc.element n =
      { tag := node.tag
        id := node.attributes.lookup "id"
        classes := node.classes
        attributes := node.attributes.filter (·.1 ≠ "id")
        text := node.text
        children := node.children.map doc.element } := by
  rw [forest.element_eq, ← same]
  rfl

theorem element_of_node (forest : doc.IsForest) {node : Node κ} (same : doc.node n = node) :
    doc.element n =
      { tag := node.tag
        id := node.attributes.lookup "id"
        classes := node.classes
        attributes := node.attributes.filter (·.1 ≠ "id")
        text := node.text
        children := node.children.map doc.element } := by
  rw [forest.element_eq, ← same]
  rfl

theorem element_kept (forest : before.IsForest) (forest' : after.IsForest)
    (kept : ∀ m ∈ before.preorder n, after.content m = before.content m) :
    after.element n = before.element n := by
  induction n using forest.downward_induction with
  | step n ih =>
      have same := kept n forest.mem_preorder_self
      have children : (before.content n).children.map after.element =
          (before.content n).children.map before.element := by
        refine List.map_congr_left fun c child => ih c child fun m below => ?_
        exact kept m (forest.mem_preorder_of_child child below)
      rw [forest.element_of_content rfl, forest'.element_of_content same, children]

theorem not_mem_descendants_of_mem_path (forest : doc.IsForest) (outside : n ∉ doc.descendants c)
    (above : m ∈ doc.path n) : m ∉ doc.descendants c := by
  intro below
  rw [forest.mem_descendants_iff] at below outside
  rcases List.mem_cons.1 above with rfl | above
  · exact outside below
  · exact outside (forest.mem_ancestors_trans above below)

theorem path_kept_outside (forest : before.IsForest) (forest' : after.IsForest)
    (changed : ChangedWithin (before.descendants c) before after) (known : n < before.size)
    (outside : n ∉ before.descendants c) : after.path n = before.path n := by
  refine forest.path_kept forest' fun m above => ?_
  have apart := forest.not_mem_descendants_of_mem_path outside above
  rw [parent, changed.kept m (forest.known_of_mem_path known above) apart, parent]

theorem descendants_kept_outside (forest : before.IsForest) (forest' : after.IsForest)
    (changed : ChangedWithin (before.descendants c) before after) (known : n < before.size)
    (outside : n ∉ before.descendants c) (m : NodeId) :
    n ∈ after.descendants m ↔ n ∈ before.descendants m := by
  have same : after.ancestors n = before.ancestors n :=
    List.tail_eq_of_cons_eq (forest.path_kept_outside forest' changed known outside)
  rw [forest'.mem_descendants_iff, same, forest.mem_descendants_iff]

theorem sameBelow_of_apart (forest : before.IsForest)
    (changed : ChangedWithin (before.descendants c) before after) (known : n < before.size)
    (apart : c ∉ before.path n) (apart' : n ∉ before.path c) : SameBelow n before after where
  content_eq := by
    refine content_of_node (changed.kept n known fun below => apart ?_)
    exact List.mem_cons_of_mem n (forest.mem_descendants_iff.1 below)
  kept m below := by
    have aboveM : n ∈ before.path m := List.mem_cons_of_mem m (forest.mem_descendants_iff.1 below)
    refine changed.kept m (forest.known_of_mem_descendants below) fun below' => ?_
    have aboveM' : c ∈ before.path m := List.mem_cons_of_mem m (forest.mem_descendants_iff.1 below')
    rcases forest.mem_path_total aboveM' aboveM with above | above
    · exact apart above
    · exact apart' above

theorem changedWithin_trans_below (forest : before.IsForest) (forest' : middle.IsForest)
    (first : ChangedWithin (before.descendants c) before middle)
    (second : ChangedWithin (middle.descendants c) middle after) :
    ChangedWithin (before.descendants c) before after := by
  refine first.trans second fun n known below => ?_
  by_contra outside
  exact outside ((forest.descendants_kept_outside forest' first known outside c).1 below)

/-- Two documents that agree outside of some cards, and show the same in them, show the same. -/
theorem element_eq_of_columns {left right : Document κ} (forest : before.IsForest)
    (forestLeft : left.IsForest) (forestRight : right.IsForest) (columns : List NodeId)
    (same : ∀ n < before.size, (∀ c ∈ columns, n ∉ before.descendants c) →
      left.node n = before.node n ∧ right.node n = before.node n)
    (cards : ∀ c ∈ columns, left.element c = right.element c) (known : n < before.size)
    (outside : ∀ c ∈ columns, n ∉ before.descendants c) : left.element n = right.element n := by
  induction n using forest.downward_induction with
  | step n ih =>
      by_cases isColumn : n ∈ columns
      · exact cards n isColumn
      obtain ⟨sameLeft, sameRight⟩ := same n known outside
      have children : (before.node n).children.map left.element =
          (before.node n).children.map right.element := by
        refine List.map_congr_left fun m child => ih m child ?_ fun c member => ?_
        · exact known_of_parent ((forest.mem_children_iff n m).1 child)
        · rw [forest.mem_descendants_iff, forest.ancestors_of_parent ((forest.mem_children_iff n m).1 child),
            List.mem_cons, not_or]
          refine ⟨fun same => isColumn (same ▸ member), fun above => outside c member ?_⟩
          exact forest.mem_descendants_iff.2 above
      rw [forestLeft.element_of_node sameLeft, forestRight.element_of_node sameRight, children]

theorem preorder_replaced (forest : before.IsForest) (forest' : after.IsForest)
    (inside : p ∈ before.preorder n)
    (kept : ∀ m ∈ before.preorder n, m ∉ before.preorder p → after.node m = before.node m) :
    ∃ front back, before.preorder n = front ++ before.preorder p ++ back ∧
      after.preorder n = front ++ after.preorder p ++ back := by
  induction n using forest.downward_induction with
  | step n ih =>
      by_cases same : n = p
      · subst same
        exact ⟨[], [], by simp, by simp⟩
      have strictly : p ∈ before.descendants n := by
        rw [forest.preorder_eq_cons, List.mem_cons] at inside
        exact inside.resolve_left (Ne.symm same)
      have outside : n ∉ before.preorder p := fun below =>
        forest.not_mem_path_of_mem_ancestors (forest.mem_descendants_iff.1 strictly)
          (forest.mem_preorder_iff.1 below)
      rw [forest.descendants_eq, List.mem_flatMap] at strictly
      obtain ⟨c, child, below⟩ := strictly
      -- Only the child above `p` changes; the subtrees of the others avoid it.
      obtain ⟨left, right, split⟩ := List.append_of_mem child
      have link {c : NodeId} (child : c ∈ before.children n) : before.parent c = some n :=
        (forest.mem_children_iff n c).1 child
      have others : ∀ other ∈ before.children n, other ≠ c →
          after.preorder other = before.preorder other := by
        intro other sibling different
        refine forest.preorder_kept forest' fun m member => ?_
        refine kept m (forest.mem_preorder_of_child sibling member) fun belowP => ?_
        exact forest.disjoint_preorder_of_siblings (link sibling) (link child) different member
          (forest.preorder_subset_of_mem below belowP)
      have distinct := forest.nodup_children n
      rw [split, List.nodup_middle, List.nodup_cons] at distinct
      have map_others : ∀ siblings ⊆ left ++ right,
          siblings.flatMap after.preorder = siblings.flatMap before.preorder := by
        intro siblings subset
        refine List.flatMap_congr fun other member => others other ?_ ?_
        · rw [split]
          have := subset member
          simp only [List.mem_append, List.mem_cons] at this ⊢
          exact this.imp_right .inr
        · rintro rfl
          exact distinct.1 (subset member)
      have here := children_of_node (kept n forest.mem_preorder_self outside)
      obtain ⟨front, back, old, new⟩ := ih c child below fun m member =>
        kept m (forest.mem_preorder_of_child child member)
      refine ⟨n :: left.flatMap before.preorder ++ front, back ++ right.flatMap before.preorder, ?_, ?_⟩
      · rw [forest.preorder_eq, split, List.flatMap_append, List.flatMap_cons, old]
        simp
      · rw [forest'.preorder_eq, here, split, List.flatMap_append, List.flatMap_cons, new,
          map_others left (List.subset_append_left _ _), map_others right (List.subset_append_right _ _)]
        simp

theorem descendants_replaced (forest : before.IsForest) (forest' : after.IsForest)
    (inside : p ∈ before.descendants n)
    (kept : ∀ m ∈ before.preorder n, m ∉ before.preorder p → after.node m = before.node m) :
    ∃ front back, before.descendants n = front ++ before.preorder p ++ back ∧
      after.descendants n = front ++ after.preorder p ++ back ∧
      ∀ m, m ∈ front ∨ m ∈ back → m ∉ before.preorder p ∧ after.node m = before.node m := by
  have inside' : p ∈ before.preorder n := by
    rw [forest.preorder_eq_cons]
    exact List.mem_cons_of_mem _ inside
  obtain ⟨front, back, old, new⟩ := forest.preorder_replaced forest' inside' kept
  have distinct := forest.nodup_preorder n
  rw [old, List.nodup_append, List.nodup_append] at distinct
  have apart (m : NodeId) (outside : m ∈ front ∨ m ∈ back) : m ∉ before.preorder p := by
    intro below
    rcases outside with early | late
    · exact distinct.1.2.2 m early m below rfl
    · exact distinct.2.2 m (List.mem_append_right _ below) m late rfl
  have same (m : NodeId) (outside : m ∈ front ∨ m ∈ back) : after.node m = before.node m := by
    refine kept m ?_ (apart m outside)
    rw [old, List.mem_append, List.mem_append]
    exact outside.imp .inl id
  rw [forest.preorder_eq_cons] at old
  rw [forest'.preorder_eq_cons] at new
  cases front with
  | nil =>
      rw [forest.preorder_eq_cons p] at old
      have isTop : n = p := (List.cons.inj old).1
      rw [isTop] at inside
      exact absurd inside forest.not_mem_descendants_self
  | cons head front =>
      refine ⟨front, back, (List.cons.inj old).2, (List.cons.inj new).2, fun m outside => ?_⟩
      have outside' : m ∈ head :: front ∨ m ∈ back := outside.imp_left (List.mem_cons_of_mem _)
      exact ⟨apart m outside', same m outside'⟩

end IsForest
end ReportCards.Document
