import Mathlib.Data.List.Nodup
import ReportCards.Markup.Element
import ReportCards.Proofs.Document.Forest

namespace ReportCards

theorem Subtree.preorders_eq_flatMap (subtrees : List Subtree) :
    preorders subtrees = subtrees.flatMap preorder := by
  induction subtrees with
  | nil => rfl
  | cons first rest ih => rw [preorders, ih, List.flatMap_cons]

namespace Document

variable {κ : Type} {doc : Document κ} {n m p c : NodeId}

theorem elementsOf_eq_map (doc : Document κ) (subtrees : List Subtree) :
    doc.elementsOf subtrees = subtrees.map doc.elementOf := by
  induction subtrees with
  | nil => rfl
  | cons first rest ih => rw [elementsOf, ih, List.map_cons]

def preorder (doc : Document κ) (n : NodeId) : List NodeId :=
  (doc.subtree n).preorder

namespace IsForest

theorem subtreeWithin_succ (forest : doc.IsForest) {depth : Nat}
    (deep : doc.size ≤ (doc.ancestors n).length + depth) :
    doc.subtreeWithin (depth + 1) n = doc.subtreeWithin depth n := by
  induction depth generalizing n with
  | zero =>
      have leaf : doc.children n = [] := by
        refine List.eq_nil_iff_forall_not_mem.2 fun c child => ?_
        have link := (forest.mem_children_iff n c).1 child
        have bound := forest.length_ancestorsWithin_lt doc.size (known_of_parent link)
        change (doc.ancestors c).length < doc.size at bound
        rw [forest.depth_child link] at bound
        omega
      rw [subtreeWithin, subtreeWithin, leaf, List.map_nil]
  | succ depth ih =>
      rw [subtreeWithin, subtreeWithin]
      congr 1
      refine List.map_congr_left fun c child => ih ?_
      rw [forest.depth_child ((forest.mem_children_iff n c).1 child)]
      omega

theorem subtree_eq (forest : doc.IsForest) (n : NodeId) :
    doc.subtree n = .node n ((doc.children n).map doc.subtree) := by
  rw [subtree, ← forest.subtreeWithin_succ (Nat.le_add_left _ _)]
  rfl

theorem preorder_eq (forest : doc.IsForest) (n : NodeId) :
    doc.preorder n = n :: (doc.children n).flatMap doc.preorder := by
  rw [preorder, forest.subtree_eq, Subtree.preorder, Subtree.preorders_eq_flatMap,
    List.flatMap_map]
  rfl

theorem descendants_eq (forest : doc.IsForest) (n : NodeId) :
    doc.descendants n = (doc.children n).flatMap doc.preorder := by
  rw [descendants, forest.subtree_eq, Subtree.branches, Subtree.preorders_eq_flatMap,
    List.flatMap_map]
  rfl

theorem preorder_eq_cons (forest : doc.IsForest) (n : NodeId) :
    doc.preorder n = n :: doc.descendants n := by
  rw [forest.preorder_eq, forest.descendants_eq]

theorem preorder_of_leaf (forest : doc.IsForest) (leaf : doc.children n = []) :
    doc.preorder n = [n] := by
  rw [forest.preorder_eq, leaf, List.flatMap_nil]

theorem preorder_of_only_leaf (forest : doc.IsForest) (only : doc.children n = [c])
    (leaf : doc.children c = []) : doc.preorder n = [n, c] := by
  rw [forest.preorder_eq, only, List.flatMap_singleton, forest.preorder_of_leaf leaf]

theorem element_eq (forest : doc.IsForest) (n : NodeId) :
    doc.element n =
      { tag := doc.tag n
        id := (doc.attributes n).lookup "id"
        classes := doc.classes n
        attributes := (doc.attributes n).filter (·.1 ≠ "id")
        text := doc.ownText n
        children := (doc.children n).map doc.element } := by
  rw [element, forest.subtree_eq, elementOf, elementsOf_eq_map, List.map_map]
  rfl

theorem mem_preorder_self (forest : doc.IsForest) : n ∈ doc.preorder n := by
  rw [forest.preorder_eq]
  exact List.mem_cons_self

theorem mem_preorder_iff (forest : doc.IsForest) : m ∈ doc.preorder n ↔ n ∈ doc.path m := by
  constructor
  · intro below
    induction n using forest.downward_induction with
    | step n ih =>
        rw [forest.preorder_eq, List.mem_cons, List.mem_flatMap] at below
        rcases below with rfl | ⟨c, child, below⟩
        · exact doc.mem_path_self _
        · refine forest.mem_path_trans (ih c child below) ?_
          rw [forest.path_of_parent ((forest.mem_children_iff n c).1 child)]
          exact List.mem_cons_of_mem _ (doc.mem_path_self n)
  · intro above
    rw [forest.mem_path_iff] at above
    induction above with
    | refl => exact forest.mem_preorder_self
    | @tail a b _ link ih =>
        -- The subtree of a child lies in that of its parent, so the induction ends at `n`.
        have child := (forest.mem_children_iff b a).2 link
        have inside : doc.preorder a ⊆ doc.preorder b := by
          rw [forest.preorder_eq b]
          exact fun x member => List.mem_cons_of_mem _ (List.mem_flatMap.2 ⟨a, child, member⟩)
        exact inside ih

theorem mem_descendants_iff (forest : doc.IsForest) :
    m ∈ doc.descendants n ↔ n ∈ doc.ancestors m := by
  have whole := forest.mem_preorder_iff (n := n) (m := m)
  rw [forest.preorder_eq_cons, path, List.mem_cons, List.mem_cons] at whole
  constructor
  · intro below
    rcases whole.1 (.inr below) with rfl | above
    · rw [forest.descendants_eq, List.mem_flatMap] at below
      obtain ⟨c, child, below⟩ := below
      have link := (forest.mem_children_iff _ c).1 child
      refine absurd (forest.mem_preorder_iff.1 below) (forest.not_mem_path_of_mem_ancestors ?_)
      rw [forest.ancestors_of_parent link]
      exact List.mem_cons_self
    · exact above
  · intro above
    rcases whole.2 (.inr above) with rfl | below
    · exact absurd above forest.not_mem_ancestors_self
    · exact below

theorem not_mem_descendants_self (forest : doc.IsForest) : n ∉ doc.descendants n :=
  fun below => forest.not_mem_ancestors_self (forest.mem_descendants_iff.1 below)

theorem known_of_mem_descendants (forest : doc.IsForest) (below : m ∈ doc.descendants n) :
    m < doc.size :=
  (forest.known_of_mem_ancestorsWithin (forest.mem_descendants_iff.1 below)).1

theorem preorder_subset_of_mem (forest : doc.IsForest) (inside : m ∈ doc.preorder n) :
    doc.preorder m ⊆ doc.preorder n := by
  intro x below
  rw [forest.mem_preorder_iff] at inside below ⊢
  exact forest.mem_path_trans below inside

theorem preorder_subset_descendants (forest : doc.IsForest) (inside : m ∈ doc.descendants n) :
    doc.preorder m ⊆ doc.descendants n := by
  intro x below
  rw [forest.mem_descendants_iff] at inside ⊢
  rcases List.mem_cons.1 (forest.mem_preorder_iff.1 below) with rfl | above
  · exact inside
  · exact forest.mem_ancestors_trans above inside

theorem not_mem_preorder_child (forest : doc.IsForest) (link : doc.parent c = some p) :
    p ∉ doc.preorder c := by
  intro below
  refine forest.not_mem_path_of_mem_ancestors ?_ (forest.mem_preorder_iff.1 below)
  rw [forest.ancestors_of_parent link]
  exact List.mem_cons_self

theorem parent_ne_self (forest : doc.IsForest) (n : NodeId) : doc.parent n ≠ some n :=
  fun link => forest.not_mem_preorder_child link forest.mem_preorder_self

theorem disjoint_preorder_of_siblings (forest : doc.IsForest) {a b : NodeId}
    (first : doc.parent a = some p) (second : doc.parent b = some p) (different : a ≠ b) :
    (doc.preorder a).Disjoint (doc.preorder b) := by
  intro x below below'
  rw [forest.mem_preorder_iff] at below below'
  have apart {a b : NodeId} (first : doc.parent a = some p) (second : doc.parent b = some p)
      (different : a ≠ b) : a ∉ doc.path b := by
    intro above
    rw [forest.path_of_parent second, List.mem_cons] at above
    refine above.elim different (forest.not_mem_path_of_mem_ancestors ?_)
    rw [forest.ancestors_of_parent first]
    exact List.mem_cons_self
  rcases forest.mem_path_total below below' with above | above
  · exact apart first second different above
  · exact apart second first different.symm above

theorem nodup_preorder (forest : doc.IsForest) (n : NodeId) : (doc.preorder n).Nodup := by
  induction n using forest.downward_induction with
  | step n ih =>
      have link (c : NodeId) (child : c ∈ doc.children n) : doc.parent c = some n :=
        (forest.mem_children_iff n c).1 child
      rw [forest.preorder_eq, List.nodup_cons, List.nodup_flatMap]
      refine ⟨?_, ih, ?_⟩
      · intro cycle
        obtain ⟨c, child, below⟩ := List.mem_flatMap.1 cycle
        exact forest.not_mem_preorder_child (link c child) below
      · refine (forest.nodup_children n).imp_of_mem fun first second different => ?_
        exact forest.disjoint_preorder_of_siblings (link _ first) (link _ second) different

theorem known_of_mem_preorder (forest : doc.IsForest) (known : n < doc.size)
    (inside : m ∈ doc.preorder n) : m < doc.size := by
  rw [forest.preorder_eq_cons] at inside
  rcases List.mem_cons.1 inside with rfl | below
  · exact known
  · exact forest.known_of_mem_descendants below

end IsForest
end Document
end ReportCards
