import ReportCards.Proofs.Document.Subtree

namespace ReportCards.Document
open Relation

variable {κ : Type} {doc : Document κ} {a b p q first second first' second' : NodeId}

def HasChild (doc : Document κ) (p c : NodeId) : Prop :=
  c ∈ doc.children p

structure Siblings (doc : Document κ) (p first second : NodeId) : Prop where
  first_mem : first ∈ doc.children p
  second_mem : second ∈ doc.children p
  earlier : (doc.children p).idxOf first < (doc.children p).idxOf second

inductive Precedes (doc : Document κ) : NodeId → NodeId → Prop
  | above {a b : NodeId} (down : TransGen doc.HasChild a b) : Precedes doc a b
  | beside {p first second a b : NodeId} (siblings : doc.Siblings p first second)
      (inFirst : ReflTransGen doc.HasChild first a) (inSecond : ReflTransGen doc.HasChild second b) :
      Precedes doc a b

theorem Siblings.ne (siblings : doc.Siblings p first second) : first ≠ second := by
  rintro rfl
  exact Nat.lt_irrefl _ siblings.earlier

namespace IsForest

variable (forest : doc.IsForest)
include forest

theorem hasChild_eq_swap : doc.HasChild = Function.swap fun c p => doc.parent c = some p := by
  funext p c
  exact propext (forest.mem_children_iff p c)

theorem reflTransGen_hasChild_iff : ReflTransGen doc.HasChild a b ↔ a ∈ doc.path b := by
  rw [forest.hasChild_eq_swap, reflTransGen_swap, forest.mem_path_iff]

theorem transGen_hasChild_iff : TransGen doc.HasChild a b ↔ a ∈ doc.ancestors b := by
  rw [forest.hasChild_eq_swap, transGen_swap, forest.mem_ancestors_iff]

theorem mem_path_of_child (child : first ∈ doc.children p) (above : first ∈ doc.path a) :
    p ∈ doc.path a := by
  apply forest.mem_path_trans above
  rw [forest.path_of_parent ((forest.mem_children_iff p first).1 child)]
  exact List.mem_cons_of_mem first (doc.mem_path_self p)

theorem eq_of_children_above (child : first ∈ doc.children p) (child' : second ∈ doc.children p)
    (above : first ∈ doc.path a) (above' : second ∈ doc.path a) : first = second := by
  rw [forest.mem_children_iff] at child child'
  by_contra different
  apply forest.disjoint_preorder_of_siblings child child' different
  · exact forest.mem_preorder_iff.2 above
  · exact forest.mem_preorder_iff.2 above'

theorem not_precedes_of_above (above : a ∈ doc.ancestors b) : ¬ doc.Precedes b a := by
  intro precedes
  cases precedes with
  | above down =>
      apply forest.not_mem_ancestors_self
      exact forest.mem_ancestors_trans above (forest.transGen_hasChild_iff.1 down)
  | beside siblings inFirst inSecond =>
      rw [forest.reflTransGen_hasChild_iff] at inFirst inSecond
      apply siblings.ne
      apply forest.eq_of_children_above siblings.first_mem siblings.second_mem inFirst
      exact forest.mem_path_trans (List.mem_cons_of_mem b above) inSecond

theorem eq_of_parted (siblings : doc.Siblings p first second) (siblings' : doc.Siblings q first' second')
    (inFirst : first ∈ doc.path a) (inSecond : second ∈ doc.path b) (inFirst' : first' ∈ doc.path b)
    (inSecond' : second' ∈ doc.path a) (up : q ∈ doc.path p) : q = p := by
  -- The branch that leads to `p` would lead to both nodes.
  by_contra different
  have above : q ∈ doc.ancestors p := (List.mem_cons.1 up).resolve_left different
  rw [← forest.mem_descendants_iff, forest.descendants_eq, List.mem_flatMap] at above
  obtain ⟨c, child, below⟩ := above
  rw [forest.mem_preorder_iff] at below
  have aboveA : c ∈ doc.path a :=
    forest.mem_path_trans (forest.mem_path_of_child siblings.first_mem inFirst) below
  have aboveB : c ∈ doc.path b :=
    forest.mem_path_trans (forest.mem_path_of_child siblings.second_mem inSecond) below
  apply siblings'.ne
  calc first' = c := forest.eq_of_children_above siblings'.first_mem child inFirst' aboveB
    _ = second' := forest.eq_of_children_above child siblings'.second_mem aboveA inSecond'

theorem not_precedes_of_precedes (precedes : doc.Precedes a b) : ¬ doc.Precedes b a := by
  intro back
  cases precedes with
  | above down => exact forest.not_precedes_of_above (forest.transGen_hasChild_iff.1 down) back
  | @beside p first second _ _ siblings inFirst inSecond =>
      cases back with
      | above down =>
          apply forest.not_precedes_of_above (forest.transGen_hasChild_iff.1 down)
          exact .beside siblings inFirst inSecond
      | @beside q first' second' _ _ siblings' inFirst' inSecond' =>
          rw [forest.reflTransGen_hasChild_iff] at inFirst inSecond inFirst' inSecond'
          have same : q = p := by
            rcases forest.mem_path_total (forest.mem_path_of_child siblings.first_mem inFirst)
              (forest.mem_path_of_child siblings'.second_mem inSecond') with up | up
            · exact (forest.eq_of_parted siblings' siblings inFirst' inSecond' inFirst inSecond up).symm
            · exact forest.eq_of_parted siblings siblings' inFirst inSecond inFirst' inSecond' up
          subst same
          cases forest.eq_of_children_above siblings.first_mem siblings'.second_mem inFirst inSecond'
          cases forest.eq_of_children_above siblings.second_mem siblings'.first_mem inSecond inFirst'
          exact Nat.lt_asymm siblings.earlier siblings'.earlier

theorem pairwise_siblings (p : NodeId) : (doc.children p).Pairwise (doc.Siblings p) := by
  rw [List.pairwise_iff_getElem]
  intro i j low high less
  refine ⟨List.getElem_mem low, List.getElem_mem high, ?_⟩
  rwa [(forest.nodup_children p).idxOf_getElem i low, (forest.nodup_children p).idxOf_getElem j high]

theorem pairwise_preorder (n : NodeId) : (doc.preorder n).Pairwise doc.Precedes := by
  induction n using forest.downward_induction with
  | step n ih =>
      rw [forest.preorder_eq_cons, List.pairwise_cons, forest.descendants_eq, List.pairwise_flatMap]
      refine ⟨fun b below => ?_, ih, ?_⟩
      · apply Precedes.above
        rw [← forest.descendants_eq, forest.mem_descendants_iff] at below
        exact forest.transGen_hasChild_iff.2 below
      · apply (forest.pairwise_siblings n).imp
        intro first second siblings a inFirst b inSecond
        rw [forest.mem_preorder_iff, ← forest.reflTransGen_hasChild_iff] at inFirst inSecond
        exact .beside siblings inFirst inSecond

theorem eq_of_pairwise_precedes {nodes others : List NodeId} (distinct : nodes.Nodup)
    (distinct' : others.Nodup) (same : ∀ n, n ∈ nodes ↔ n ∈ others)
    (ordered : nodes.Pairwise doc.Precedes) (ordered' : others.Pairwise doc.Precedes) :
    nodes = others := by
  have perm : nodes.Perm others := (List.perm_ext_iff_of_nodup distinct distinct').2 same
  apply perm.eq_of_pairwise _ ordered ordered'
  intro a b _ _ forth back
  exact absurd back (forest.not_precedes_of_precedes forth)

end IsForest
end ReportCards.Document
