import ReportCards.Proofs.Document.Run

namespace ReportCards
open Relation

variable {κ : Type} {doc before after : Document κ} {m p c : NodeId}

namespace Document

theorem eq_of_node (size : after.size = before.size) (registered : after.registered = before.registered)
    (node : ∀ m, after.node m = before.node m) : after = before := by
  have nodes : after.nodes = before.nodes := by
    refine Array.ext size fun m low high => ?_
    have same := node m
    simpa only [Document.node, Array.getD_eq_getD_getElem?, Array.getElem?_eq_getElem low,
      Array.getElem?_eq_getElem high, Option.getD_some] using same
  cases after
  cases before
  rw [Document.mk.injEq]
  exact ⟨nodes, registered⟩

theorem registered_adopt (doc : Document κ) (p c : NodeId) :
    (doc.adopt p c).registered = doc.registered := by
  rw [adopt, (KeepsHandlers.attach _ p c).registered_eq, (KeepsHandlers.detach doc c).registered_eq]

def LiesIn (doc : Document κ) (p c : NodeId) : Prop :=
  c = p ∨ TransGen (fun a b => doc.parent a = some b) p c

/-- A node became the last child of `p`, wherever it was before, and nothing else happened. -/
structure Moves (p c : NodeId) (before after : Document κ) : Prop where
  size_eq : after.size = before.size
  registered_eq : after.registered = before.registered
  parent_child : after.parent c = some p
  children_parent : after.children p = (before.children p).filter (· ≠ c) ++ [c]
  children_former : ∀ former ≠ p, before.parent c = some former →
    after.children former = (before.children former).filter (· ≠ c)
  parent_other : ∀ m ≠ c, after.parent m = before.parent m
  children_other : ∀ m ≠ p, before.parent c ≠ some m → after.children m = before.children m
  own_eq : ∀ m, after.node m =
    { before.node m with children := after.children m, parent := after.parent m }
  below_eq : ∀ m ∈ before.descendants c, after.node m = before.node m

namespace IsForest

theorem liesIn_iff (forest : doc.IsForest) : doc.LiesIn p c ↔ c ∈ doc.path p := by
  rw [LiesIn, path, List.mem_cons, forest.mem_ancestors_iff]

theorem filter_children (forest : doc.IsForest) (notChild : doc.parent c ≠ some m) :
    (doc.children m).filter (· ≠ c) = doc.children m := by
  refine List.filter_eq_self.2 fun other member => decide_eq_true ?_
  rintro rfl
  exact notChild ((forest.mem_children_iff m other).1 member)

/-- The old place of the node need not be looked up: it is in no other list. -/
theorem node_detach (forest : doc.IsForest) (c m : NodeId) :
    (doc.detach c).node m =
      { doc.node m with
        children := (doc.children m).filter (· ≠ c)
        parent := if m = c then none else doc.parent m } := by
  rw [Document.node_detach]
  split
  · rfl
  · rw [forest.filter_children ‹_›]

theorem node_foldl_detach (forest : doc.IsForest) (lost : List NodeId) (m : NodeId) :
    (lost.foldl Document.detach doc).node m =
      { doc.node m with
        children := (doc.children m).filter (· ∉ lost)
        parent := if m ∈ lost then none else doc.parent m } := by
  induction lost generalizing doc with
  | nil => simp [children, parent]
  | cons c lost ih =>
      have cut := forest.node_detach c m
      rw [List.foldl_cons, ih (forest.detach c), children, parent, cut, Node.mk.injEq]
      refine ⟨rfl, rfl, rfl, rfl, ?_, ?_, rfl⟩
      · rw [List.filter_filter]
        simp [Bool.and_comm]
      · by_cases isLost : m = c <;> simp [isLost]

section

variable (forest : doc.IsForest) (knownParent : p < doc.size) (knownChild : c < doc.size)
include forest knownParent knownChild

theorem node_adopt (m : NodeId) :
    (doc.adopt p c).node m =
      { doc.node m with
        children := (doc.children m).filter (· ≠ c) ++ if m = p then [c] else []
        parent := if m = c then some p else doc.parent m } := by
  have cut := forest.node_detach c m
  rw [adopt, node_attach _ p c (by simpa) (by simpa), children, parent, cut, Node.mk.injEq]
  refine ⟨rfl, rfl, rfl, rfl, ?_, ?_, rfl⟩
  · split
    · rfl
    · rw [List.append_nil]
  · split <;> rfl

theorem children_adopt (m : NodeId) : (doc.adopt p c).children m =
    (doc.children m).filter (· ≠ c) ++ if m = p then [c] else [] := by
  rw [children, forest.node_adopt knownParent knownChild]

theorem parent_adopt (m : NodeId) :
    (doc.adopt p c).parent m = if m = c then some p else doc.parent m := by
  rw [parent, forest.node_adopt knownParent knownChild]

theorem moves_adopt (apart : c ∉ doc.path p) : Moves p c doc (doc.adopt p c) where
  size_eq := size_adopt doc p c
  registered_eq := registered_adopt doc p c
  parent_child := by rw [forest.parent_adopt knownParent knownChild, if_pos rfl]
  children_parent := by rw [forest.children_adopt knownParent knownChild, if_pos rfl]
  children_former former different link := by
    rw [forest.children_adopt knownParent knownChild, if_neg different, List.append_nil]
  parent_other m different := by rw [forest.parent_adopt knownParent knownChild, if_neg different]
  children_other m notParent notFormer := by
    rw [forest.children_adopt knownParent knownChild, if_neg notParent, List.append_nil,
      forest.filter_children notFormer]
  own_eq m := by
    rw [forest.children_adopt knownParent knownChild, forest.parent_adopt knownParent knownChild,
      forest.node_adopt knownParent knownChild]
  below_eq m below := by
    have notChild : m ≠ c := fun same => forest.not_mem_descendants_self (same ▸ below)
    have notParent : m ≠ p := fun same =>
      apart (List.mem_cons_of_mem p (forest.mem_descendants_iff.1 (same ▸ below)))
    -- The old parent is above the node, so it is not below it.
    have notFormer : doc.parent c ≠ some m := by
      intro link
      refine forest.acyclic c (TransGen.head link ?_)
      exact forest.mem_ancestors_iff.1 (forest.mem_descendants_iff.1 below)
    rw [forest.node_adopt knownParent knownChild, if_neg notChild, if_neg notParent, List.append_nil,
      forest.filter_children notFormer]
    rfl

theorem detach_adopt (root : doc.parent c = none) : (doc.adopt p c).detach c = doc := by
  have size : ((doc.adopt p c).detach c).size = doc.size := by rw [size_detach, size_adopt]
  have registered : ((doc.adopt p c).detach c).registered = doc.registered := by
    rw [(KeepsHandlers.detach _ c).registered_eq, registered_adopt]
  have node := Document.node_adopt knownParent knownChild root
  have parent : (doc.adopt p c).parent c = some p := by
    rw [Document.parent, node, if_pos rfl]
  refine eq_of_node size registered fun m => ?_
  have cut : (doc.children m ++ [c]).filter (· ≠ c) = doc.children m := by
    rw [List.filter_append, forest.filter_children (by simp [root])]
    simp
  rw [Document.node_detach, parent, Document.children, Document.parent, node, Node.mk.injEq]
  refine ⟨rfl, rfl, rfl, rfl, ?_, ?_, rfl⟩
  · rcases eq_or_ne p m with rfl | notParent
    · rw [if_pos rfl, if_pos rfl, cut]
      rfl
    · rw [if_neg (by simpa using notParent), if_neg notParent.symm]
      rfl
  · rcases eq_or_ne m c with rfl | different
    · rw [if_pos rfl]
      exact root.symm
    · rw [if_neg different, if_neg different]
      rfl

end
end IsForest
end Document

namespace Edit
open Document

theorem run_append_of_mem_path (knownParent : p < doc.size) (knownChild : c < doc.size)
    (inside : c ∈ doc.path p) :
    (append p c).run doc = .error (.document .appendIntoItself) doc := by
  have known : ¬ (doc.size ≤ p ∨ doc.size ≤ c) :=
    not_or.2 ⟨Nat.not_le.2 knownParent, Nat.not_le.2 knownChild⟩
  rw [append, EStateM.run_bind, EStateM.run_get]
  simp only [known, (doc.contains_iff_mem_path c p).2 inside, if_false, if_true]
  rfl

theorem run_remove_of_ne (notChild : doc.parent c ≠ some p) :
    (remove p c).run doc = .error (.document .notAChild) doc := by
  rw [remove, EStateM.run_bind, EStateM.run_get]
  simp only [notChild, if_false]
  rfl

theorem run_append_eq_error_iff (forest : doc.IsForest) (knownParent : p < doc.size)
    (knownChild : c < doc.size) :
    (append p c).run doc = .error (.document .appendIntoItself) doc ↔ doc.LiesIn p c := by
  rw [forest.liesIn_iff]
  refine ⟨fun refused => ?_, run_append_of_mem_path knownParent knownChild⟩
  by_contra apart
  rw [run_append knownParent knownChild apart] at refused
  cases refused

theorem run_remove_eq_error_iff :
    (remove p c).run doc = .error (.document .notAChild) doc ↔ doc.parent c ≠ some p := by
  refine ⟨fun refused link => ?_, run_remove_of_ne⟩
  rw [run_remove link] at refused
  cases refused

/-- Appending moves a node or is refused, and removing takes a child out or is refused. What is refused
leaves the document as it was. -/
theorem append_moves_or_refuses (reachable : doc.Reachable) (knownParent : p < doc.size)
    (knownChild : c < doc.size) :
    ((append p c).run doc = .error (.document .appendIntoItself) doc ↔ doc.LiesIn p c) ∧
      (¬ doc.LiesIn p c → ∃ after, (append p c).run doc = .ok () after ∧ Moves p c doc after ∧
        (doc.parent c = none → (remove p c).run after = .ok () doc)) ∧
      ((remove p c).run doc = .error (.document .notAChild) doc ↔ doc.parent c ≠ some p) ∧
      (doc.parent c = some p → (remove p c).run doc = .ok () (doc.detach c)) := by
  have forest := reachable.isForest
  refine ⟨run_append_eq_error_iff forest knownParent knownChild, fun apart => ?_,
    run_remove_eq_error_iff, run_remove⟩
  rw [forest.liesIn_iff] at apart
  have moves := forest.moves_adopt knownParent knownChild apart
  refine ⟨doc.adopt p c, run_append knownParent knownChild apart, moves, fun root => ?_⟩
  rw [run_remove moves.parent_child, forest.detach_adopt knownParent knownChild root]

def twoLists : Edit Unit Unit := do
  let whole ← create "div"
  let full ← create "ul"
  let other ← create "ul"
  append whole full
  append whole other
  let first ← create "li"
  let second ← create "li"
  append full first
  append full second

theorem reachable_twoLists : (twoLists.after {}).Reachable := by
  have stepwise : twoLists.Stepwise := by
    unfold twoLists
    infer_instance
  exact stepwise.changes {}

theorem append_moves_or_refuses_twoLists :
    (twoLists.after {}).Reachable ∧
      (∃ after, (append 2 3).run (twoLists.after {}) = .ok () after ∧
        Moves 2 3 (twoLists.after {}) after ∧ after.children 1 = [4]) ∧
      (append 3 0).run (twoLists.after {}) = .error (.document .appendIntoItself) (twoLists.after {}) := by
  have reachable := reachable_twoLists
  have apart : ¬ (twoLists.after {}).LiesIn 2 3 := by
    rw [reachable.isForest.liesIn_iff]
    decide
  have inside : (twoLists.after {}).LiesIn 3 0 := by
    rw [reachable.isForest.liesIn_iff]
    decide
  obtain ⟨after, run, moves, -⟩ :=
    (append_moves_or_refuses reachable (by decide) (by decide)).2.1 apart
  have left := moves.children_former 1 (by decide) (by decide)
  refine ⟨reachable, ⟨after, run, moves, ?_⟩, ?_⟩
  · rw [left]
    decide
  · exact (append_moves_or_refuses reachable (by decide) (by decide)).1.2 inside

end Edit
end ReportCards
