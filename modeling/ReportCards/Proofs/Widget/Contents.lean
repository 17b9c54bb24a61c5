import ReportCards.Proofs.Document.Run

namespace ReportCards.Edit
open Document

variable {κ : Type} {doc before middle after : Document κ} {n m p c : NodeId} {lost : List NodeId}

/-- Some children were cut off from the node, and what was below them has lost its handlers. -/
structure Cuts (n : NodeId) (lost : List NodeId) (before after : Document κ) : Prop where
  size_eq : after.size = before.size
  node_eq : ∀ m, after.node m =
    { before.node m with
      children := if m = n then (before.children n).filter (· ∉ lost) else before.children m
      parent := if m ∈ lost then none else before.parent m
      handlers := if m ∈ lost.flatMap before.preorder then [] else before.handlers m }

structure Empties (n : NodeId) (before after : Document κ) : Prop where
  size_eq : after.size = before.size
  node_eq : after.node n = { before.node n with children := [], text := "" }
  node_other : ∀ m ≠ n, after.node m =
    { before.node m with
      parent := if before.parent m = some n then none else before.parent m
      handlers := if m ∈ before.descendants n then [] else before.handlers m }

namespace Cuts

variable (cuts : Cuts n lost before after)
include cuts

theorem children_eq (m : NodeId) : after.children m =
    if m = n then (before.children n).filter (· ∉ lost) else before.children m := by
  rw [children, cuts.node_eq]

theorem parent_eq (m : NodeId) : after.parent m = if m ∈ lost then none else before.parent m := by
  rw [parent, cuts.node_eq]

theorem handlers_eq (m : NodeId) : after.handlers m =
    if m ∈ lost.flatMap before.preorder then [] else before.handlers m := by
  rw [handlers, cuts.node_eq]

end Cuts

theorem run_forM_clearHandlers (nodes : List NodeId) (doc : Document κ) :
    ∃ after, (nodes.forM clearHandlers).run doc = .ok PUnit.unit after ∧
      after.size = doc.size ∧
      ∀ m, after.node m = if m ∈ nodes then { doc.node m with handlers := [] } else doc.node m := by
  induction nodes generalizing doc with
  | nil => exact ⟨doc, rfl, rfl, by simp⟩
  | cons n nodes ih =>
      obtain ⟨after, run, size, node⟩ := ih (doc.update n fun node => { node with handlers := [] })
      refine ⟨after, run, by rw [size, size_update], fun m => ?_⟩
      rw [node, node_update_of_fixed _ rfl]
      by_cases same : m = n
      · subst same; simp
      · simp [same]

theorem run_remove_released (link : doc.parent c = some n) :
    ∃ after, (releaseHandlers c >>= fun _ => remove n c).run doc = .ok () after ∧ Cuts n [c] doc after := by
  obtain ⟨released, run, size, node⟩ := run_forM_clearHandlers (doc.preorder c) doc
  have parent (m : NodeId) : released.parent m = doc.parent m := by
    rw [Document.parent, node]
    split <;> rfl
  have children (m : NodeId) : released.children m = doc.children m := by
    rw [Document.children, node]
    split <;> rfl
  refine ⟨released.detach c, ?_, ?_, fun m => ?_⟩
  · have first : (releaseHandlers c).run doc = .ok PUnit.unit released := run
    rw [run_bind_of_ok first, run_remove (by rw [parent, link])]
  · rw [size_detach, size]
  · rw [node_detach, children, parent, parent, link, node]
    rcases eq_or_ne m n with rfl | notParent
    · by_cases below : m ∈ doc.preorder c <;> simp [below, Document.handlers]
    · by_cases below : m ∈ doc.preorder c <;>
        simp [below, notParent, notParent.symm, Document.handlers]

theorem Cuts.cons (forest : before.IsForest) (forest' : middle.IsForest)
    (links : ∀ other ∈ c :: lost, before.parent other = some n) (fresh : c ∉ lost)
    (first : Cuts n [c] before middle) (second : Cuts n lost middle after) :
    Cuts n (c :: lost) before after := by
  have preorders : lost.flatMap middle.preorder = lost.flatMap before.preorder := by
    apply List.flatMap_congr
    intro other member
    have link := links other (List.mem_cons_of_mem _ member)
    have different : c ≠ other := fun same => fresh (same ▸ member)
    -- The subtree of a sibling contains neither the parent nor anything of the other subtree.
    have apart := forest.disjoint_preorder_of_siblings (links c List.mem_cons_self) link different
    apply forest.preorder_kept forest'
    intro m below
    have notParent : m ≠ n := fun same => forest.not_mem_preorder_child link (same ▸ below)
    have notBelow : m ∉ before.preorder c := fun other => apart other below
    have notChild : m ≠ c := fun same => notBelow (same ▸ forest.mem_preorder_self)
    rw [first.node_eq]
    simp [notParent, notBelow, notChild, Document.children, Document.parent, Document.handlers]
  refine ⟨by rw [second.size_eq, first.size_eq], fun m => ?_⟩
  rw [second.node_eq, preorders, first.children_eq, first.children_eq, first.parent_eq,
    first.handlers_eq, first.node_eq, Node.mk.injEq]
  refine ⟨rfl, rfl, rfl, rfl, ?_, ?_, ?_⟩
  · by_cases isParent : m = n
    · simp [isParent, List.filter_filter, Bool.and_comm]
    · simp [isParent]
  · by_cases isChild : m = c <;> simp [isChild]
  · by_cases below : m ∈ before.preorder c <;> simp [below]

theorem run_forM_remove (forest : doc.IsForest) (links : ∀ c ∈ lost, doc.parent c = some n)
    (distinct : lost.Nodup) :
    ∃ after, (lost.forM fun c => releaseHandlers c >>= fun _ => remove n c).run doc =
      .ok PUnit.unit after ∧ Cuts n lost doc after := by
  induction lost generalizing doc with
  | nil =>
      refine ⟨doc, rfl, rfl, fun m => ?_⟩
      by_cases same : m = n <;> simp [same, Document.children, Document.parent, Document.handlers]
  | cons c lost ih =>
      obtain ⟨middle, run, cuts⟩ := run_remove_released (links c List.mem_cons_self)
      have forest' : middle.IsForest := isForest_of_run forest run
      rw [List.nodup_cons] at distinct
      have links' : ∀ other ∈ lost, middle.parent other = some n := by
        intro other member
        have different : other ≠ c := fun same => distinct.1 (same ▸ member)
        rw [cuts.parent_eq, if_neg (by simpa using different)]
        exact links other (List.mem_cons_of_mem _ member)
      obtain ⟨after, run', cuts'⟩ := ih forest' links' distinct.2
      refine ⟨after, ?_, cuts.cons forest forest' links distinct.1 cuts'⟩
      rw [forM_cons, run_bind_of_ok run, run']

theorem run_clearContents_empties (forest : doc.IsForest) (n : NodeId) :
    ∃ after, (clearContents n).run doc = .ok () after ∧ Empties n doc after := by
  have child (m : NodeId) : m ∈ (doc.children n).reverse ↔ doc.parent m = some n := by
    rw [List.mem_reverse, forest.mem_children_iff]
  have below (m : NodeId) : m ∈ (doc.children n).reverse.flatMap doc.preorder ↔ m ∈ doc.descendants n := by
    rw [forest.descendants_eq, List.mem_flatMap, List.mem_flatMap]
    simp only [List.mem_reverse]
  obtain ⟨emptied, run, cuts⟩ := run_forM_remove forest (fun c member => (child c).1 member)
    (List.nodup_reverse.2 (forest.nodup_children n))
  have leaf : emptied.children n = [] := by
    rw [cuts.children_eq]
    simp
  refine ⟨emptied.update n fun node => { node with text := "" }, ?_, ?_, ?_, fun m different => ?_⟩
  · rw [clearContents, EStateM.run_bind, EStateM.run_get]
    refine (run_bind_of_ok run).trans ?_
    exact run_setText_of_leaf leaf ""
  · rw [size_update, cuts.size_eq]
  · have notBelow : n ∉ doc.descendants n := forest.not_mem_descendants_self
    have notChild : doc.parent n ≠ some n := forest.parent_ne_self n
    rw [node_update_of_fixed _ (by rfl), if_pos rfl, cuts.node_eq, ← cuts.children_eq, leaf]
    simp only [child, below, notBelow, notChild, if_false]
    rfl
  · rw [node_update_ne _ _ different.symm, cuts.node_eq]
    simp only [child, below, different, if_false]
    rfl

theorem Empties.changedWithin (empties : Empties n before after) (forest : before.IsForest) :
    ChangedWithin (before.preorder n) before after where
  size_le := Nat.le_of_eq empties.size_eq.symm
  kept m _ outside := by
    rw [forest.preorder_eq_cons, List.mem_cons, not_or] at outside
    have notChild : before.parent m ≠ some n := by
      intro link
      apply outside.2
      rw [forest.mem_descendants_iff, forest.ancestors_of_parent link]
      exact List.mem_cons_self
    rw [empties.node_other m outside.1, if_neg notChild, if_neg outside.2]
    rfl

theorem run_clearContents (forest : doc.IsForest) (n : NodeId) :
    ∃ after, (clearContents n).run doc = .ok () after ∧
      after.node n = { doc.node n with children := [], text := "" } ∧
      ChangedWithin (doc.preorder n) doc after := by
  obtain ⟨after, run, empties⟩ := run_clearContents_empties forest n
  exact ⟨after, run, empties.node_eq, empties.changedWithin forest⟩

end ReportCards.Edit
