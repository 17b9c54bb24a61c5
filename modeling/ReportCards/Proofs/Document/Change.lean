import ReportCards.Proofs.Document.Forest

/-!
# Elementary changes

`Change` relates a document to what an operation on one node makes of it, with the check that the
operation does first. Everything that is built by elementary changes from the empty document is a
forest.
-/
namespace ReportCards.Document
open Relation

variable {κ : Type} {doc after : Document κ} {n m p c : NodeId}

/-! ## Links after an edit of one node -/

theorem node_update_of_fixed (doc : Document κ) {change : Node κ → Node κ}
    (fixed : change { tag := "" } = { tag := "" }) (n m : NodeId) :
    (doc.update n change).node m = if m = n then change (doc.node m) else doc.node m := by
  rw [node_update]
  by_cases same : m = n
  · by_cases known : m < doc.size
    · rw [if_pos ⟨same.symm, known⟩, if_pos same]
    · rw [if_neg (fun both => known both.2), if_pos same,
        node_eq_blank_of_size_le doc (Nat.not_lt.1 known), fixed]
  · rw [if_neg (fun both => same both.1.symm), if_neg same]

theorem node_detach (doc : Document κ) (c m : NodeId) :
    (doc.detach c).node m =
      { doc.node m with
        children :=
          if doc.parent c = some m then (doc.children m).filter (· ≠ c) else doc.children m
        parent := if m = c then none else doc.parent m } := by
  unfold detach
  rw [node_update_of_fixed _ rfl]
  cases link : doc.parent c with
  | none => split <;> rfl
  | some q =>
      simp only [Option.some.injEq, eq_comm (a := q) (b := m)]
      rw [node_update_of_fixed _ rfl]
      split <;> split <;> rfl

theorem children_detach (doc : Document κ) (c m : NodeId) :
    (doc.detach c).children m =
      if doc.parent c = some m then (doc.children m).filter (· ≠ c) else doc.children m := by
  rw [children, node_detach]

theorem parent_detach (doc : Document κ) (c m : NodeId) :
    (doc.detach c).parent m = if m = c then none else doc.parent m := by
  rw [parent, node_detach]

@[simp] theorem size_detach (doc : Document κ) (c : NodeId) : (doc.detach c).size = doc.size := by
  unfold detach
  split <;> simp

theorem node_attach (doc : Document κ) (p c : NodeId) (knownParent : p < doc.size)
    (knownChild : c < doc.size) (m : NodeId) :
    (doc.attach p c).node m =
      { doc.node m with
        children := if m = p then doc.children m ++ [c] else doc.children m
        parent := if m = c then some p else doc.parent m } := by
  rw [attach, node_update, node_update, size_update]
  by_cases isParent : m = p
  · subst isParent
    by_cases isChild : m = c
    · simp [isChild, knownChild, children]
    · simp [isChild, Ne.symm isChild, knownParent, children, parent]
  · by_cases isChild : m = c
    · subst isChild; simp [isParent, Ne.symm isParent, knownChild, children]
    · simp [isParent, isChild, Ne.symm isParent, Ne.symm isChild, children, parent]

@[simp] theorem size_attach (doc : Document κ) (p c : NodeId) :
    (doc.attach p c).size = doc.size := by
  simp [attach]

theorem children_insert (doc : Document κ) (tag : String) (m : NodeId) :
    (doc.insert { tag }).children m = doc.children m := by
  rw [children, children, node_insert]
  split
  · subst m; rw [node_eq_blank_of_size_le doc (Nat.le_refl _)]
  · rfl

theorem parent_insert (doc : Document κ) (tag : String) (m : NodeId) :
    (doc.insert { tag }).parent m = doc.parent m := by
  rw [parent, parent, node_insert]
  split
  · subst m; rw [node_eq_blank_of_size_le doc (Nat.le_refl _)]
  · rfl

/-! ## Forests stay forests -/

namespace IsForest

theorem of_links (forest : doc.IsForest) (children : ∀ m, after.children m = doc.children m)
    (parent : ∀ m, after.parent m = doc.parent m) : after.IsForest where
  mem_children_iff p c := by rw [children, parent, forest.mem_children_iff]
  nodup_children p := by rw [children]; exact forest.nodup_children p
  acyclic := by simpa only [parent] using forest.acyclic

theorem update (forest : doc.IsForest) (n : NodeId) {change : Node κ → Node κ}
    (links : ∀ node, (change node).children = node.children ∧ (change node).parent = node.parent) :
    (doc.update n change).IsForest := by
  refine forest.of_links (fun m => ?_) (fun m => ?_)
  · rw [children, children, node_update]
    split
    · exact (links _).1
    · rfl
  · rw [parent, parent, node_update]
    split
    · exact (links _).2
    · rfl

theorem detach (forest : doc.IsForest) (c : NodeId) : (doc.detach c).IsForest where
  mem_children_iff p m := by
    have link := forest.mem_children_iff p m
    rw [children_detach, parent_detach]
    by_cases same : m = c
    · subst same
      by_cases above : doc.parent m = some p
      · simp [above]
      · simp [above, link]
    · by_cases above : doc.parent c = some p
      · simp [above, same, link]
      · simp [above, same, link]
  nodup_children p := by
    rw [children_detach]
    split
    · exact (forest.nodup_children p).filter _
    · exact forest.nodup_children p
  acyclic n cycle := by
    refine forest.acyclic n (TransGen.mono (fun a b link => ?_) _ _ cycle)
    rw [parent_detach] at link
    split at link
    · cases link
    · exact link

theorem transGen_attach (knownParent : p < doc.size) (knownChild : c < doc.size)
    (chain : TransGen (fun a b => (doc.attach p c).parent a = some b) n m) :
    TransGen (fun a b => doc.parent a = some b) n m ∨
      ReflTransGen (fun a b => doc.parent a = some b) n c ∧
        ReflTransGen (fun a b => doc.parent a = some b) p m := by
  -- The way is cut at its last use of the new link.
  have link {a b : NodeId} (new : (doc.attach p c).parent a = some b) :
      a = c ∧ b = p ∨ doc.parent a = some b := by
    rw [parent, node_attach doc p c knownParent knownChild] at new
    simp only at new
    split at new
    · exact .inl ⟨‹_›, (Option.some.inj new).symm⟩
    · exact .inr new
  induction chain with
  | single new =>
      rcases link new with ⟨rfl, rfl⟩ | old
      · exact .inr ⟨.refl, .refl⟩
      · exact .inl (.single old)
  | tail _ new ih =>
      rcases link new with ⟨rfl, rfl⟩ | old
      · rcases ih with before | ⟨before, -⟩
        · exact .inr ⟨before.to_reflTransGen, .refl⟩
        · exact .inr ⟨before, .refl⟩
      · rcases ih with before | ⟨before, beyond⟩
        · exact .inl (before.tail old)
        · exact .inr ⟨before, beyond.tail old⟩

theorem attach (forest : doc.IsForest) (knownParent : p < doc.size) (knownChild : c < doc.size)
    (root : doc.parent c = none)
    (apart : ¬ ReflTransGen (fun a b => doc.parent a = some b) p c) :
    (doc.attach p c).IsForest where
  mem_children_iff q m := by
    have link := forest.mem_children_iff q m
    rw [children, parent, node_attach doc p c knownParent knownChild,
      node_attach doc p c knownParent knownChild]
    by_cases same : m = c
    · subst same
      by_cases above : q = p
      · simp [above]
      · simp [above, Ne.symm above, link, root]
    · by_cases above : q = p
      · subst above; simp [same, link]
      · simp [above, same, link]
  nodup_children q := by
    rw [children, node_attach doc p c knownParent knownChild]
    simp only
    split
    · subst q
      have outside : c ∉ doc.children p := by simp [forest.mem_children_iff, root]
      have single : [c].Nodup := List.nodup_cons.2 ⟨List.not_mem_nil, List.nodup_nil⟩
      exact List.nodup_append.2 ⟨forest.nodup_children p, single, by
        rintro a inside b new rfl
        rw [List.mem_singleton] at new
        exact outside (new ▸ inside)⟩
    · exact forest.nodup_children q
  acyclic n cycle := by
    rcases transGen_attach knownParent knownChild cycle with old | ⟨toChild, fromParent⟩
    · exact forest.acyclic n old
    · exact apart (fromParent.trans toChild)

theorem foldl_detach (forest : doc.IsForest) (nodes : List NodeId) :
    (nodes.foldl Document.detach doc).IsForest := by
  induction nodes generalizing doc with
  | nil => exact forest
  | cons c rest ih => exact ih (forest.detach c)

theorem move (forest : doc.IsForest) (knownParent : p < doc.size) (knownChild : c < doc.size)
    (apart : doc.contains c p = false) : ((doc.detach c).attach p c).IsForest := by
  refine (forest.detach c).attach (by simpa) (by simpa) (by simp [parent_detach]) ?_
  intro chain
  have above : c ∈ doc.path p := by
    refine forest.mem_path_iff.2 (ReflTransGen.mono (fun a b link => ?_) _ _ chain)
    rw [parent_detach] at link
    split at link
    · cases link
    · exact link
  rw [(doc.contains_iff_mem_path c p).2 above] at apart
  cases apart

end IsForest

/-! ## Changes -/

/-- One elementary change: what an operation on single nodes does when it is not refused. -/
inductive Change : Document κ → Document κ → Prop
  | create (doc : Document κ) {tag : String} (accepted : isTagName tag = true) :
      Change doc (doc.insert { tag := lowerCase tag })
  | setText (doc : Document κ) (n : NodeId) (text : String) :
      Change doc (((doc.children n).foldl detach doc).update n fun node => { node with text })
  | addClass (doc : Document κ) (n : NodeId) {name : String} (accepted : isClassName name = true) :
      Change doc (doc.update n fun node => node.addClass name)
  | setAttribute (doc : Document κ) (n : NodeId) {name : String} (value : String)
      (accepted : isAttributeName name = true) :
      Change doc (doc.update n fun node => node.setAttribute name value)
  | append (doc : Document κ) {parent child : NodeId} (knownParent : parent < doc.size)
      (knownChild : child < doc.size) (apart : doc.contains child parent = false) :
      Change doc ((doc.detach child).attach parent child)
  | remove (doc : Document κ) {parent child : NodeId} (link : doc.parent child = some parent) :
      Change doc (doc.detach child)
  | onClick (doc : Document κ) (n : NodeId) (handler : Handler κ) :
      Change doc (({ doc with registered := doc.registered + 1 } : Document κ).update n fun node =>
        { node with handlers := node.handlers ++ [handler] })
  | clearHandlers (doc : Document κ) (n : NodeId) :
      Change doc (doc.update n fun node => { node with handlers := [] })

/-- Documents that can be built, starting with no node at all. -/
def Reachable (doc : Document κ) : Prop :=
  ReflTransGen Change {} doc

theorem Change.isForest (change : Change doc after) (forest : doc.IsForest) : after.IsForest := by
  cases change with
  | create accepted => exact forest.of_links (doc.children_insert _) (doc.parent_insert _)
  | setText n text => exact (forest.foldl_detach _).update n fun _ => ⟨rfl, rfl⟩
  | addClass n accepted =>
      refine forest.update n fun node => ?_
      unfold Node.addClass
      split <;> exact ⟨rfl, rfl⟩
  | setAttribute n value accepted =>
      refine forest.update n fun node => ?_
      unfold Node.setAttribute
      split <;> exact ⟨rfl, rfl⟩
  | append knownParent knownChild apart => exact forest.move knownParent knownChild apart
  | remove link => exact forest.detach _
  | onClick n handler =>
      have counted : ({ doc with registered := doc.registered + 1 } : Document κ).IsForest :=
        forest.of_links (fun _ => rfl) (fun _ => rfl)
      exact counted.update n fun _ => ⟨rfl, rfl⟩
  | clearHandlers n => exact forest.update n fun _ => ⟨rfl, rfl⟩

theorem IsForest.of_changes (forest : doc.IsForest) (changes : ReflTransGen Change doc after) :
    after.IsForest := by
  induction changes with
  | refl => exact forest
  | tail _ change ih => exact change.isForest ih

theorem Reachable.isForest (reachable : doc.Reachable) : doc.IsForest :=
  isForest_empty.of_changes reachable

theorem size_foldl_detach (doc : Document κ) (nodes : List NodeId) :
    (nodes.foldl detach doc).size = doc.size := by
  induction nodes generalizing doc with
  | nil => rfl
  | cons c rest ih => rw [List.foldl_cons, ih, size_detach]

theorem Change.size_le (change : Change doc after) : doc.size ≤ after.size := by
  cases change with
  | create => exact Nat.le_of_lt (by rw [size_insert]; exact Nat.lt_succ_self _)
  | setText => exact Nat.le_of_eq (by rw [size_update, size_foldl_detach])
  | addClass | setAttribute | clearHandlers | onClick => exact Nat.le_of_eq (size_update ..).symm
  | append => exact Nat.le_of_eq (by rw [size_attach, size_detach])
  | remove => exact Nat.le_of_eq (size_detach ..).symm

theorem size_le_of_changes (changes : ReflTransGen Change doc after) : doc.size ≤ after.size := by
  induction changes with
  | refl => exact Nat.le_refl _
  | tail _ change ih => exact Nat.le_trans ih change.size_le

end ReportCards.Document
