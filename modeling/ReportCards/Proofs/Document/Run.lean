import ReportCards.Proofs.Document.Frame
import ReportCards.Proofs.Document.Stepwise

namespace ReportCards
open Relation

variable {κ α β : Type} {doc after : Document κ} {n m p c : Nat}

namespace Document

theorem insert_update (doc : Document κ) (node : Node κ) (change : Node κ → Node κ) :
    (doc.insert node).update doc.size change = doc.insert (change node) := by
  unfold insert update size
  congr 1
  refine Array.ext (by simp) fun i low high => ?_
  rw [Array.getElem_modify, Array.getElem_push, Array.getElem_push]
  split
  · subst i; simp
  · simp only [Array.size_modify, Array.size_push] at low
    rw [dif_pos (by omega), dif_pos (by omega)]

theorem node_insert_self (doc : Document κ) (node : Node κ) :
    (doc.insert node).node doc.size = node := by
  rw [node_insert, if_pos rfl]

theorem node_insert_of_lt (doc : Document κ) (node : Node κ) (known : m < doc.size) :
    (doc.insert node).node m = doc.node m := by
  rw [node_insert, if_neg (Nat.ne_of_lt known)]

/-- Nothing happens but that a node becomes the given one. -/
structure Rewrites (n : NodeId) (node : Node κ) (before after : Document κ) : Prop where
  size_eq : after.size = before.size
  other : ∀ m ≠ n, after.node m = before.node m
  node_eq : after.node n = node

theorem Rewrites.refl (n : NodeId) (doc : Document κ) : Rewrites n (doc.node n) doc doc :=
  ⟨rfl, fun _ _ => rfl, rfl⟩

theorem Rewrites.trans {before middle after : Document κ} {first second : Node κ}
    (earlier : Rewrites n first before middle) (later : Rewrites n second middle after) :
    Rewrites n second before after where
  size_eq := by rw [later.size_eq, earlier.size_eq]
  other m different := by rw [later.other m different, earlier.other m different]
  node_eq := later.node_eq

theorem rewrites_update (doc : Document κ) (known : n < doc.size) (change : Node κ → Node κ) :
    Rewrites n (change (doc.node n)) doc (doc.update n change) where
  size_eq := size_update ..
  other _ different := node_update_ne doc change different.symm
  node_eq := node_update_self doc change known

def adopt (doc : Document κ) (p c : NodeId) : Document κ :=
  (doc.detach c).attach p c

@[simp] theorem size_adopt (doc : Document κ) (p c : NodeId) :
    (doc.adopt p c).size = doc.size := by
  rw [adopt, size_attach, size_detach]

section

variable (knownParent : p < doc.size) (knownChild : c < doc.size) (root : doc.parent c = none)
include knownParent knownChild root

theorem node_adopt (m : NodeId) :
    (doc.adopt p c).node m =
      { doc.node m with
        children := if m = p then doc.children m ++ [c] else doc.children m
        parent := if m = c then some p else doc.parent m } := by
  rw [adopt, node_attach _ p c (by simpa) (by simpa), node_detach, children_detach, parent_detach,
    root]
  by_cases same : m = c <;> simp [same]

theorem node_adopt_parent (different : p ≠ c) :
    (doc.adopt p c).node p = { doc.node p with children := doc.children p ++ [c] } := by
  rw [node_adopt knownParent knownChild root, if_pos rfl, if_neg different]
  rfl

theorem node_adopt_child (different : p ≠ c) :
    (doc.adopt p c).node c = { doc.node c with parent := some p } := by
  rw [node_adopt knownParent knownChild root, if_neg different.symm, if_pos rfl]
  rfl

theorem node_adopt_other (notParent : m ≠ p) (notChild : m ≠ c) :
    (doc.adopt p c).node m = doc.node m := by
  rw [node_adopt knownParent knownChild root, if_neg notParent, if_neg notChild]
  rfl

end
end Document

namespace Edit
open Document

theorem run_bind_of_ok {edit : Edit κ α} {next : α → Edit κ β} {value : α}
    (first : edit.run doc = .ok value after) : (edit >>= next).run doc = (next value).run after := by
  rw [EStateM.run_bind, first]

theorem forM_cons (edit : α → Edit κ PUnit) (item : α) (items : List α) :
    (item :: items).forM edit = edit item >>= fun _ => items.forM edit :=
  rfl

theorem run_forM_singleton {edit : α → Edit κ PUnit} {item : α}
    (run : (edit item).run doc = .ok PUnit.unit after) :
    ([item].forM edit).run doc = .ok PUnit.unit after := by
  rw [forM_cons, run_bind_of_ok run]
  rfl

theorem changes_of_run {edit : Edit κ α} [stepwise : Stepwise edit] {value : α}
    (run : edit.run doc = .ok value after) : ReflTransGen Change doc after := by
  have changes := stepwise.changes doc
  rwa [Edit.after, run] at changes

theorem isForest_of_run {edit : Edit κ α} [Stepwise edit] {value : α} (forest : doc.IsForest)
    (run : edit.run doc = .ok value after) : after.IsForest :=
  forest.of_changes (changes_of_run run)

theorem run_create {tag : String} (accepted : isTagName tag = true) (doc : Document κ) :
    (create tag).run doc = .ok doc.size (doc.insert { tag := lowerCase tag }) := by
  rw [create, if_pos accepted]
  rfl

theorem run_create_of_small {tag : String} (accepted : isTagName tag = true)
    (small : lowerCase tag = tag) (doc : Document κ) :
    (create tag).run doc = .ok doc.size (doc.insert { tag }) := by
  rw [run_create accepted, small]

theorem run_setText_of_leaf (leaf : doc.children n = []) (text : String) :
    (setText n text).run doc = .ok () (doc.update n fun node => { node with text }) := by
  rw [setText, EStateM.run_bind, EStateM.run_modify, leaf]
  rfl

theorem run_setText_insert {node : Node κ} (leaf : node.children = []) (text : String) :
    (setText doc.size text).run (doc.insert node) = .ok () (doc.insert { node with text }) := by
  rw [run_setText_of_leaf (by rw [children, node_insert_self, leaf]), insert_update]

theorem run_addClass {name : String} (accepted : isClassName name = true) (n : NodeId) :
    (addClass n name).run doc = .ok () (doc.update n fun node => node.addClass name) := by
  rw [addClass, if_pos accepted]
  rfl

theorem run_setAttribute {name : String} (accepted : isAttributeName name = true) (n : NodeId)
    (value : String) : (setAttribute n name value).run doc =
      .ok () (doc.update n fun node => node.setAttribute name value) := by
  rw [setAttribute, if_pos accepted]
  rfl

theorem run_onClick (n : NodeId) (action : κ) :
    (onClick n action).run doc = .ok ()
      (({ doc with registered := doc.registered + 1 } : Document κ).update n fun node =>
        { node with handlers := node.handlers ++ [{ serial := doc.registered, action }] }) :=
  rfl

theorem run_remove (link : doc.parent c = some p) :
    (remove p c).run doc = .ok () (doc.detach c) := by
  rw [remove, EStateM.run_bind, EStateM.run_get]
  simp only [link, if_true]
  rfl

theorem run_append (knownParent : p < doc.size) (knownChild : c < doc.size)
    (apart : c ∉ doc.path p) : (append p c).run doc = .ok () (doc.adopt p c) := by
  have known : ¬ (doc.size ≤ p ∨ doc.size ≤ c) :=
    not_or.2 ⟨Nat.not_le.2 knownParent, Nat.not_le.2 knownChild⟩
  have outside : doc.contains c p = false := by
    rw [← Bool.not_eq_true, contains_iff_mem_path]
    exact apart
  rw [append, EStateM.run_bind, EStateM.run_get]
  simp only [known, outside, if_false]
  rfl

theorem run_forM_addClass {node : Node κ} {classes : List String}
    (accepted : ∀ name ∈ classes, isClassName name = true)
    (distinct : (node.classes ++ classes).Nodup) :
    (classes.forM (addClass doc.size)).run (doc.insert node) =
      .ok PUnit.unit (doc.insert { node with classes := node.classes ++ classes }) := by
  induction classes generalizing node with
  | nil => simp
  | cons name classes ih =>
      have new : name ∉ node.classes := by
        rw [List.nodup_middle, List.nodup_cons] at distinct
        exact fun member => distinct.1 (List.mem_append_left _ member)
      have added : node.addClass name = { node with classes := node.classes ++ [name] } := by
        simp [Node.addClass, new]
      rw [forM_cons, run_bind_of_ok (run_addClass (accepted name List.mem_cons_self) _),
        insert_update, added, ih (fun other member => accepted other (List.mem_cons_of_mem _ member))]
      · simp
      · simpa using distinct

theorem run_createWithClasses {tag : String} {classes : List String}
    (acceptedTag : isTagName tag = true) (small : lowerCase tag = tag)
    (accepted : ∀ name ∈ classes, isClassName name = true) (distinct : classes.Nodup)
    (doc : Document κ) :
    (createWithClasses tag classes).run doc = .ok doc.size (doc.insert { tag, classes }) := by
  have added : (classes.forM (addClass doc.size)).run (doc.insert { tag }) =
      .ok PUnit.unit (doc.insert { tag, classes }) :=
    run_forM_addClass accepted distinct
  rw [createWithClasses, run_bind_of_ok (run_create_of_small acceptedTag small doc),
    run_bind_of_ok added]
  rfl

end Edit
end ReportCards
