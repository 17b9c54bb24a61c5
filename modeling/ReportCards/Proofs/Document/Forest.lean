import Mathlib.Data.List.Perm.Subperm
import Mathlib.Logic.Relation
import ReportCards.Document.Edit

namespace ReportCards.Document
open Relation

variable {κ : Type} {doc : Document κ} {n m p c : NodeId}

structure IsForest (doc : Document κ) : Prop where
  mem_children_iff : ∀ p c, c ∈ doc.children p ↔ doc.parent c = some p
  nodup_children : ∀ p, (doc.children p).Nodup
  acyclic : ∀ n, ¬ TransGen (fun a b => doc.parent a = some b) n n

theorem known_of_parent (child : doc.parent c = some p) : c < doc.size := by
  by_contra unknown
  rw [parent, node_eq_blank_of_size_le doc (Nat.not_lt.1 unknown)] at child
  cases child

theorem known_of_mem_children (child : c ∈ doc.children p) : p < doc.size := by
  by_contra unknown
  rw [children, node_eq_blank_of_size_le doc (Nat.not_lt.1 unknown)] at child
  cases child

theorem isForest_empty : ({} : Document κ).IsForest where
  mem_children_iff := by simp [children, parent, Document.node]
  nodup_children := by simp [children, Document.node]
  acyclic := by
    intro n cycle
    obtain ⟨m, link, -⟩ := TransGen.head'_iff.1 cycle
    simp [parent, Document.node] at link

/-! ## Upwards -/

theorem ancestorsWithin_of_root (root : doc.parent n = none) (steps : Nat) :
    doc.ancestorsWithin steps n = [] := by
  cases steps with
  | zero => rfl
  | succ steps => rw [ancestorsWithin, root]

theorem ancestorsWithin_of_parent (link : doc.parent n = some p) (steps : Nat) :
    doc.ancestorsWithin (steps + 1) n = p :: doc.ancestorsWithin steps p := by
  rw [ancestorsWithin, link]

theorem transGen_of_mem_ancestorsWithin {steps : Nat} (member : m ∈ doc.ancestorsWithin steps n) :
    TransGen (fun a b => doc.parent a = some b) n m := by
  induction steps generalizing n with
  | zero => cases member
  | succ steps ih =>
      cases link : doc.parent n with
      | none => rw [ancestorsWithin_of_root link] at member; cases member
      | some parent =>
          rw [ancestorsWithin_of_parent link] at member
          rcases List.mem_cons.1 member with rfl | above
          · exact .single link
          · exact .head link (ih above)

theorem ancestorsWithin_succ {steps : Nat}
    (short : (doc.ancestorsWithin steps n).length < steps) :
    doc.ancestorsWithin (steps + 1) n = doc.ancestorsWithin steps n := by
  induction steps generalizing n with
  | zero => cases short
  | succ steps ih =>
      cases link : doc.parent n with
      | none => rw [ancestorsWithin_of_root link, ancestorsWithin_of_root link]
      | some parent =>
          rw [ancestorsWithin_of_parent link, List.length_cons] at short
          rw [ancestorsWithin_of_parent link, ancestorsWithin_of_parent link,
            ih (Nat.lt_of_succ_lt_succ short)]

namespace IsForest

theorem known_of_child (forest : doc.IsForest) (child : doc.parent c = some p) : p < doc.size :=
  known_of_mem_children ((forest.mem_children_iff p c).2 child)

theorem nodup_ancestorsWithin (forest : doc.IsForest) (steps : Nat) (n : NodeId) :
    (n :: doc.ancestorsWithin steps n).Nodup := by
  induction steps generalizing n with
  | zero => simp [ancestorsWithin]
  | succ steps ih =>
      refine List.nodup_cons.2 ⟨fun cycle => forest.acyclic n (transGen_of_mem_ancestorsWithin cycle), ?_⟩
      cases link : doc.parent n with
      | none => rw [ancestorsWithin_of_root link]; exact List.nodup_nil
      | some parent => rw [ancestorsWithin_of_parent link]; exact ih parent

theorem known_of_mem_ancestorsWithin (forest : doc.IsForest) {steps : Nat}
    (member : m ∈ doc.ancestorsWithin steps n) : n < doc.size ∧ m < doc.size := by
  have chain := transGen_of_mem_ancestorsWithin member
  obtain ⟨first, up, -⟩ := TransGen.head'_iff.1 chain
  obtain ⟨last, -, link⟩ := TransGen.tail'_iff.1 chain
  exact ⟨known_of_parent up, forest.known_of_child link⟩

theorem nodup_path (forest : doc.IsForest) (n : NodeId) : (doc.path n).Nodup :=
  forest.nodup_ancestorsWithin doc.size n

theorem length_ancestorsWithin_lt (forest : doc.IsForest) (steps : Nat) (known : n < doc.size) :
    (doc.ancestorsWithin steps n).length < doc.size := by
  -- By the pigeonhole principle: a node and its ancestors are distinct known nodes.
  have inside : n :: doc.ancestorsWithin steps n ⊆ List.range doc.size := by
    intro m member
    rcases List.mem_cons.1 member with rfl | above
    · exact List.mem_range.2 known
    · exact List.mem_range.2 (forest.known_of_mem_ancestorsWithin above).2
  have bound := (List.subperm_of_subset (forest.nodup_ancestorsWithin steps n) inside).length_le
  rwa [List.length_cons, List.length_range] at bound

theorem ancestors_eq (forest : doc.IsForest) (n : NodeId) :
    doc.ancestors n =
      match doc.parent n with
      | none => []
      | some parent => parent :: doc.ancestors parent := by
  by_cases known : n < doc.size
  · rw [ancestors, ← ancestorsWithin_succ (forest.length_ancestorsWithin_lt _ known)]
    rfl
  · cases link : doc.parent n with
    | none => exact ancestorsWithin_of_root link _
    | some parent => exact absurd (known_of_parent link) known

theorem ancestors_of_parent (forest : doc.IsForest) (link : doc.parent n = some p) :
    doc.ancestors n = p :: doc.ancestors p := by
  rw [forest.ancestors_eq, link]

theorem path_of_parent (forest : doc.IsForest) (link : doc.parent n = some p) :
    doc.path n = n :: doc.path p := by
  rw [path, forest.ancestors_of_parent link, path]

theorem ancestors_of_root (forest : doc.IsForest) (root : doc.parent n = none) :
    doc.ancestors n = [] := by
  rw [forest.ancestors_eq, root]

theorem depth_child (forest : doc.IsForest) (link : doc.parent c = some p) :
    (doc.ancestors c).length = (doc.ancestors p).length + 1 := by
  rw [forest.ancestors_of_parent link, List.length_cons]

theorem upward_induction (forest : doc.IsForest) {motive : NodeId → Prop}
    (step : ∀ n, (∀ p, doc.parent n = some p → motive p) → motive n) (n : NodeId) : motive n := by
  induction depth : (doc.ancestors n).length generalizing n with
  | zero =>
      refine step n fun p link => ?_
      rw [forest.depth_child link] at depth
      cases depth
  | succ depth ih =>
      refine step n fun p link => ih p ?_
      rw [forest.depth_child link] at depth
      exact Nat.succ.inj depth

theorem downward_induction (forest : doc.IsForest) {motive : NodeId → Prop}
    (step : ∀ n, (∀ c ∈ doc.children n, motive c) → motive n) (n : NodeId) : motive n := by
  induction room : doc.size - (doc.ancestors n).length generalizing n with
  | zero =>
      refine step n fun c child => ?_
      have link := (forest.mem_children_iff n c).1 child
      have deeper := forest.length_ancestorsWithin_lt doc.size (known_of_parent link)
      change (doc.ancestors c).length < doc.size at deeper
      rw [forest.depth_child link] at deeper
      omega
  | succ room ih =>
      refine step n fun c child => ih c ?_
      have link := (forest.mem_children_iff n c).1 child
      rw [forest.depth_child link]
      omega

theorem mem_ancestors_iff (forest : doc.IsForest) :
    m ∈ doc.ancestors n ↔ TransGen (fun a b => doc.parent a = some b) n m := by
  refine ⟨transGen_of_mem_ancestorsWithin, fun chain => ?_⟩
  induction chain using TransGen.head_induction_on with
  | single link =>
      rw [forest.ancestors_of_parent link]
      exact List.mem_cons_self
  | head link _ ih =>
      rw [forest.ancestors_of_parent link]
      exact List.mem_cons_of_mem _ ih

theorem mem_path_iff (forest : doc.IsForest) :
    m ∈ doc.path n ↔ ReflTransGen (fun a b => doc.parent a = some b) n m := by
  rw [path, List.mem_cons, forest.mem_ancestors_iff, reflTransGen_iff_eq_or_transGen]

theorem not_mem_ancestors_self (forest : doc.IsForest) : n ∉ doc.ancestors n :=
  fun cycle => forest.acyclic n (forest.mem_ancestors_iff.1 cycle)

theorem mem_ancestors_trans (forest : doc.IsForest) (first : m ∈ doc.ancestors n)
    (second : p ∈ doc.ancestors m) : p ∈ doc.ancestors n := by
  rw [forest.mem_ancestors_iff] at first second ⊢
  exact first.trans second

theorem mem_path_trans (forest : doc.IsForest) (first : m ∈ doc.path n)
    (second : p ∈ doc.path m) : p ∈ doc.path n := by
  rw [forest.mem_path_iff] at first second ⊢
  exact first.trans second

theorem not_mem_path_of_mem_ancestors (forest : doc.IsForest) (above : m ∈ doc.ancestors n) :
    n ∉ doc.path m := by
  intro below
  rw [forest.mem_ancestors_iff] at above
  rw [forest.mem_path_iff] at below
  exact forest.acyclic n (above.trans_left below)

theorem mem_path_total (forest : doc.IsForest) {a b : NodeId} (first : a ∈ doc.path n)
    (second : b ∈ doc.path n) : a ∈ doc.path b ∨ b ∈ doc.path a := by
  rw [forest.mem_path_iff] at first second
  have unique : Relator.RightUnique fun a b => doc.parent a = some b := by
    intro a b c first second
    rw [first] at second
    exact Option.some.inj second
  rcases ReflTransGen.total_of_right_unique unique first second with up | up
  · exact .inr (forest.mem_path_iff.2 up)
  · exact .inl (forest.mem_path_iff.2 up)

end IsForest
end ReportCards.Document
