import ReportCards.Proofs.Document.Run

namespace ReportCards
open Document

variable {κ α : Type} {doc before middle after : Document κ} {n m p c : Nat}

namespace Document

structure Gains (parent : NodeId) (new : List NodeId) (before after : Document κ) : Prop
    extends ChangedWithin [parent] before after where
  parent_node : after.node parent =
    { before.node parent with children := before.children parent ++ new }
  size_le_new : ∀ c ∈ new, before.size ≤ c

namespace Gains

variable {new new' : List NodeId}

theorem refl (parent : NodeId) (doc : Document κ) : Gains parent [] doc doc where
  toChangedWithin := .refl _ doc
  parent_node := by rw [List.append_nil]; rfl
  size_le_new := by simp

theorem kept_ne (gains : Gains p new before after) (known : n < before.size) (different : n ≠ p) :
    after.node n = before.node n :=
  gains.kept n known (by simpa using different)

theorem children_eq (gains : Gains p new before after) :
    after.children p = before.children p ++ new := by
  rw [children, gains.parent_node]

theorem trans (first : Gains p new before middle) (second : Gains p new' middle after) :
    Gains p (new ++ new') before after where
  toChangedWithin := first.toChangedWithin.trans second.toChangedWithin fun _ _ member => member
  parent_node := by
    rw [second.parent_node, first.children_eq, first.parent_node, List.append_assoc]
  size_le_new c member := by
    rcases List.mem_append.1 member with old | new
    · exact first.size_le_new c old
    · exact Nat.le_trans first.size_le (second.size_le_new c new)

theorem parent_kept (gains : Gains p new before after) (known : n < before.size) :
    after.parent n = before.parent n := by
  by_cases same : n = p
  · subst same
    rw [parent, gains.parent_node, parent]
  · rw [parent, gains.kept_ne known same, parent]

theorem handlers_kept (gains : Gains p new before after) (known : n < before.size) :
    after.handlers n = before.handlers n := by
  by_cases same : n = p
  · subst same
    rw [handlers, gains.parent_node, handlers]
  · rw [handlers, gains.kept_ne known same, handlers]

theorem getAttribute_kept (gains : Gains p new before after) (known : n < before.size) (name : String) :
    after.getAttribute n name = before.getAttribute n name := by
  by_cases same : n = p
  · subst same
    rw [getAttribute, gains.parent_node, getAttribute]
    rfl
  · rw [getAttribute, gains.kept_ne known same, getAttribute]

theorem kept_below (gains : Gains p new before after) (forest : before.IsForest)
    (link : before.parent c = some p) : ∀ m ∈ before.preorder c, after.node m = before.node m := by
  intro m below
  refine gains.kept_ne (forest.known_of_mem_preorder (known_of_parent link) below) ?_
  rintro rfl
  exact forest.not_mem_preorder_child link below

theorem kept_descendants (gains : Gains p new before after) (forest : before.IsForest)
    (below : n ∈ before.descendants p) : after.node n = before.node n := by
  refine gains.kept_ne (forest.known_of_mem_descendants below) ?_
  rintro rfl
  exact forest.not_mem_descendants_self below

theorem link (gains : Gains p new before after) (forest' : after.IsForest) (member : c ∈ new) :
    after.parent c = some p := by
  rw [← forest'.mem_children_iff, gains.children_eq]
  exact List.mem_append_right _ member

theorem descendants_eq (gains : Gains p new before after) (forest : before.IsForest)
    (forest' : after.IsForest) :
    after.descendants p = before.descendants p ++ new.flatMap after.preorder := by
  have old : (before.children p).flatMap after.preorder =
      (before.children p).flatMap before.preorder := by
    refine List.flatMap_congr fun c child => forest.preorder_kept forest' ?_
    exact gains.kept_below forest ((forest.mem_children_iff p c).1 child)
  rw [forest.descendants_eq, forest'.descendants_eq, gains.children_eq, List.flatMap_append, old]

theorem size_le_of_mem_preorder (gains : Gains p new before after) (forest : before.IsForest)
    (forest' : after.IsForest) (member : c ∈ new) (below : n ∈ after.preorder c) : before.size ≤ n := by
  by_contra old
  have above : c ∈ after.path n := forest'.mem_preorder_iff.1 below
  have known : c < before.size :=
    forest.lt_of_mem_path forest' (fun m => gains.parent_kept) (Nat.lt_of_not_le old) above
  exact absurd known (Nat.not_lt.2 (gains.size_le_new c member))

theorem trans_new (gains : Gains p new before middle) (known : p < before.size) {region : List NodeId}
    (changed : ChangedWithin region middle after) (newer : ∀ m ∈ region, before.size ≤ m) :
    Gains p new before after := by
  have kept (m : Nat) (old : m < before.size) : after.node m = middle.node m :=
    changed.kept m (Nat.lt_of_lt_of_le old gains.size_le) fun member =>
      absurd old (Nat.not_lt.2 (newer m member))
  refine ⟨⟨Nat.le_trans gains.size_le changed.size_le, fun m old outside => ?_⟩, ?_, gains.size_le_new⟩
  · rw [kept m old, gains.kept m old outside]
  · rw [kept p known, gains.parent_node]

end Gains

theorem IsForest.gains_adopt (forest : before.IsForest) (forest' : middle.IsForest)
    (built : ChangedWithin [] before middle) (knownParent : p < before.size)
    (new : before.size ≤ c) (knownChild : c < middle.size) (root : middle.parent c = none) :
    (Edit.append p c).run middle = .ok () (middle.adopt p c) ∧
      Gains p [c] before (middle.adopt p c) ∧
      (middle.adopt p c).node c = { middle.node c with parent := some p } ∧
      ∀ m ≠ p, m ≠ c → (middle.adopt p c).node m = middle.node m := by
  have kept : ∀ n < before.size, middle.node n = before.node n :=
    fun n known => built.kept n known List.not_mem_nil
  have knownParent' : p < middle.size := Nat.lt_of_lt_of_le knownParent built.size_le
  have different : p ≠ c := Nat.ne_of_lt (Nat.lt_of_lt_of_le knownParent new)
  have apart : c ∉ middle.path p := by
    intro above
    have old := forest.lt_of_mem_path forest' (fun m known => by rw [parent, kept m known, parent])
      knownParent above
    exact absurd old (Nat.not_lt.2 new)
  refine ⟨Edit.run_append knownParent' knownChild apart, ⟨⟨?_, ?_⟩, ?_, ?_⟩,
    node_adopt_child knownParent' knownChild root different,
    fun m => node_adopt_other knownParent' knownChild root⟩
  · rw [size_adopt]
    exact built.size_le
  · intro n known outside
    rw [node_adopt_other knownParent' knownChild root (by simpa using outside)
      (Nat.ne_of_lt (Nat.lt_of_lt_of_le known new)), kept n known]
  · rw [node_adopt_parent knownParent' knownChild root different, children, kept p knownParent,
      children]
  · simpa using new

/-! ## Trees under construction -/

/-- The new nodes follow the old ones, and these are as before. More nodes may have come later. -/
structure Extends (new : List (Node κ)) (before after : Document κ) : Prop where
  size_le : before.size + new.length ≤ after.size
  old : ∀ n < before.size, after.node n = before.node n
  new_eq : ∀ (i : Nat) (inside : i < new.length), after.node (before.size + i) = new[i]

namespace Extends

variable {new : List (Node κ)} {i j : Nat}

theorem refl (doc : Document κ) : Extends [] doc doc where
  size_le := Nat.le_refl _
  old _ _ := rfl
  new_eq _ inside := absurd inside (Nat.not_lt_zero _)

theorem insert (extends_ : Extends new before after) (last : after.size = before.size + new.length)
    (node : Node κ) : Extends (new ++ [node]) before (after.insert node) where
  size_le := by simp [last, Nat.add_assoc]
  old n known := by
    rw [node_insert_of_lt _ _ (by omega), extends_.old n known]
  new_eq i inside := by
    rw [List.length_append, List.length_singleton] at inside
    by_cases same : i = new.length
    · subst same
      rw [← last, node_insert_self, List.getElem_concat_length rfl]
    · rw [node_insert_of_lt _ _ (by omega), extends_.new_eq i (by omega),
        List.getElem_append_left (by omega)]

theorem plant (extends_ : Extends new before after) (last : after.size = before.size + new.length)
    {edit : Edit κ NodeId} {node : Node κ} (run : edit.run after = .ok after.size (after.insert node)) :
    ∃ later, edit.run after = .ok (before.size + new.length) later ∧
      Extends (new ++ [node]) before later ∧ later.size = before.size + (new.length + 1) := by
  refine ⟨after.insert node, ?_, extends_.insert last _, ?_⟩
  · rw [run, last]
  · rw [size_insert, last, Nat.add_assoc]

theorem update (extends_ : Extends new before after) (inside : i < new.length)
    (change : Node κ → Node κ) :
    Extends (new.modify i change) before (after.update (before.size + i) change) where
  size_le := by
    rw [size_update, List.length_modify]
    exact extends_.size_le
  old n known := by
    have different : before.size + i ≠ n := by omega
    rw [node_update_ne _ _ different, extends_.old n known]
  new_eq m inside' := by
    have size_le := extends_.size_le
    have known : before.size + i < after.size := by omega
    rw [List.getElem_modify]
    by_cases same : i = m
    · subst same
      rw [node_update_self _ _ known, if_pos rfl, extends_.new_eq i inside]
    · have different : before.size + i ≠ before.size + m := by omega
      rw [node_update_ne _ _ different, if_neg same,
        extends_.new_eq m (by rwa [List.length_modify] at inside')]

theorem gains {children : List NodeId} (extends_ : Extends new before middle) (inside : i < new.length)
    (gains : Gains (before.size + i) children middle after) :
    Extends (new.modify i fun node => { node with children := node.children ++ children })
      before after where
  size_le := by
    rw [List.length_modify]
    exact Nat.le_trans extends_.size_le gains.size_le
  old n known := by
    have := extends_.size_le
    rw [gains.kept_ne (by omega) (by omega), extends_.old n known]
  new_eq m inside' := by
    have known := extends_.size_le
    rw [List.length_modify] at inside'
    rw [List.getElem_modify]
    by_cases same : i = m
    · subst same
      rw [gains.parent_node, if_pos rfl, Document.children, extends_.new_eq i inside]
    · rw [gains.kept_ne (by omega) (by omega), if_neg same, extends_.new_eq m inside']

theorem changedWithin (extends_ : Extends new before after) : ChangedWithin [] before after where
  size_le := Nat.le_trans (Nat.le_add_right _ _) extends_.size_le
  kept n known _ := extends_.old n known

theorem adopt (extends_ : Extends new before after) (forest : after.IsForest)
    (insideP : i < new.length) (insideC : j < new.length) (different : i ≠ j)
    (rootP : new[i].parent = none) (rootC : new[j].parent = none) :
    ∃ later, (Edit.append (before.size + i) (before.size + j)).run after = .ok () later ∧
      Extends ((new.modify i fun node =>
          { node with children := node.children ++ [before.size + j] }).modify j fun node =>
          { node with parent := some (before.size + i) }) before later ∧
      ∀ m ≠ before.size + i, m ≠ before.size + j → later.node m = after.node m := by
  have knownP : before.size + i < after.size := by have := extends_.size_le; omega
  have knownC : before.size + j < after.size := by have := extends_.size_le; omega
  have apart : before.size + i ≠ before.size + j := by omega
  have parentP : after.parent (before.size + i) = none := by
    rw [parent, extends_.new_eq i insideP, rootP]
  have parentC : after.parent (before.size + j) = none := by
    rw [parent, extends_.new_eq j insideC, rootC]
  refine ⟨_, Edit.run_append knownP knownC ?_, ⟨?_, fun n known => ?_, fun m inside => ?_⟩,
    fun m => node_adopt_other knownP knownC parentC⟩
  · rw [forest.path_of_root parentP, List.mem_singleton]
    exact apart.symm
  · rw [size_adopt, List.length_modify, List.length_modify]
    exact extends_.size_le
  · rw [node_adopt_other knownP knownC parentC (by omega) (by omega), extends_.old n known]
  · have inside' : m < new.length := by simpa using inside
    rw [List.getElem_modify, List.getElem_modify]
    by_cases isC : m = j
    · subst isC
      rw [node_adopt_child knownP knownC parentC apart, extends_.new_eq m inside', if_pos rfl,
        if_neg different]
    · rw [if_neg (Ne.symm isC)]
      by_cases isP : m = i
      · subst isP
        rw [node_adopt_parent knownP knownC parentC apart, children, extends_.new_eq m inside',
          if_pos rfl]
      · rw [if_neg (Ne.symm isP), node_adopt_other knownP knownC parentC (by omega) (by omega),
          extends_.new_eq m inside']

end Extends
end Document

namespace Edit

theorem run_forM_of_gains {edit : α → Edit κ PUnit} [∀ item, Stepwise (edit item)]
    {Holds : Document κ → NodeId → α → Prop}
    (local_ : ∀ {before after : Document κ} {n : Nat} {item : α}, before.IsForest →
      after.IsForest → (∀ m ∈ before.preorder n, after.node m = before.node m) →
      Holds before n item → Holds after n item)
    (each : ∀ item (doc : Document κ), doc.IsForest → p < doc.size →
      ∃ c after, (edit item).run doc = .ok PUnit.unit after ∧ Gains p [c] doc after ∧
        Holds after c item)
    (items : List α) (forest : doc.IsForest) (known : p < doc.size) :
    ∃ new after, (items.forM edit).run doc = .ok PUnit.unit after ∧ Gains p new doc after ∧
      List.Forall₂ (Holds after) new items := by
  induction items generalizing doc with
  | nil => exact ⟨[], doc, rfl, .refl p doc, .nil⟩
  | cons item items ih =>
      obtain ⟨c, middle, run, gains, holds⟩ := each item doc forest known
      have forest' : middle.IsForest := isForest_of_run forest run
      obtain ⟨new, after, run', gains', all⟩ :=
        ih forest' (Nat.lt_of_lt_of_le known gains.size_le)
      have forest'' : after.IsForest := isForest_of_run forest' run'
      have link := gains.link forest' (List.mem_singleton_self c)
      refine ⟨c :: new, after, ?_, gains.trans gains', .cons ?_ all⟩
      · rw [forM_cons, run_bind_of_ok run, run']
      · exact local_ forest' forest'' (gains'.kept_below forest' link) holds

end Edit
end ReportCards
