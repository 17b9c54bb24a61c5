import ReportCards.Proofs.Selector.Chain
import ReportCards.Proofs.Selector.Query
import ReportCards.Proofs.Selector.QuotedValue

namespace ReportCards
open Document Text

variable {κ : Type} {doc : Document κ} {a n : NodeId} {id : String}

namespace Selector

def within (id : String) : Selector → Selector
  | single test => .under (.single { id := some id }) .descendant test
  | under outer link test => .under (outer.within id) link test

theorem WrittenAs.within {selector : Selector} {text : List Char} (isName : IsName id.toList)
    (written : selector.WrittenAs text) :
    (selector.within id).WrittenAs ('#' :: (id.toList ++ ' ' :: text)) := by
  induction written with
  | @single test text written =>
      have tests : TestsWrittenAs [.id (String.ofList id.toList)] ('#' :: id.toList ++ []) :=
        .cons (.id isName) .nil
      have compound := IsCompoundOf.intro .absent tests (List.cons_ne_nil _ _)
      have blank : Combinator.descendant.WrittenAs [' '] :=
        .descendant (List.cons_ne_nil _ _) (List.forall_mem_singleton.2 (by decide))
      have whole := WrittenAs.under (.single (.intro compound)) blank written
      simpa [Selector.within, Compound.ofTests, Compound.add] using whole
  | @under outer link test front between back _ linkWritten testWritten ih =>
      have whole := WrittenAs.under ih linkWritten testWritten
      simpa [Selector.within] using whole

def SelectsBelow (doc : Document κ) (a : NodeId) : Selector → NodeId → Prop
  | single test, n => test.holds doc n = true ∧ a ∈ doc.ancestors n
  | under outer link test, n =>
      test.holds doc n = true ∧ ∃ m, link.Joins doc m n ∧ outer.SelectsBelow doc a m

theorem holds_id_iff : ({ id := some id } : Compound).holds doc n = true ↔
    doc.getAttribute n "id" = some id := by
  simp [Compound.holds]

theorem selects_within_iff (forest : doc.IsForest) (selector : Selector) (n : NodeId) :
    (selector.within id).selects doc n = true ↔
      ∃ a, doc.getAttribute a "id" = some id ∧ selector.SelectsBelow doc a n := by
  induction selector generalizing n with
  | single test =>
      rw [within, selects_under_iff forest]
      simp only [selects_single_iff, holds_id_iff, SelectsBelow, Combinator.Joins,
        forest.mem_ancestors_iff]
      constructor
      · rintro ⟨holds, m, above, carries⟩
        exact ⟨m, carries, holds, above⟩
      · rintro ⟨m, carries, holds, above⟩
        exact ⟨holds, m, above, carries⟩
  | under outer link test ih =>
      rw [within, selects_under_iff forest]
      simp only [ih, SelectsBelow]
      constructor
      · rintro ⟨holds, m, joins, a, carries, below⟩
        exact ⟨a, carries, holds, m, joins, below⟩
      · rintro ⟨a, carries, holds, m, joins, below⟩
        exact ⟨holds, m, joins, a, carries, below⟩

theorem SelectsBelow.mem_ancestors (forest : doc.IsForest) {selector : Selector}
    (selected : selector.SelectsBelow doc a n) : a ∈ doc.ancestors n := by
  induction selector generalizing n with
  | single test => exact selected.2
  | under outer link test ih =>
      obtain ⟨-, m, joins, below⟩ := selected
      refine forest.mem_ancestors_trans ?_ (ih below)
      rw [forest.mem_ancestors_iff]
      cases link with
      | child => exact .single joins
      | descendant => exact joins

end Selector

namespace Document

/-- The node is the only one that carries the identifier among those that a query below `container` looks at. -/
structure IsIdentified (doc : Document κ) (container : NodeId) (id : String) (a : NodeId) : Prop where
  below : a ∈ doc.descendants container
  carries : doc.getAttribute a "id" = some id
  unique : ∀ n ∈ doc.path container ++ doc.descendants container,
    doc.getAttribute n "id" = some id → n = a

theorem IsForest.mem_path_or_descendants (forest : doc.IsForest) {container : NodeId}
    (below : n ∈ doc.descendants container) (above : a ∈ doc.ancestors n) :
    a ∈ doc.path container ++ doc.descendants container := by
  rw [forest.mem_descendants_iff] at below
  rw [List.mem_append, forest.mem_descendants_iff]
  rcases forest.mem_path_total (List.mem_cons_of_mem n above) (List.mem_cons_of_mem n below) with
    higher | lower
  · exact .inl higher
  · rcases List.mem_cons.1 lower with rfl | lower
    · exact .inl (doc.mem_path_self _)
    · exact .inr lower

theorem IsIdentified.filter_selects_within {container : NodeId}
    (identified : doc.IsIdentified container id a) (forest : doc.IsForest) {selector : Selector}
    (only : ∀ m, selector.SelectsBelow doc a m ↔ m = n) :
    (doc.descendants container).filter ((selector.within id).selects doc) = [n] := by
  have selected : selector.SelectsBelow doc a n := (only n).2 rfl
  have below : n ∈ doc.descendants container := by
    have above := selected.mem_ancestors forest
    have higher := forest.mem_descendants_iff.1 identified.below
    exact forest.mem_descendants_iff.2 (forest.mem_ancestors_trans above higher)
  have same : ∀ m ∈ doc.descendants container, (selector.within id).selects doc m = decide (m = n) := by
    intro m inside
    rw [Bool.eq_iff_iff, Selector.selects_within_iff forest, decide_eq_true_iff, ← only]
    constructor
    · rintro ⟨b, carries, selected⟩
      have inSight := forest.mem_path_or_descendants inside (selected.mem_ancestors forest)
      rwa [identified.unique b inSight carries] at selected
    · exact fun selected => ⟨a, identified.carries, selected⟩
  have distinct := forest.nodup_preorder container
  rw [forest.preorder_eq_cons, List.nodup_cons] at distinct
  rw [List.filter_congr same, List.filter_eq, List.count_eq_one_of_mem distinct.2 below,
    List.replicate_one]

end Document
end ReportCards
