import ReportCards.Proofs.Document.Order
import ReportCards.Proofs.Document.Stepwise
import ReportCards.Selector.Reader

namespace ReportCards
open Relation Document

variable {κ : Type} {doc : Document κ} {a : NodeId}

namespace Document

/-- All nodes below `a`, each once and in document order. -/
structure ListsBelow (doc : Document κ) (a : NodeId) (nodes : List NodeId) : Prop where
  nodup : nodes.Nodup
  mem_iff : ∀ b, b ∈ nodes ↔ b ≠ a ∧ doc.contains a b = true
  ordered : nodes.Pairwise doc.Precedes

theorem IsForest.contains_iff (forest : doc.IsForest) (a b : NodeId) :
    doc.contains a b = true ↔ ReflTransGen doc.HasChild a b := by
  rw [contains_iff_mem_path, forest.reflTransGen_hasChild_iff]

theorem IsForest.listsBelow (forest : doc.IsForest) (a : NodeId) :
    doc.ListsBelow a (doc.descendants a) := by
  have distinct := forest.nodup_preorder a
  have ordered := forest.pairwise_preorder a
  rw [forest.preorder_eq_cons, List.nodup_cons] at distinct
  rw [forest.preorder_eq_cons, List.pairwise_cons] at ordered
  refine ⟨distinct.2, fun b => ?_, ordered.2⟩
  rw [contains_iff_mem_path, path, List.mem_cons, forest.mem_descendants_iff]
  constructor
  · intro above
    refine ⟨?_, .inr above⟩
    rintro rfl
    exact forest.not_mem_ancestors_self above
  · rintro ⟨different, same | above⟩
    · exact absurd same.symm different
    · exact above

theorem ListsBelow.unique (forest : doc.IsForest) {nodes others : List NodeId}
    (lists : doc.ListsBelow a nodes) (lists' : doc.ListsBelow a others) : nodes = others := by
  apply forest.eq_of_pairwise_precedes lists.nodup lists'.nodup _ lists.ordered lists'.ordered
  intro b
  rw [lists.mem_iff, lists'.mem_iff]

end Document

namespace Selector

theorem parse_any : parse "*" = .ok (.single { tag := some .any }) := by
  decide +kernel

theorem selects_any (n : NodeId) : (single { tag := some .any }).selects doc n = true := by
  simp [selects, Compound.holds, TagTest.holds]

end Selector

theorem Document.selectAll_eq_filter {source : String} {selector : Selector}
    (parsed : Selector.parse source = .ok selector) (a : NodeId) :
    doc.selectAll a source = .ok ((doc.descendants a).filter (selector.selects doc)) := by
  rw [selectAll, parsed]
  rfl

theorem Document.IsForest.filter_selects_of_above (forest : doc.IsForest) {outer : Selector}
    {test : Compound} {m : NodeId} (above : m ∈ doc.path a) (selected : outer.selects doc m = true) :
    (doc.descendants a).filter ((Selector.under outer .descendant test).selects doc) =
      (doc.descendants a).filter (test.holds doc) := by
  apply List.filter_congr
  intro b below
  rw [forest.mem_descendants_iff] at below
  have reached : m ∈ doc.ancestors b := by
    rcases List.mem_cons.1 above with rfl | above
    · exact below
    · exact forest.mem_ancestors_trans below above
  have led : (doc.ancestors b).any (outer.selects doc) = true := List.any_eq_true.2 ⟨m, reached, selected⟩
  simp [Selector.selects, led]

/-- What is below a node is the same whether one looks up or down, and queries list it in document
order. -/
theorem queries_list_below (reachable : doc.Reachable) (a : NodeId) :
    (∀ b, doc.contains a b = true ↔ ReflTransGen doc.HasChild a b) ∧
      ∃ nodes, doc.selectAll a "*" = .ok nodes ∧ doc.ListsBelow a nodes ∧
        (∀ others, doc.ListsBelow a others → others = nodes) ∧
        (∀ source selector, Selector.parse source = .ok selector →
          doc.selectAll a source = .ok (nodes.filter (selector.selects doc)) ∧
          a ∉ nodes.filter (selector.selects doc)) ∧
        ∀ source outer test, Selector.parse source = .ok (.under outer .descendant test) →
          ∀ m ∈ doc.path a, outer.selects doc m = true →
            doc.selectAll a source = .ok (nodes.filter (test.holds doc)) := by
  have forest := reachable.isForest
  have lists := forest.listsBelow a
  refine ⟨forest.contains_iff a, doc.descendants a, ?_, lists, ?_, ?_, ?_⟩
  · rw [selectAll_eq_filter Selector.parse_any, List.filter_eq_self.2]
    intro b _
    exact Selector.selects_any b
  · intro others lists'
    exact lists'.unique forest lists
  · intro source selector parsed
    refine ⟨selectAll_eq_filter parsed a, fun selected => ?_⟩
    have below := (lists.mem_iff a).1 (List.mem_filter.1 selected).1
    exact below.1 rfl
  · intro source outer test parsed m above selected
    rw [selectAll_eq_filter parsed, forest.filter_selects_of_above above selected]

def nestedBoxes : Edit Unit Unit := do
  let outside ← Edit.create "section"
  let outer ← Edit.create "div"
  let inner ← Edit.create "div"
  let paragraph ← Edit.create "p"
  Edit.append outside outer
  Edit.append outer inner
  Edit.append inner paragraph

theorem reachable_nestedBoxes : (nestedBoxes.after {}).Reachable := by
  have stepwise : nestedBoxes.Stepwise := by
    unfold nestedBoxes
    infer_instance
  exact stepwise.changes {}

theorem queries_list_below_nested :
    let doc := nestedBoxes.after {}
    doc.Reachable ∧ doc.selectAll 1 "div" = .ok [2] ∧ doc.selectAll 1 "section p" = .ok [3] ∧
      (∀ b, doc.contains 1 b = true ↔ ReflTransGen doc.HasChild 1 b) ∧ doc.ListsBelow 1 [2, 3] := by
  intro doc
  have box : Selector.parse "div" = .ok (.single { tag := some (.named "div") }) := by decide +kernel
  have paragraph : Selector.parse "section p" = .ok (.under (.single { tag := some (.named "section") })
      .descendant { tag := some (.named "p") }) := by decide +kernel
  have everything : doc.selectAll 1 "*" = .ok [2, 3] := by decide +kernel
  obtain ⟨contains, nodes, listed, lists, -, selected, led⟩ := queries_list_below reachable_nestedBoxes 1
  cases everything.symm.trans listed
  refine ⟨reachable_nestedBoxes, ?_, ?_, contains, lists⟩
  · rw [(selected "div" _ box).1]
    rfl
  · rw [led "section p" _ _ paragraph 0 (by decide) (by decide)]
    rfl

end ReportCards
