import ReportCards.Proofs.Document.Frame
import ReportCards.Proofs.Selector.Grammar

namespace ReportCards

namespace Selector
open Text

theorem parse_tag_class (tag name : List Char) (isTag : IsName tag) (isClass : IsName name)
    (trimmed : trim (tag ++ '.' :: name) = tag ++ '.' :: name) :
    parse (String.ofList (tag ++ '.' :: name)) = .ok (.single
      { tag := some (.named (lowerCase (String.ofList tag))), classes := [String.ofList name] }) := by
  have tests : TestsWrittenAs [.className (String.ofList name)] ('.' :: name) := by
    simpa using TestsWrittenAs.cons (.className isClass) .nil
  rw [parse_eq_ok_iff, String.toList_ofList, trimmed]
  exact .single (.intro (.intro (.named isTag) tests (List.append_ne_nil_of_left_ne_nil isTag.1 _)))

end Selector

namespace Document

variable {κ : Type}

def isTagged (doc : Document κ) (tag name : String) (n : NodeId) : Bool :=
  doc.tag n = tag && doc.hasClass n name

theorem isTagged_iff {doc : Document κ} {tag name : String} {n : NodeId} :
    doc.isTagged tag name n = true ↔ doc.tag n = tag ∧ name ∈ doc.classes n := by
  simp [isTagged, hasClass]

theorem isTagged_of_node {before after : Document κ} {n : NodeId} (same : after.node n = before.node n)
    (tag name : String) : after.isTagged tag name n = before.isTagged tag name n := by
  rw [Bool.eq_iff_iff, isTagged_iff, isTagged_iff, Document.tag, Document.classes, same]
  rfl

theorem selectAll_of_parse {source tag name : String} (doc : Document κ) (n : NodeId)
    (parsed : Selector.parse source = .ok (.single { tag := some (.named tag), classes := [name] })) :
    doc.selectAll n source = .ok ((doc.descendants n).filter (doc.isTagged tag name)) := by
  have same : Selector.selects doc (.single { tag := some (.named tag), classes := [name] }) =
      doc.isTagged tag name := by
    funext m
    simp [Selector.selects, Compound.holds, TagTest.holds, isTagged]
  rw [selectAll, parsed, ← same]
  rfl

theorem selectFirst_of_parse {source tag name : String} (doc : Document κ) (n : NodeId)
    (parsed : Selector.parse source = .ok (.single { tag := some (.named tag), classes := [name] })) :
    doc.selectFirst n source = .ok ((doc.descendants n).find? (doc.isTagged tag name)) := by
  rw [selectFirst, doc.selectAll_of_parse n parsed, ← List.head?_filter]
  rfl

theorem IsForest.filter_replaced {before after : Document κ} {tag name : String}
    (forest : before.IsForest) (forest' : after.IsForest) {container found : NodeId}
    (known : container < before.size)
    (first : (before.descendants container).find? (before.isTagged tag name) = some found)
    (changed : ChangedWithin (before.preorder found) before after)
    (still : after.isTagged tag name found = true) :
    ∃ later, (before.descendants container).filter (before.isTagged tag name) =
        found :: (before.descendants found).filter (before.isTagged tag name) ++ later ∧
      (after.descendants container).filter (after.isTagged tag name) =
        found :: (after.descendants found).filter (after.isTagged tag name) ++ later := by
  have tagged := List.find?_some first
  obtain ⟨front, back, old, new, outside⟩ := forest.descendants_replaced forest'
    (List.mem_of_find?_eq_some first)
    fun m below apart => changed.kept m (forest.known_of_mem_preorder known below) apart
  have same (part : List NodeId) (away : ∀ m ∈ part, m ∈ front ∨ m ∈ back) :
      part.filter (after.isTagged tag name) = part.filter (before.isTagged tag name) :=
    List.filter_congr fun m member => isTagged_of_node (outside m (away m member)).2 tag name
  have nothing : front.filter (before.isTagged tag name) = [] := by
    rw [← List.head?_eq_none_iff, List.head?_filter]
    cases early : front.find? (before.isTagged tag name) with
    | none => rfl
    | some other =>
        rw [old, List.append_assoc, List.find?_append, early] at first
        cases first
        exact absurd forest.mem_preorder_self (outside _ (.inl (List.mem_of_find?_eq_some early))).1
  refine ⟨back.filter (before.isTagged tag name), ?_, ?_⟩
  · rw [old, List.filter_append, List.filter_append, nothing, forest.preorder_eq_cons,
      List.filter_cons_of_pos tagged, List.nil_append]
  · rw [new, List.filter_append, List.filter_append, same front fun m => .inl, nothing,
      same back fun m => .inr, forest'.preorder_eq_cons, List.filter_cons_of_pos still, List.nil_append]

theorem IsForest.find?_replaced {before after : Document κ} {tag name : String}
    (forest : before.IsForest) (forest' : after.IsForest) {container found : NodeId}
    (known : container < before.size)
    (first : (before.descendants container).find? (before.isTagged tag name) = some found)
    (changed : ChangedWithin (before.preorder found) before after)
    (still : after.isTagged tag name found = true) :
    (after.descendants container).find? (after.isTagged tag name) = some found := by
  obtain ⟨later, -, selected⟩ := forest.filter_replaced forest' known first changed still
  rw [← List.head?_filter, selected]
  rfl

end Document
end ReportCards
