import Mathlib.Algebra.BigOperators.Group.List.Basic
import Mathlib.Algebra.GroupWithZero.Nat
import ReportCards.Proofs.Document.Stepwise
import ReportCards.Proofs.Document.Subtree
import ReportCards.Proofs.Markup.Reader

namespace ReportCards
open Document

variable {κ : Type} {doc : Document κ} {mark : Char}

/-! ## One element -/

namespace Element

open Markup

theorem count_attributeMarkup (reserved : mark = '<' ∨ mark = '>') (name value : List Char) :
    (attributeMarkup name value).count mark = name.count mark := by
  have inValue : (escapeAttribute value).count mark = 0 :=
    List.count_eq_zero.2 (not_mem_escapeAttribute (by rcases reserved with rfl | rfl <;> decide) value)
  rcases reserved with rfl | rfl <;> simp [attributeMarkup, inValue]

theorem count_attributesMarkup (reserved : mark = '<' ∨ mark = '>') (id : Option String)
    (classes : List String) (attributes : List (String × String)) :
    (attributesMarkup id classes attributes).count mark =
      (attributes.map (·.1.toList.count mark)).sum := by
  have inId : ['i', 'd'].count mark = 0 := by
    rcases reserved with rfl | rfl <;> rfl
  have inClass : ['c', 'l', 'a', 's', 's'].count mark = 0 := by
    rcases reserved with rfl | rfl <;> rfl
  by_cases plain : classes = []
  · cases id <;> simp [attributesMarkup, plain, List.count_flatMap, Function.comp_def,
      count_attributeMarkup reserved, inId]
  · cases id <;> simp [attributesMarkup, plain, List.count_flatMap, Function.comp_def,
      count_attributeMarkup reserved, inId, inClass]

theorem count_markupAll (mark : Char) (elements : List Element) :
    (markupAll elements).count mark = (elements.map (·.markup.count mark)).sum := by
  induction elements with
  | nil => simp [markupAll]
  | cons first rest ih => simp [markupAll, ih]

theorem count_markup (reserved : mark = '<' ∨ mark = '>') {element : Element}
    (plainTag : mark ∉ element.tag.toList) :
    element.markup.count mark = 2 + (element.attributes.map (·.1.toList.count mark)).sum +
      (element.children.map (·.markup.count mark)).sum := by
  obtain ⟨tag, id, classes, attributes, text, children⟩ := element
  have inTag : tag.toList.count mark = 0 := List.count_eq_zero.2 plainTag
  have inText : (escapeText text.toList).count mark = 0 :=
    List.count_eq_zero.2 (not_mem_escapeText (by rcases reserved with rfl | rfl <;> decide) _)
  have inAttributes := count_attributesMarkup reserved id classes attributes
  have inChildren := count_markupAll mark children
  rcases reserved with rfl | rfl
  · simp [markup, inTag, inText, inAttributes, inChildren]
    omega
  · simp [markup, inTag, inText, inAttributes, inChildren]
    omega

end Element

/-! ## Subtrees -/

namespace Document

def countInNames (doc : Document κ) (mark : Char) (n : NodeId) : Nat :=
  ((doc.attributes n).map (·.1.toList.count mark)).sum

theorem IsTidy.not_mem_tag (tidy : doc.IsTidy) (reserved : mark = '<' ∨ mark = '>') (n : NodeId) :
    mark ∉ (doc.tag n).toList := by
  intro member
  have tagChar := (tidy n).tag mark member
  rcases reserved with rfl | rfl <;> revert tagChar <;> decide

theorem sum_count_filter_id (reserved : mark = '<' ∨ mark = '>') (attributes : List (String × String)) :
    ((attributes.filter (·.1 ≠ "id")).map (·.1.toList.count mark)).sum =
      (attributes.map (·.1.toList.count mark)).sum := by
  have inId : "id".toList.count mark = 0 := by
    rcases reserved with rfl | rfl <;> rfl
  induction attributes with
  | nil => rfl
  | cons first rest ih =>
      by_cases id : first.1 = "id"
      · -- The identifier is left out, but its name has no delimiters.
        rw [List.filter_cons_of_neg (by simpa using id), ih, List.map_cons, List.sum_cons, id, inId,
          Nat.zero_add]
      · rw [List.filter_cons_of_pos (by simpa using id), List.map_cons, List.map_cons, List.sum_cons,
          List.sum_cons, ih]

theorem sum_map_flatMap {α β : Type} (items : List α) (expand : α → List β) (weight : β → Nat) :
    ((items.flatMap expand).map weight).sum =
      (items.map fun item => ((expand item).map weight).sum).sum := by
  induction items with
  | nil => rfl
  | cons first rest ih => simp [ih]

theorem count_outerHtml (tidy : doc.IsTidy) (forest : doc.IsForest) (reserved : mark = '<' ∨ mark = '>')
    (n : NodeId) :
    (doc.outerHtml n).toList.count mark =
      ((doc.preorder n).map fun m => 2 + doc.countInNames mark m).sum := by
  rw [outerHtml, String.toList_ofList]
  induction n using forest.downward_induction with
  | step n ih =>
      have tag : mark ∉ (doc.element n).tag.toList := by
        rw [forest.element_eq]
        exact tidy.not_mem_tag reserved n
      have children : ((doc.children n).map fun c => (doc.element c).markup.count mark) =
          (doc.children n).map fun c => ((doc.preorder c).map fun m => 2 + doc.countInNames mark m).sum :=
        List.map_congr_left ih
      rw [Element.count_markup reserved tag, forest.element_eq, forest.preorder_eq, List.map_cons,
        List.sum_cons, sum_map_flatMap, ← children, List.map_map, sum_count_filter_id reserved]
      rfl

end Document

/-- Every node brings two of each delimiter, and beyond those there are the ones in attribute names. -/
theorem delimiters_of_outerHtml (reachable : doc.Reachable) (reserved : mark = '<' ∨ mark = '>')
    (n : NodeId) :
    (doc.outerHtml n).toList.count mark =
        2 * (doc.preorder n).length + ((doc.preorder n).map (doc.countInNames mark)).sum ∧
      ((doc.outerHtml n).toList.count mark = 2 * (doc.preorder n).length ↔
        ∀ m ∈ doc.preorder n, ∀ pair ∈ doc.attributes m, mark ∉ pair.1.toList) := by
  have total : (doc.outerHtml n).toList.count mark =
      2 * (doc.preorder n).length + ((doc.preorder n).map (doc.countInNames mark)).sum := by
    rw [count_outerHtml reachable.isTidy reachable.isForest reserved, List.sum_map_add]
    simp [Nat.mul_comm]
  refine ⟨total, ?_⟩
  rw [total, Nat.add_eq_left, List.sum_eq_zero_iff_forall_eq_nat, List.forall_mem_map]
  apply forall₂_congr
  intro m _
  rw [countInNames, List.sum_eq_zero_iff_forall_eq_nat, List.forall_mem_map]
  simp only [List.count_eq_zero]

def labelled (text name value : String) : Edit Unit Unit := do
  let paragraph ← Edit.create "p"
  Edit.setText paragraph text
  Edit.setAttribute paragraph name value

theorem reachable_labelled (text name value : String) :
    ((labelled text name value).after {}).Reachable := by
  have stepwise : (labelled text name value).Stepwise := by
    unfold labelled
    infer_instance
  exact stepwise.changes {}

theorem delimiters_of_outerHtml_labelled :
    let doc := (labelled "<1 < 2>" "title" "2 > 1").after {}
    doc.Reachable ∧ (doc.outerHtml 0).toList.count '<' = 2 ∧ (doc.outerHtml 0).toList.count '>' = 2 := by
  intro doc
  have reachable : doc.Reachable := reachable_labelled "<1 < 2>" "title" "2 > 1"
  have whole : doc.preorder 0 = [0] := by decide +kernel
  have attributes : doc.attributes 0 = [("title", "2 > 1")] := by decide +kernel
  have opened := (delimiters_of_outerHtml reachable (.inl rfl) 0).2
  have closed := (delimiters_of_outerHtml reachable (.inr rfl) 0).2
  simp only [whole, List.forall_mem_singleton, attributes] at opened closed
  exact ⟨reachable, opened.2 (by decide), closed.2 (by decide)⟩

theorem delimiter_in_attribute_name :
    let doc := (labelled "" "a>b" "1").after {}
    doc.Reachable ∧ doc.preorder 0 = [0] ∧ (doc.outerHtml 0).toList.count '>' = 3 := by
  intro doc
  refine ⟨reachable_labelled "" "a>b" "1", ?_, ?_⟩
  · decide +kernel
  · decide +kernel

end ReportCards
