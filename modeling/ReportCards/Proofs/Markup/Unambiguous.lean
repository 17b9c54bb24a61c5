import ReportCards.Proofs.Document.Stepwise
import ReportCards.Proofs.Document.Subtree
import ReportCards.Proofs.Markup.Reader

namespace ReportCards
open Document

variable {κ κ' : Type} {first : Document κ} {second : Document κ'} {n m : NodeId}

inductive SameSubtree (first : Document κ) (second : Document κ') : NodeId → NodeId → Prop
  | intro {n m : NodeId} (tag : first.tag n = second.tag m)
      (id : first.getAttribute n "id" = second.getAttribute m "id")
      (classes : first.classes n = second.classes m)
      (attributes : (first.attributes n).filter (·.1 ≠ "id") =
        (second.attributes m).filter (·.1 ≠ "id"))
      (text : first.ownText n = second.ownText m)
      (children : List.Forall₂ (SameSubtree first second) (first.children n) (second.children m)) :
      SameSubtree first second n m

theorem forall₂_iff_of_left {α β : Type} {holds holds' : α → β → Prop} {left : List α}
    {right : List β} (same : ∀ a ∈ left, ∀ b, holds a b ↔ holds' a b) :
    List.Forall₂ holds left right ↔ List.Forall₂ holds' left right := by
  have strengthen {holds holds' : α → β → Prop} (implies : ∀ a ∈ left, ∀ b, holds a b → holds' a b)
      (all : List.Forall₂ holds left right) : List.Forall₂ holds' left right := by
    have both := (List.forall₂_and_left left right).2 ⟨implies, all⟩
    exact both.imp fun a b found => found.1 b found.2
  exact ⟨strengthen fun a member b => (same a member b).1,
    strengthen fun a member b => (same a member b).2⟩

theorem element_eq_iff (forest : first.IsForest) (forest' : second.IsForest) (n m : NodeId) :
    first.element n = second.element m ↔ SameSubtree first second n m := by
  induction n using forest.downward_induction generalizing m with
  | step n ih =>
      have children : (first.children n).map first.element = (second.children m).map second.element ↔
          List.Forall₂ (SameSubtree first second) (first.children n) (second.children m) := by
        rw [← List.forall₂_eq_eq_eq, List.forall₂_map_left_iff, List.forall₂_map_right_iff]
        exact forall₂_iff_of_left ih
      rw [forest.element_eq, forest'.element_eq, Element.mk.injEq, children]
      constructor
      · rintro ⟨tag, id, classes, attributes, text, children⟩
        exact ⟨tag, id, classes, attributes, text, children⟩
      · rintro ⟨tag, id, classes, attributes, text, children⟩
        exact ⟨tag, id, classes, attributes, text, children⟩

/-- The reader recovers the content of every node of every document that can be built, so the markup
determines the subtree. -/
theorem outerHtml_unambiguous (reachable : first.Reachable) (reachable' : second.Reachable)
    (n m : NodeId) :
    Markup.read (first.outerHtml n) = some (first.element n) ∧
      (first.outerHtml n = second.outerHtml m ↔ SameSubtree first second n m) := by
  have recovered := Markup.read_outerHtml reachable.isTidy n
  have recovered' := Markup.read_outerHtml reachable'.isTidy m
  refine ⟨recovered, ?_⟩
  rw [← element_eq_iff reachable.isForest reachable'.isForest]
  constructor
  · intro same
    rw [same, recovered'] at recovered
    exact (Option.some.inj recovered).symm
  · intro same
    rw [outerHtml, outerHtml, same]

def quotation (text : String) : Edit Unit Unit := do
  let paragraph ← Edit.create "p"
  Edit.setText paragraph text
  Edit.setAttribute paragraph "a<b" text

theorem reachable_quotation (text : String) : ((quotation text).after {}).Reachable := by
  have stepwise : (quotation text).Stepwise := by
    unfold quotation
    infer_instance
  exact stepwise.changes {}

theorem outerHtml_unambiguous_lookalike :
    ((quotation "<").after {}).Reachable ∧ ((quotation "&lt;").after {}).Reachable ∧
      Markup.read (((quotation "<").after {}).outerHtml 0) =
        some (((quotation "<").after {}).element 0) ∧
      (((quotation "<").after {}).outerHtml 0 = ((quotation "&lt;").after {}).outerHtml 0 ↔
        SameSubtree ((quotation "<").after {}) ((quotation "&lt;").after {}) 0 0) :=
  ⟨reachable_quotation "<", reachable_quotation "&lt;",
    outerHtml_unambiguous (reachable_quotation "<") (reachable_quotation "&lt;") 0 0⟩

end ReportCards
