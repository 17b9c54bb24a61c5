import ReportCards.Proofs.Document.Stepwise
import ReportCards.Selector.Reader

namespace ReportCards
open Relation Document

variable {κ : Type} {doc : Document κ} {n : NodeId}

def Combinator.Joins (doc : Document κ) (outer inner : NodeId) : Combinator → Prop
  | child => doc.parent inner = some outer
  | descendant => TransGen (fun a b => doc.parent a = some b) inner outer

namespace Selector

/-- The compounds in the order in which they are written, each with its link to the one before it. The
link of the first says nothing. -/
def parts : Selector → List (Combinator × Compound)
  | single test => [(.descendant, test)]
  | under outer link test => outer.parts ++ [(link, test)]

theorem parts_ne_nil (selector : Selector) : selector.parts ≠ [] := by
  cases selector <;> simp [parts]

/-- A chain of nodes for the parts of a selector, which ends at the selected node. -/
structure IsChain (doc : Document κ) (parts : List (Combinator × Compound)) (chain : Nat → NodeId) :
    Prop where
  holds : ∀ (i : Nat) (part : Combinator × Compound),
    parts[i]? = some part → part.2.holds doc (chain i) = true
  joins : ∀ (i : Nat) (part : Combinator × Compound),
    parts[i + 1]? = some part → part.1.Joins doc (chain i) (chain (i + 1))

theorem isChain_append_iff {parts : List (Combinator × Compound)} (nonempty : parts ≠ [])
    (link : Combinator) (test : Compound) (chain : Nat → NodeId) :
    IsChain doc (parts ++ [(link, test)]) chain ↔
      IsChain doc parts chain ∧ test.holds doc (chain parts.length) = true ∧
        link.Joins doc (chain (parts.length - 1)) (chain parts.length) := by
  have positive : 0 < parts.length := List.length_pos_iff.2 nonempty
  have last : (parts ++ [(link, test)])[parts.length]? = some (link, test) := by simp
  have front {i : Nat} (inside : i < parts.length) :
      (parts ++ [(link, test)])[i]? = parts[i]? := List.getElem?_append_left inside
  constructor
  · intro whole
    refine ⟨⟨fun i part found => ?_, fun i part found => ?_⟩, whole.holds _ _ last, ?_⟩
    · have inside := (List.getElem?_eq_some_iff.1 found).1
      exact whole.holds i part (by rwa [front inside])
    · have inside := (List.getElem?_eq_some_iff.1 found).1
      exact whole.joins i part (by rwa [front inside])
    · have joined := whole.joins (parts.length - 1) (link, test)
      rw [Nat.sub_add_cancel positive] at joined
      exact joined last
  · rintro ⟨before, holds, joins⟩
    have known {i : Nat} {part : Combinator × Compound}
        (found : (parts ++ [(link, test)])[i]? = some part) :
        parts[i]? = some part ∨ i = parts.length ∧ part = (link, test) := by
      have inside := (List.getElem?_eq_some_iff.1 found).1
      rw [List.length_append, List.length_singleton] at inside
      rcases Nat.lt_succ_iff_lt_or_eq.1 inside with inside | rfl
      · exact .inl (front inside ▸ found)
      · exact .inr ⟨rfl, Option.some.inj (found.symm.trans last)⟩
    refine ⟨fun i part found => ?_, fun i part found => ?_⟩
    · rcases known found with inside | ⟨rfl, rfl⟩
      · exact before.holds i part inside
      · exact holds
    · rcases known found with inside | ⟨same, rfl⟩
      · exact before.joins i part inside
      · rw [← same, Nat.add_sub_cancel] at joins
        exact joins

theorem IsChain.congr {parts : List (Combinator × Compound)} {first second : Nat → NodeId}
    (chain : IsChain doc parts first) (same : ∀ i < parts.length, first i = second i) :
    IsChain doc parts second where
  holds i part found := by
    rw [← same i (List.getElem?_eq_some_iff.1 found).1]
    exact chain.holds i part found
  joins i part found := by
    have inside := (List.getElem?_eq_some_iff.1 found).1
    rw [← same i (Nat.lt_of_succ_lt inside), ← same (i + 1) inside]
    exact chain.joins i part found

theorem selects_single_iff (test : Compound) :
    (single test).selects doc n = true ↔ test.holds doc n = true := by
  rw [selects]

theorem selects_under_iff (forest : doc.IsForest) (outer : Selector) (link : Combinator)
    (test : Compound) :
    (under outer link test).selects doc n = true ↔
      test.holds doc n = true ∧ ∃ m, link.Joins doc m n ∧ outer.selects doc m = true := by
  cases link with
  | child => simp [selects, Combinator.Joins, Option.any_eq_true]
  | descendant => simp [selects, Combinator.Joins, List.any_eq_true, forest.mem_ancestors_iff]

/-- A node is selected exactly when there is a sequence of nodes, one for each compound and the last of
them the node itself, in which every node passes its compound and is the parent or an ancestor of the
next one, as the link between their compounds says. -/
theorem selects_iff_exists_chain (reachable : doc.Reachable) (selector : Selector) (n : NodeId) :
    selector.selects doc n = true ↔
      ∃ chain : Nat → NodeId,
        chain (selector.parts.length - 1) = n ∧ IsChain doc selector.parts chain := by
  induction selector generalizing n with
  | single test =>
      rw [selects_single_iff]
      constructor
      · intro holds
        refine ⟨fun _ => n, rfl, ⟨fun i part found => ?_, fun i part found => ?_⟩⟩
        · cases i with
          | zero => cases found; exact holds
          | succ i => cases found
        · cases found
      · rintro ⟨chain, rfl, isChain⟩
        exact isChain.holds 0 (.descendant, test) rfl
  | under outer link test ih =>
      have last : (under outer link test).parts.length - 1 = outer.parts.length := by simp [parts]
      have positive : 0 < outer.parts.length := List.length_pos_iff.2 outer.parts_ne_nil
      rw [selects_under_iff reachable.isForest, last]
      constructor
      · rintro ⟨holds, m, joins, above⟩
        obtain ⟨chain, rfl, isChain⟩ := (ih m).1 above
        -- The chain for the outer selector goes on to the node itself.
        let longer := Function.update chain outer.parts.length n
        have old (i : Nat) (inside : i < outer.parts.length) : chain i = longer i :=
          (Function.update_of_ne (Nat.ne_of_lt inside) n chain).symm
        have new : longer outer.parts.length = n := Function.update_self outer.parts.length n chain
        refine ⟨longer, new, (isChain_append_iff outer.parts_ne_nil link test longer).2 ?_⟩
        rw [new, ← old _ (Nat.sub_lt positive Nat.one_pos)]
        exact ⟨isChain.congr old, holds, joins⟩
      · rintro ⟨chain, rfl, isChain⟩
        obtain ⟨before, holds, joins⟩ :=
          (isChain_append_iff outer.parts_ne_nil link test chain).1 isChain
        exact ⟨holds, _, joins, (ih _).2 ⟨chain, rfl, before⟩⟩

def boxed : Edit Unit Unit := do
  let outside ← Edit.create "section"
  let outer ← Edit.create "div"
  let inner ← Edit.create "div"
  let link ← Edit.create "a"
  Edit.append outside outer
  Edit.append outer inner
  Edit.append inner link

theorem reachable_boxed : (boxed.after {}).Reachable := by
  have stepwise : boxed.Stepwise := by
    unfold boxed
    infer_instance
  exact stepwise.changes {}

def linkInBoxOfSection : Selector :=
  .under (.under (.single { tag := some (.named "section") }) .child { tag := some (.named "div") })
    .descendant { tag := some (.named "a") }

theorem selects_iff_exists_chain_boxed :
    (boxed.after {}).Reachable ∧ linkInBoxOfSection.selects (boxed.after {}) 3 = true ∧
      ∃ chain : Nat → NodeId, chain (linkInBoxOfSection.parts.length - 1) = 3 ∧
        IsChain (boxed.after {}) linkInBoxOfSection.parts chain := by
  have selected : linkInBoxOfSection.selects (boxed.after {}) 3 = true := by decide
  exact ⟨reachable_boxed, selected,
    (selects_iff_exists_chain reachable_boxed linkInBoxOfSection 3).1 selected⟩

end Selector
end ReportCards
