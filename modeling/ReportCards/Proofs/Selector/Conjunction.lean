import ReportCards.Proofs.Document.Stepwise
import ReportCards.Proofs.Selector.Grammar

namespace ReportCards
open Text Selector

variable {κ : Type} {doc : Document κ} {n : NodeId}

namespace SimpleTest

def holds (doc : Document κ) (n : NodeId) : SimpleTest → Bool
  | id name => doc.getAttribute n "id" = some name
  | className name => doc.hasClass n name
  | bracketed test => test.holds doc n

def id? : SimpleTest → Option String
  | id name => some name
  | _ => none

def className? : SimpleTest → Option String
  | className name => some name
  | _ => none

def bracketed? : SimpleTest → Option AttributeTest
  | bracketed test => some test
  | _ => none

end SimpleTest

namespace Compound

theorem foldl_add (tests : List SimpleTest) (compound : Compound) :
    tests.foldl add compound =
      { tag := compound.tag
        id := (tests.filterMap SimpleTest.id?).getLast?.or compound.id
        classes := compound.classes ++ tests.filterMap SimpleTest.className?
        attributes := compound.attributes ++ tests.filterMap SimpleTest.bracketed? } := by
  induction tests generalizing compound with
  | nil => simp
  | cons test tests ih =>
      rw [List.foldl_cons, ih]
      simp only [List.filterMap_cons]
      cases test with
      | id name =>
          cases last : (tests.filterMap SimpleTest.id?).getLast? <;>
            simp [add, SimpleTest.id?, SimpleTest.className?, SimpleTest.bracketed?,
              List.getLast?_cons, last]
      | className name => simp [add, SimpleTest.id?, SimpleTest.className?, SimpleTest.bracketed?]
      | bracketed test => simp [add, SimpleTest.id?, SimpleTest.className?, SimpleTest.bracketed?]

theorem holds_iff (compound : Compound) :
    compound.holds doc n = true ↔
      (∀ tagTest ∈ compound.tag, tagTest.holds doc n = true) ∧
        (∀ name ∈ compound.id, (SimpleTest.id name).holds doc n = true) ∧
        (∀ name ∈ compound.classes, (SimpleTest.className name).holds doc n = true) ∧
        ∀ test ∈ compound.attributes, (SimpleTest.bracketed test).holds doc n = true := by
  simp only [holds, Bool.and_eq_true, Option.all_eq_true, List.all_eq_true, SimpleTest.holds, and_assoc]
  rfl

theorem forall_other_iff (tests : List SimpleTest) (holds : SimpleTest → Prop) :
    (∀ test ∈ tests, test.id? = none → holds test) ↔
      (∀ name ∈ tests.filterMap SimpleTest.className?, holds (.className name)) ∧
        ∀ test ∈ tests.filterMap SimpleTest.bracketed?, holds (.bracketed test) := by
  simp only [List.forall_mem_filterMap]
  constructor
  · intro all
    refine ⟨fun test member name same => ?_, fun test member inner same => ?_⟩
    · cases test <;> cases same
      exact all _ member rfl
    · cases test <;> cases same
      exact all _ member rfl
  · rintro ⟨classes, attributes⟩ test member notId
    cases test with
    | id name => cases notId
    | className name => exact classes _ member name rfl
    | bracketed inner => exact attributes _ member inner rfl

theorem holds_ofTests_iff (tag : Option TagTest) (tests : List SimpleTest) :
    (ofTests tag tests).holds doc n = true ↔
      (∀ tagTest ∈ tag, tagTest.holds doc n = true) ∧
        (∀ test ∈ tests, test.id? = none → test.holds doc n = true) ∧
        ∀ name ∈ (tests.filterMap SimpleTest.id?).getLast?,
          (SimpleTest.id name).holds doc n = true := by
  rw [forall_other_iff, ofTests, foldl_add, holds_iff]
  simp only [Option.or_none, List.nil_append]
  exact and_congr_right' and_comm

theorem holds_ofTests_iff_forall {tag : Option TagTest} {tests : List SimpleTest}
    (oneId : ∀ first ∈ tests.filterMap SimpleTest.id?, ∀ second ∈ tests.filterMap SimpleTest.id?,
      first = second) :
    (ofTests tag tests).holds doc n = true ↔
      (∀ tagTest ∈ tag, tagTest.holds doc n = true) ∧ ∀ test ∈ tests, test.holds doc n = true := by
  rw [holds_ofTests_iff]
  refine and_congr_right' ⟨?_, fun all => ⟨fun test member _ => all test member, ?_⟩⟩
  · rintro ⟨others, last⟩ test member
    cases test with
    | id name =>
        have written : name ∈ tests.filterMap SimpleTest.id? :=
          List.mem_filterMap.2 ⟨.id name, member, rfl⟩
        have final := List.getLast?_eq_some_getLast (List.ne_nil_of_mem written)
        rw [oneId name written _ (List.getLast_mem (List.ne_nil_of_mem written))]
        exact last _ final
    | className | bracketed => exact others _ member rfl
  · intro name final
    obtain ⟨test, member, isId⟩ := List.mem_filterMap.1 (List.mem_of_mem_getLast? final)
    cases test <;> cases isId
    exact all _ member

end Compound

namespace Selector

theorem parse_of_isCompoundOf {source : String} {tag : Option TagTest} {tests : List SimpleTest}
    (isCompound : IsCompoundOf tag tests (trim source.toList)) :
    parse source = .ok (.single (.ofTests tag tests)) :=
  parse_eq_ok_iff.2 (.single (.intro isCompound))

/-- What is written in an accepted compound and what it asks of a node: its tag, all its classes and
attribute tests and its last identifier. If no two different identifiers are written, these are all the
tests that are written. -/
theorem selects_compound_iff {source : String} {compound : Compound}
    (accepted : parse source = .ok (.single compound)) :
    (∃ tag tests, IsCompoundOf tag tests (trim source.toList)) ∧
      ∀ (tag : Option TagTest) (tests : List SimpleTest),
        IsCompoundOf tag tests (trim source.toList) →
          ∀ (κ : Type) (doc : Document κ) (n : NodeId),
            ((single compound).selects doc n = true ↔
              (∀ tagTest ∈ tag, tagTest.holds doc n = true) ∧
                (∀ test ∈ tests, test.id? = none → test.holds doc n = true) ∧
                ∀ name ∈ (tests.filterMap SimpleTest.id?).getLast?,
                  (SimpleTest.id name).holds doc n = true) ∧
            ((∀ first ∈ tests.filterMap SimpleTest.id?,
                ∀ second ∈ tests.filterMap SimpleTest.id?, first = second) →
              ((single compound).selects doc n = true ↔
                (∀ tagTest ∈ tag, tagTest.holds doc n = true) ∧
                  ∀ test ∈ tests, test.holds doc n = true)) := by
  constructor
  · cases parse_eq_ok_iff.1 accepted with
    | single written =>
        obtain ⟨isCompound⟩ := written
        exact ⟨_, _, isCompound⟩
  · intro tag tests isCompound κ doc n
    rw [parse_of_isCompoundOf isCompound] at accepted
    cases accepted
    exact ⟨Compound.holds_ofTests_iff tag tests, Compound.holds_ofTests_iff_forall⟩

theorem isCompoundOf_repeated :
    IsCompoundOf none [.id "x", .className "y", .id "x"] (trim "#x.y#x".toList) := by
  have x : IsName ['x'] := isName_of_all (by decide) (by decide)
  have y : IsName ['y'] := isName_of_all (by decide) (by decide)
  exact .intro .absent (.cons (.id x) (.cons (.className y) (.cons (.id x) .nil))) (by decide)

theorem selects_compound_iff_repeated :
    ∃ compound, parse "#x.y#x" = .ok (.single compound) ∧
      ∀ (doc : Document Unit) (n : NodeId), (single compound).selects doc n = true ↔
        doc.getAttribute n "id" = some "x" ∧ doc.hasClass n "y" = true := by
  refine ⟨_, parse_of_isCompoundOf isCompoundOf_repeated, fun doc n => ?_⟩
  have meaning := (selects_compound_iff (parse_of_isCompoundOf isCompoundOf_repeated)).2 none _
    isCompoundOf_repeated Unit doc n
  rw [meaning.2 (by decide)]
  simp [SimpleTest.holds, and_comm]

def labelled : Edit Unit Unit := do
  let paragraph ← Edit.create "p"
  Edit.setId paragraph "b"

theorem selects_despite_identifier :
    IsCompoundOf none [.id "a", .id "b"] (trim "#a#b".toList) ∧
      parse "#a#b" = .ok (.single { id := some "b" }) ∧
      (single { id := some "b" }).selects (labelled.after {}) 0 = true ∧
      (SimpleTest.id "a").holds (labelled.after {}) 0 = false := by
  have a : IsName ['a'] := isName_of_all (by decide) (by decide)
  have b : IsName ['b'] := isName_of_all (by decide) (by decide)
  have isCompound : IsCompoundOf none [.id "a", .id "b"] (trim "#a#b".toList) :=
    .intro .absent (.cons (.id a) (.cons (.id b) .nil)) (by decide)
  exact ⟨isCompound, parse_of_isCompoundOf isCompound, by decide, by decide⟩

end Selector
end ReportCards
