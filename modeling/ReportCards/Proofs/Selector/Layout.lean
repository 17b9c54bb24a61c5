import Mathlib.Data.List.Forall2
import Mathlib.Data.List.Infix
import ReportCards.Proofs.Selector.Conjunction

/-!
# Layouts of selectors

The same selector can be laid out in many ways: its tags in capitals or small letters, identifier, classes
and attribute tests in several orders, blanks wherever they separate nothing. `Selector.LaidOut` says
from the selector which texts these are; attribute values always stand between double quotes. Every layout
is read back as the selector itself, and reading gives no selectors but those that have layouts.
-/
namespace ReportCards
open Text Selector

/-! ## Well-formed selectors -/

def TagTest.IsWellFormed : TagTest → Prop
  | any => True
  | named tag => IsName tag.toList ∧ ∀ c ∈ tag.toList, c.isUpper = false

structure AttributeTest.IsWellFormed (test : AttributeTest) : Prop where
  name : IsName test.name.toList
  value : ∀ value ∈ test.value, ']' ∉ value.toList

def SimpleTest.IsWellFormed : SimpleTest → Prop
  | id name => IsName name.toList
  | className name => IsName name.toList
  | bracketed test => test.IsWellFormed

structure Compound.IsWellFormed (compound : Compound) : Prop where
  nonempty : compound.isEmpty = false
  tag : ∀ tag ∈ compound.tag, tag.IsWellFormed
  id : ∀ id ∈ compound.id, IsName id.toList
  classes : ∀ name ∈ compound.classes, IsName name.toList
  attributes : ∀ test ∈ compound.attributes, test.IsWellFormed

def Selector.IsWellFormed : Selector → Prop
  | single test => test.IsWellFormed
  | under outer _ test => outer.IsWellFormed ∧ test.IsWellFormed

/-! ## Layouts -/

def IsBlankText (text : List Char) : Prop :=
  ∀ c ∈ text, isBlank c = true

inductive TagLaidOut : Option TagTest → List Char → Prop
  | absent : TagLaidOut none []
  | any : TagLaidOut (some .any) ['*']
  | named {tag : String} {text : List Char}
      (cased : List.Forall₂ (fun c written => written = c ∨ written = c.toUpper) tag.toList text) :
      TagLaidOut (some (.named tag)) text

inductive AttributeTest.LaidOut : AttributeTest → List Char → Prop
  | present (name : String) {before after : List Char} (blankBefore : IsBlankText before)
      (blankAfter : IsBlankText after) : LaidOut { name } (before ++ name.toList ++ after)
  | valued (name value : String) {before after before' after' : List Char}
      (blankBefore : IsBlankText before) (blankAfter : IsBlankText after)
      (blankBefore' : IsBlankText before') (blankAfter' : IsBlankText after') :
      LaidOut { name, value := some value }
        ((before ++ name.toList ++ after) ++ '=' :: (before' ++ ('"' :: value.toList ++ ['"']) ++ after'))

inductive SimpleTest.LaidOut : SimpleTest → List Char → Prop
  | id (name : String) : LaidOut (.id name) ('#' :: name.toList)
  | className (name : String) : LaidOut (.className name) ('.' :: name.toList)
  | bracketed {test : AttributeTest} {body : List Char} (laidOut : test.LaidOut body) :
      LaidOut (.bracketed test) ('[' :: (body ++ [']']))

/-- The tests of a compound in an order that keeps the classes in order, and the attributes. -/
structure Compound.Orders (compound : Compound) (tests : List SimpleTest) : Prop where
  id : tests.filterMap SimpleTest.id? = compound.id.toList
  classes : tests.filterMap SimpleTest.className? = compound.classes
  attributes : tests.filterMap SimpleTest.bracketed? = compound.attributes

inductive Compound.LaidOut (compound : Compound) : List Char → Prop
  | intro {tests : List SimpleTest} {front : List Char} {pieces : List (List Char)}
      (tag : TagLaidOut compound.tag front) (orders : compound.Orders tests)
      (laidOut : List.Forall₂ SimpleTest.LaidOut tests pieces) : LaidOut compound (front ++ pieces.flatten)

inductive Selector.LaidOut : Selector → List Char → Prop
  | single {test : Compound} {text : List Char} (laidOut : test.LaidOut text) : LaidOut (.single test) text
  | under {outer : Selector} {link : Combinator} {test : Compound} {front between back : List Char}
      (outerLaidOut : LaidOut outer front) (linkWritten : link.WrittenAs between)
      (testLaidOut : test.LaidOut back) : LaidOut (.under outer link test) (front ++ between ++ back)

/-! ## Characters -/

theorem isNameChar_eq_of_toLower (c : Char) : isNameChar c.toLower = isNameChar c := by
  unfold isNameChar
  rcases toLower_eq_or c with same | ⟨letter, letter'⟩
  · rw [same]
  · rw [letter, letter']
    rfl

/-! ## Blanks -/

namespace Text

theorem trim_of_blank_ends {before text after : List Char} (blankBefore : IsBlankText before)
    (blankAfter : IsBlankText after) (start : ∀ c ∈ text.head?, isBlank c = false)
    (stop : ∀ c ∈ text.getLast?, isBlank c = false) (nonempty : text ≠ []) :
    trim (before ++ text ++ after) = text := by
  have keep {text rest : List Char} (start : ∀ c ∈ text.head?, isBlank c = false)
      (nonempty : text ≠ []) : (text ++ rest).dropWhile isBlank = text ++ rest := by
    obtain ⟨c, text, rfl⟩ := List.exists_cons_of_ne_nil nonempty
    rw [List.cons_append, List.dropWhile_cons_of_neg (by simp [start c rfl])]
  have fromStart : trimStart (before ++ text ++ after) = text ++ after := by
    rw [trimStart, List.append_assoc, List.dropWhile_append_of_pos blankBefore, keep start nonempty]
  have blankAfter' : ∀ c ∈ after.reverse, isBlank c = true := fun c member =>
    blankAfter c (List.mem_reverse.1 member)
  have fromEnd : (text.reverse ++ []).dropWhile isBlank = text.reverse ++ [] :=
    keep (by rwa [List.head?_reverse]) (List.reverse_ne_nil_iff.2 nonempty)
  rw [List.append_nil] at fromEnd
  rw [trim, fromStart, trimEnd, List.reverse_append, List.dropWhile_append_of_pos blankAfter', fromEnd,
    List.reverse_reverse]

end Text

theorem IsName.not_blank {name : List Char} (isName : IsName name) : ∀ c ∈ name, isBlank c = false := by
  intro c member
  rw [Bool.eq_false_iff]
  intro blank
  have plain := isName.2 c member
  rw [isNameChar_of_isBlank blank] at plain
  cases plain

theorem IsName.trim_eq {name before after : List Char} (isName : IsName name)
    (blankBefore : IsBlankText before) (blankAfter : IsBlankText after) :
    trim (before ++ name ++ after) = name :=
  trim_of_blank_ends blankBefore blankAfter (fun c first => isName.not_blank c (List.mem_of_mem_head? first))
    (fun c last => isName.not_blank c (List.mem_of_getLast? last)) isName.1

/-! ## Ends of what is written -/

theorem SimpleTest.WrittenAs.getLast_not_blank {test : SimpleTest} {text : List Char}
    (written : test.WrittenAs text) : text ≠ [] ∧ ∀ c ∈ text.getLast?, isBlank c = false := by
  have afterMark {mark : Char} {name : List Char} (isName : IsName name) :
      ∀ c ∈ (mark :: name).getLast?, isBlank c = false := by
    intro c last
    rw [List.getLast?_cons, Option.mem_some_iff] at last
    refine isName.not_blank c (List.mem_of_getLast? ?_)
    cases found : name.getLast? with
    | none => exact absurd (List.getLast?_eq_none_iff.1 found) isName.1
    | some d => rw [found] at last; exact congrArg some last
  cases written with
  | id isName => exact ⟨List.cons_ne_nil _ _, afterMark isName⟩
  | className isName => exact ⟨List.cons_ne_nil _ _, afterMark isName⟩
  | @bracketed test body closed written =>
      refine ⟨List.cons_ne_nil _ _, fun c last => ?_⟩
      rw [← List.cons_append, List.getLast?_concat] at last
      cases last
      decide

theorem TestsWrittenAs.getLast_not_blank {tests : List SimpleTest} {text : List Char}
    (written : TestsWrittenAs tests text) : ∀ c ∈ text.getLast?, isBlank c = false := by
  induction written with
  | nil => simp
  | @cons test tests front back first others ih =>
      intro c last
      rw [List.getLast?_append] at last
      cases found : back.getLast? with
      | some d =>
          rw [found, Option.some_or] at last
          exact ih c (found.trans last)
      | none =>
          rw [found, Option.none_or] at last
          exact first.getLast_not_blank.2 c last

theorem Compound.WrittenAs.getLast_not_blank {compound : Compound} {text : List Char}
    (written : compound.WrittenAs text) : ∀ c ∈ text.getLast?, isBlank c = false := by
  obtain ⟨isCompound⟩ := written
  obtain ⟨tagWritten, testsWritten, -⟩ := isCompound
  rename_i front back
  intro c last
  rw [List.getLast?_append] at last
  cases found : back.getLast? with
  | some d =>
      rw [found, Option.some_or] at last
      exact testsWritten.getLast_not_blank c (found.trans last)
  | none =>
      rw [found, Option.none_or] at last
      cases tagWritten with
      | absent => cases last
      | any => cases last; decide
      | named isName => exact isName.not_blank c (List.mem_of_getLast? last)

theorem Selector.WrittenAs.ends_not_blank {selector : Selector} {text : List Char}
    (written : selector.WrittenAs text) : text ≠ [] ∧ (∀ c ∈ text.head?, isBlank c = false) ∧
      ∀ c ∈ text.getLast?, isBlank c = false := by
  induction written with
  | single written =>
      obtain ⟨c, rest, rfl, noBlank, -⟩ := written.exists_cons
      refine ⟨List.cons_ne_nil c rest, fun d first => ?_, written.getLast_not_blank⟩
      cases first
      exact noBlank
  | @under outer link test front between back outerWritten linkWritten testWritten ih =>
      obtain ⟨nonempty, start, -⟩ := ih
      obtain ⟨c, front, rfl⟩ := List.exists_cons_of_ne_nil nonempty
      obtain ⟨d, rest, rfl, -⟩ := testWritten.exists_cons
      refine ⟨by simp, fun e first => start e first, fun e last => ?_⟩
      refine testWritten.getLast_not_blank e ?_
      rwa [List.getLast?_append_of_ne_nil _ (List.cons_ne_nil d rest)] at last

/-! ## Layouts are read back -/

theorem unquote_quoted (value : List Char) : unquote ('"' :: value ++ ['"']) = value := by
  have inner : between? '"' ('"' :: value ++ ['"']) = some value := by
    simp [between?]
  rw [unquote, inner]

theorem TagLaidOut.writtenAs {tag : Option TagTest} {text : List Char} (laidOut : TagLaidOut tag text)
    (wellFormed : ∀ test ∈ tag, test.IsWellFormed) : TagWrittenAs tag text := by
  cases laidOut with
  | absent => exact .absent
  | any => exact .any
  | @named tag text cased =>
      obtain ⟨isName, small⟩ := wellFormed _ rfl
      have lower : text.map Char.toLower = tag.toList := by
        symm
        rw [← List.forall₂_eq_eq_eq, List.forall₂_map_right_iff]
        have both := (List.forall₂_and_left tag.toList text).2 ⟨small, cased⟩
        exact both.imp fun c written found => (toLower_of_cased found.1 found.2).symm
      have nameText : IsName text := by
        refine ⟨fun empty => isName.1 (by rw [← lower, empty]; rfl), fun c member => ?_⟩
        rw [← isNameChar_eq_of_toLower]
        exact isName.2 _ (lower ▸ List.mem_map_of_mem member)
      have same : lowerCase (String.ofList text) = tag := by
        rw [lowerCase, String.toList_ofList, lower, String.ofList_toList]
      rw [← same]
      exact .named nameText

theorem AttributeTest.LaidOut.writtenAs {test : AttributeTest} {text : List Char}
    (laidOut : test.LaidOut text) (wellFormed : test.IsWellFormed) :
    test.WrittenAs text ∧ ']' ∉ text := by
  have outside {name before after : List Char} {mark : Char} (isName : IsName name)
      (blankBefore : IsBlankText before) (blankAfter : IsBlankText after)
      (plain : isNameChar mark = false ∧ isBlank mark = false) : mark ∉ before ++ name ++ after := by
    intro member
    rcases List.mem_append.1 member with front | back
    · rcases List.mem_append.1 front with blank | inName
      · exact absurd (blankBefore mark blank) (by simp [plain.2])
      · exact absurd (isName.2 mark inName) (by simp [plain.1])
    · exact absurd (blankAfter mark back) (by simp [plain.2])
  cases laidOut with
  | @present name before after blankBefore blankAfter =>
      have isName := wellFormed.name
      have trimmed := isName.trim_eq blankBefore blankAfter
      have isName' : IsName (trim (before ++ name.toList ++ after)) := by rwa [trimmed]
      have written :=
        AttributeTest.WrittenAs.present (outside isName blankBefore blankAfter (by decide)) isName'
      rw [trimmed, String.ofList_toList] at written
      exact ⟨written, outside isName blankBefore blankAfter (by decide)⟩
  | @valued name value before after before' after' blankBefore blankAfter blankBefore' blankAfter' =>
      have isName := wellFormed.name
      have trimmed := isName.trim_eq blankBefore blankAfter
      have quoted : trim (before' ++ ('"' :: value.toList ++ ['"']) ++ after') =
          '"' :: value.toList ++ ['"'] := by
        refine trim_of_blank_ends blankBefore' blankAfter' (fun c first => ?_) (fun c last => ?_) (by simp)
        · cases first
          decide
        · rw [List.getLast?_concat] at last
          cases last
          decide
      have isName' : IsName (trim (before ++ name.toList ++ after)) := by rwa [trimmed]
      have written := AttributeTest.WrittenAs.valued (before' ++ ('"' :: value.toList ++ ['"']) ++ after')
        (outside isName blankBefore blankAfter (by decide)) isName'
      rw [trimmed, quoted, unquote_quoted, String.ofList_toList, String.ofList_toList] at written
      refine ⟨written, fun member => ?_⟩
      have noBracket : ']' ∉ value.toList := wellFormed.value value rfl
      have blank {text : List Char} (blanks : IsBlankText text) : ']' ∉ text := fun inside =>
        absurd (blanks _ inside) (by decide)
      simp only [List.mem_append, List.mem_cons, List.not_mem_nil, or_false] at member
      have inName : ']' ∉ before ++ name.toList ++ after :=
        outside isName blankBefore blankAfter (by decide)
      simp only [List.mem_append] at inName
      rcases member with early | equals | (early | (quote | inside) | quote) | late
      · exact inName early
      · exact absurd equals (by decide)
      · exact blank blankBefore' early
      · exact absurd quote (by decide)
      · exact noBracket inside
      · exact absurd quote (by decide)
      · exact blank blankAfter' late

theorem Compound.Orders.ofTests_eq {compound : Compound} {tests : List SimpleTest}
    (orders : compound.Orders tests) : Compound.ofTests compound.tag tests = compound := by
  have last : compound.id.toList.getLast?.or none = compound.id := by
    cases compound.id <;> rfl
  rw [Compound.ofTests, Compound.foldl_add, orders.id, orders.classes, orders.attributes, last]
  rfl

theorem Compound.Orders.wellFormed_of_mem {compound : Compound} {tests : List SimpleTest}
    (orders : compound.Orders tests) (wellFormed : compound.IsWellFormed) :
    ∀ test ∈ tests, test.IsWellFormed := by
  intro test member
  cases test with
  | id name =>
      refine wellFormed.id name (Option.mem_toList.1 ?_)
      rw [← orders.id]
      exact List.mem_filterMap.2 ⟨_, member, rfl⟩
  | className name =>
      refine wellFormed.classes name ?_
      rw [← orders.classes]
      exact List.mem_filterMap.2 ⟨_, member, rfl⟩
  | bracketed test =>
      refine wellFormed.attributes test ?_
      rw [← orders.attributes]
      exact List.mem_filterMap.2 ⟨_, member, rfl⟩

theorem SimpleTest.LaidOut.writtenAs {test : SimpleTest} {text : List Char}
    (laidOut : test.LaidOut text) (wellFormed : test.IsWellFormed) : test.WrittenAs text := by
  cases laidOut with
  | id name =>
      have written : SimpleTest.WrittenAs _ ('#' :: name.toList) := .id wellFormed
      rwa [String.ofList_toList] at written
  | className name =>
      have written : SimpleTest.WrittenAs _ ('.' :: name.toList) := .className wellFormed
      rwa [String.ofList_toList] at written
  | bracketed laidOut =>
      obtain ⟨written, closed⟩ := laidOut.writtenAs wellFormed
      exact .bracketed closed written

theorem testsWrittenAs_of_laidOut {tests : List SimpleTest} {pieces : List (List Char)}
    (laidOut : List.Forall₂ SimpleTest.LaidOut tests pieces)
    (wellFormed : ∀ test ∈ tests, test.IsWellFormed) : TestsWrittenAs tests pieces.flatten := by
  induction laidOut with
  | nil => exact .nil
  | cons first others ih =>
      obtain ⟨firstWellFormed, othersWellFormed⟩ := List.forall_mem_cons.1 wellFormed
      exact .cons (first.writtenAs firstWellFormed) (ih othersWellFormed)

theorem Compound.LaidOut.writtenAs {compound : Compound} {text : List Char}
    (laidOut : compound.LaidOut text) (wellFormed : compound.IsWellFormed) : compound.WrittenAs text := by
  obtain ⟨tag, orders, laidOut⟩ := laidOut
  rename_i tests front pieces
  have tagWritten := tag.writtenAs wellFormed.tag
  have testsWritten := testsWrittenAs_of_laidOut laidOut (orders.wellFormed_of_mem wellFormed)
  have nonempty : front ++ pieces.flatten ≠ [] := by
    intro empty
    obtain ⟨noFront, noTests⟩ := List.append_eq_nil_iff.1 empty
    have isEmpty := isEmpty_ofTests compound.tag tests
    rw [orders.ofTests_eq, wellFormed.nonempty, tagWritten.eq_nil_iff.1 noFront,
      testsWritten.eq_nil_iff.1 noTests] at isEmpty
    cases isEmpty
  have written := Compound.WrittenAs.intro (.intro tagWritten testsWritten nonempty)
  rwa [orders.ofTests_eq] at written

theorem Selector.LaidOut.writtenAs {selector : Selector} {text : List Char}
    (laidOut : selector.LaidOut text) (wellFormed : selector.IsWellFormed) : selector.WrittenAs text := by
  induction laidOut with
  | single laidOut => exact .single (laidOut.writtenAs wellFormed)
  | under outerLaidOut linkWritten testLaidOut ih =>
      exact .under (ih wellFormed.1) linkWritten (testLaidOut.writtenAs wellFormed.2)

theorem parse_of_laidOut {selector : Selector} {before text after : List Char}
    (wellFormed : selector.IsWellFormed) (laidOut : selector.LaidOut text) (blankBefore : IsBlankText before)
    (blankAfter : IsBlankText after) : parse (String.ofList (before ++ text ++ after)) = .ok selector := by
  have written := laidOut.writtenAs wellFormed
  obtain ⟨nonempty, start, stop⟩ := written.ends_not_blank
  rw [parse_eq_ok_iff, String.toList_ofList, trim_of_blank_ends blankBefore blankAfter start stop nonempty]
  exact written

/-! ## What is read is well-formed -/

theorem Text.mem_of_mem_trim {c : Char} {text : List Char} (member : c ∈ trim text) : c ∈ text := by
  rw [trim, trimEnd, List.mem_reverse] at member
  have inStart := (List.dropWhile_sublist isBlank).subset member
  exact (List.dropWhile_sublist isBlank).subset (List.mem_reverse.1 inStart)

theorem mem_of_between? {c mark : Char} {text inner : List Char} (found : between? mark text = some inner)
    (member : c ∈ inner) : c ∈ text := by
  cases text with
  | nil => cases found
  | cons d rest =>
      rw [between?, Option.ite_none_right_eq_some] at found
      obtain ⟨-, same⟩ := found
      cases same
      exact List.mem_cons_of_mem d (List.mem_of_mem_dropLast member)

theorem mem_of_mem_unquote {c : Char} {text : List Char} (member : c ∈ unquote text) : c ∈ text := by
  unfold unquote at member
  split at member
  case h_1 found => exact mem_of_between? found member
  case h_2 =>
      cases found : between? '\'' text with
      | none => rwa [found] at member
      | some inner =>
          rw [found] at member
          exact mem_of_between? found member

theorem TagWrittenAs.isWellFormed {tag : Option TagTest} {text : List Char}
    (written : TagWrittenAs tag text) : ∀ test ∈ tag, test.IsWellFormed := by
  intro test member
  cases written with
  | absent => cases member
  | any => cases member; trivial
  | @named name isName =>
      cases member
      have lower : (lowerCase (String.ofList text)).toList = text.map Char.toLower := by
        rw [lowerCase, String.toList_ofList, String.toList_ofList]
      refine ⟨⟨?_, fun c inTag => ?_⟩, fun c inTag => ?_⟩
      · rw [lower]
        simpa using isName.1
      · rw [lower] at inTag
        obtain ⟨written, inText, rfl⟩ := List.mem_map.1 inTag
        rw [isNameChar_eq_of_toLower]
        exact isName.2 written inText
      · rw [lower] at inTag
        obtain ⟨written, -, rfl⟩ := List.mem_map.1 inTag
        exact isUpper_toLower written

theorem AttributeTest.WrittenAs.isWellFormed {test : AttributeTest} {body : List Char}
    (written : test.WrittenAs body) (closed : ']' ∉ body) : test.IsWellFormed := by
  cases written with
  | present noValue isName => exact ⟨by rwa [String.toList_ofList], fun value member => by cases member⟩
  | valued value first isName =>
      refine ⟨by rwa [String.toList_ofList], fun inner member bracket => closed ?_⟩
      cases member
      rw [String.toList_ofList] at bracket
      have inValue := mem_of_mem_trim (mem_of_mem_unquote bracket)
      exact List.mem_append_right _ (List.mem_cons_of_mem _ inValue)

theorem TestsWrittenAs.isWellFormed {tests : List SimpleTest} {text : List Char}
    (written : TestsWrittenAs tests text) : ∀ test ∈ tests, test.IsWellFormed := by
  induction written with
  | nil => exact List.forall_mem_nil _
  | cons first others ih =>
      refine List.forall_mem_cons.2 ⟨?_, ih⟩
      cases first with
      | id isName => rwa [SimpleTest.IsWellFormed, String.toList_ofList]
      | className isName => rwa [SimpleTest.IsWellFormed, String.toList_ofList]
      | bracketed closed written => exact written.isWellFormed closed

theorem Compound.WrittenAs.isWellFormed {compound : Compound} {text : List Char}
    (written : compound.WrittenAs text) : compound.IsWellFormed := by
  have ⟨c, rest, nonempty, _⟩ := written.exists_cons
  obtain ⟨isCompound⟩ := written
  obtain ⟨tagWritten, testsWritten, -⟩ := isCompound
  rename_i tag tests front back
  have read : Compound.ofTests tag tests = _ := Compound.foldl_add tests { tag }
  have inTests {kind : Type} {get : SimpleTest → Option kind} {found : kind}
      (member : found ∈ tests.filterMap get) : ∃ test, test.IsWellFormed ∧ get test = some found := by
    obtain ⟨test, inTests, same⟩ := List.mem_filterMap.1 member
    exact ⟨test, testsWritten.isWellFormed test inTests, same⟩
  refine ⟨?_, ?_, ?_, ?_, ?_⟩
  · rw [isEmpty_ofTests, Bool.and_eq_false_iff]
    by_contra empty
    simp only [Bool.not_eq_false, not_or, List.isEmpty_iff, Option.isNone_iff_eq_none] at empty
    rw [tagWritten.eq_nil_iff.2 empty.2, testsWritten.eq_nil_iff.2 empty.1] at nonempty
    cases nonempty
  · rw [read]
    exact tagWritten.isWellFormed
  · rw [read]
    intro id last
    rw [Option.or_none] at last
    obtain ⟨test, wellFormed, same⟩ := inTests (List.mem_of_getLast? last)
    cases test <;> cases same
    exact wellFormed
  · rw [read]
    intro name member
    obtain ⟨test, wellFormed, same⟩ := inTests member
    cases test <;> cases same
    exact wellFormed
  · rw [read]
    intro test member
    obtain ⟨test, wellFormed, same⟩ := inTests member
    cases test <;> cases same
    exact wellFormed

theorem Selector.WrittenAs.isWellFormed {selector : Selector} {text : List Char}
    (written : selector.WrittenAs text) : selector.IsWellFormed := by
  induction written with
  | single written => exact written.isWellFormed
  | under outerWritten linkWritten testWritten ih => exact ⟨ih, testWritten.isWellFormed⟩

/-! ## Printing -/

def TagTest.print : TagTest → List Char
  | any => ['*']
  | named tag => tag.toList

def AttributeTest.print (test : AttributeTest) : List Char :=
  match test.value with
  | none => test.name.toList
  | some value => test.name.toList ++ '=' :: ('"' :: value.toList ++ ['"'])

def SimpleTest.print : SimpleTest → List Char
  | id name => '#' :: name.toList
  | className name => '.' :: name.toList
  | bracketed test => '[' :: (test.print ++ [']'])

def Compound.tests (compound : Compound) : List SimpleTest :=
  compound.id.toList.map .id ++ compound.classes.map .className ++ compound.attributes.map .bracketed

def Compound.print (compound : Compound) : List Char :=
  compound.tag.elim [] TagTest.print ++ compound.tests.flatMap SimpleTest.print

def Combinator.print : Combinator → List Char
  | descendant => [' ']
  | child => [' ', '>', ' ']

def Selector.print : Selector → List Char
  | single test => test.print
  | under outer link test => outer.print ++ link.print ++ test.print

theorem SimpleTest.laidOut_print (test : SimpleTest) : test.LaidOut test.print := by
  have noBlanks : IsBlankText [] := List.forall_mem_nil _
  cases test with
  | id name => exact .id name
  | className name => exact .className name
  | bracketed test =>
      refine .bracketed ?_
      obtain ⟨name, value⟩ := test
      cases value with
      | none =>
          have laidOut := AttributeTest.LaidOut.present name noBlanks noBlanks
          rwa [List.nil_append, List.append_nil] at laidOut
      | some value =>
          have laidOut := AttributeTest.LaidOut.valued name value noBlanks noBlanks noBlanks noBlanks
          rwa [List.nil_append, List.append_nil, List.nil_append, List.append_nil] at laidOut

theorem Compound.orders_tests (compound : Compound) : compound.Orders compound.tests where
  id := by
    cases found : compound.id <;>
      simp [Compound.tests, found, SimpleTest.id?, List.filterMap_map, Function.comp_def]
  classes := by
    simp [Compound.tests, SimpleTest.className?, List.filterMap_map, Function.comp_def]
  attributes := by
    simp [Compound.tests, SimpleTest.bracketed?, List.filterMap_map, Function.comp_def]

theorem Compound.laidOut_print (compound : Compound) : compound.LaidOut compound.print := by
  have pieces : List.Forall₂ SimpleTest.LaidOut compound.tests (compound.tests.map SimpleTest.print) := by
    rw [List.forall₂_map_right_iff, List.forall₂_same]
    exact fun test _ => test.laidOut_print
  refine .intro ?_ compound.orders_tests pieces
  rcases compound.tag with _ | (_ | tag)
  · exact .absent
  · exact .any
  · exact .named (List.forall₂_same.2 fun _ _ => .inl rfl)

theorem Selector.laidOut_print (selector : Selector) : selector.LaidOut selector.print := by
  induction selector with
  | single test => exact .single test.laidOut_print
  | under outer link test ih =>
      have space : IsBlankText [' '] := List.forall_mem_singleton.2 rfl
      have child := Combinator.WrittenAs.child space space
      refine .under ih ?_ test.laidOut_print
      cases link with
      | descendant => exact .descendant (List.cons_ne_nil _ _) space
      | child => exact child

/-! ## Printing and reading -/

namespace Selector

/-- What is printed of a well-formed selector is one of its layouts; every layout of it, with blanks
before and after, is read back as the selector, and nothing but well-formed selectors is ever read. -/
theorem parse_layouts :
    (∀ selector : Selector, selector.LaidOut selector.print) ∧
      (∀ (selector : Selector) (before text after : List Char),
        selector.IsWellFormed → selector.LaidOut text → IsBlankText before → IsBlankText after →
          parse (String.ofList (before ++ text ++ after)) = .ok selector) ∧
      ∀ (source : String) (selector : Selector), parse source = .ok selector → selector.IsWellFormed := by
  refine ⟨laidOut_print, fun selector before text after wellFormed laidOut blankBefore blankAfter => ?_,
    fun source selector read => ?_⟩
  · exact parse_of_laidOut wellFormed laidOut blankBefore blankAfter
  · exact (parse_eq_ok_iff.1 read).isWellFormed

def quoting : Selector :=
  .under (.under (.single { tag := some (.named "ul"), id := some "x", classes := ["a", "b"] }) .child
    { tag := some .any }) .descendant { attributes := [{ name := "title", value := some "\"=\"" }] }

theorem wellFormed_quoting : quoting.IsWellFormed := by
  have isName {name : String} (nonempty : name.toList ≠ []) (plain : name.toList.all isNameChar = true) :
      IsName name.toList := isName_of_all nonempty plain
  refine ⟨⟨?_, ?_⟩, ?_⟩
  · refine ⟨rfl, ?_, ?_, ?_, List.forall_mem_nil _⟩
    · rintro _ ⟨⟩
      exact ⟨isName (by decide) (by decide), by simp⟩
    · rintro _ ⟨⟩
      exact isName (by decide) (by decide)
    · exact List.forall_mem_cons.2
        ⟨isName (by decide) (by decide), List.forall_mem_singleton.2 (isName (by decide) (by decide))⟩
  · refine ⟨rfl, ?_, ?_, List.forall_mem_nil _, List.forall_mem_nil _⟩
    · rintro _ ⟨⟩
      trivial
    · rintro _ ⟨⟩
  · refine ⟨rfl, ?_, ?_, List.forall_mem_nil _, List.forall_mem_singleton.2 ⟨?_, ?_⟩⟩
    · rintro _ ⟨⟩
    · rintro _ ⟨⟩
    · exact isName (by decide) (by decide)
    · rintro _ ⟨⟩
      decide

theorem laidOut_quoting : quoting.LaidOut "Ul.a#x.b> *\t[ title =\"\"=\"\" ]".toList := by
  have blank (c : Char) (isBlank_c : isBlank c = true) : IsBlankText [c] :=
    List.forall_mem_singleton.2 isBlank_c
  have space := blank ' ' rfl
  have noBlanks : IsBlankText [] := List.forall_mem_nil _
  have list : TagLaidOut (some (.named "ul")) ['U', 'l'] :=
    .named (.cons (by decide) (.cons (by decide) .nil))
  have marked : List.Forall₂ SimpleTest.LaidOut [.className "a", .id "x", .className "b"] _ :=
    .cons (.className "a") (.cons (.id "x") (.cons (.className "b") .nil))
  have titled := AttributeTest.LaidOut.valued "title" "\"=\"" space space noBlanks space
  have first : Compound.LaidOut { tag := some (.named "ul"), id := some "x", classes := ["a", "b"] } _ :=
    .intro list ⟨rfl, rfl, rfl⟩ marked
  have second : Compound.LaidOut { tag := some .any } _ := .intro .any ⟨rfl, rfl, rfl⟩ .nil
  have third : Compound.LaidOut { attributes := [{ name := "title", value := some "\"=\"" }] } _ :=
    .intro .absent ⟨rfl, rfl, rfl⟩ (.cons (.bracketed titled) .nil)
  exact .under (.under (.single first) (.child noBlanks space) second)
    (.descendant (List.cons_ne_nil '\t' []) (blank '\t' rfl)) third

theorem parse_layouts_quoting :
    quoting.IsWellFormed ∧ quoting.LaidOut "Ul.a#x.b> *\t[ title =\"\"=\"\" ]".toList ∧
      parse "\n Ul.a#x.b> *\t[ title =\"\"=\"\" ] " = .ok quoting := by
  refine ⟨wellFormed_quoting, laidOut_quoting, ?_⟩
  have read := parse_layouts.2.1 quoting ['\n', ' '] _ [' '] wellFormed_quoting laidOut_quoting
    (List.forall_mem_cons.2 ⟨rfl, List.forall_mem_singleton.2 rfl⟩) (List.forall_mem_singleton.2 rfl)
  have source : ['\n', ' '] ++ "Ul.a#x.b> *\t[ title =\"\"=\"\" ]".toList ++ [' '] =
    "\n Ul.a#x.b> *\t[ title =\"\"=\"\" ] ".toList := by decide
  rwa [source, String.ofList_toList] at read

end Selector
end ReportCards
