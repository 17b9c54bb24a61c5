import Mathlib.Data.List.TakeWhile
import ReportCards.Proofs.Text.Words
import ReportCards.Selector.Reader

/-!
# The grammar of selectors

`WrittenAs` says how selectors are written: which texts a selector may have, without a word on how they
are read. Reading is right for this grammar: `readChain_eq_ok_iff`.
-/
namespace ReportCards
open Text Selector

/-! ## Grammar -/

def IsName (text : List Char) : Prop :=
  text ≠ [] ∧ ∀ c ∈ text, isNameChar c = true

inductive SimpleTest where
  | id (name : String)
  | className (name : String)
  | bracketed (test : AttributeTest)
deriving DecidableEq, Repr

inductive AttributeTest.WrittenAs : AttributeTest → List Char → Prop
  | present {name : List Char} (noValue : '=' ∉ name) (isName : IsName (trim name)) :
      WrittenAs { name := String.ofList (trim name) } name
  | valued {name : List Char} (value : List Char) (first : '=' ∉ name) (isName : IsName (trim name)) :
      WrittenAs
        { name := String.ofList (trim name), value := some (String.ofList (unquote (trim value))) }
        (name ++ '=' :: value)

inductive SimpleTest.WrittenAs : SimpleTest → List Char → Prop
  | id {name : List Char} (isName : IsName name) : WrittenAs (.id (String.ofList name)) ('#' :: name)
  | className {name : List Char} (isName : IsName name) :
      WrittenAs (.className (String.ofList name)) ('.' :: name)
  | bracketed {test : AttributeTest} {body : List Char} (closed : ']' ∉ body)
      (written : test.WrittenAs body) : WrittenAs (.bracketed test) ('[' :: (body ++ [']']))

inductive TestsWrittenAs : List SimpleTest → List Char → Prop
  | nil : TestsWrittenAs [] []
  | cons {test : SimpleTest} {tests : List SimpleTest} {front back : List Char}
      (first : test.WrittenAs front) (others : TestsWrittenAs tests back) :
      TestsWrittenAs (test :: tests) (front ++ back)

inductive TagWrittenAs : Option TagTest → List Char → Prop
  | absent : TagWrittenAs none []
  | any : TagWrittenAs (some .any) ['*']
  | named {name : List Char} (isName : IsName name) :
      TagWrittenAs (some (.named (lowerCase (String.ofList name)))) name

inductive IsCompoundOf : Option TagTest → List SimpleTest → List Char → Prop
  | intro {tag : Option TagTest} {tests : List SimpleTest} {front back : List Char}
      (tagWritten : TagWrittenAs tag front) (testsWritten : TestsWrittenAs tests back)
      (nonempty : front ++ back ≠ []) : IsCompoundOf tag tests (front ++ back)

namespace Compound

def add (compound : Compound) : SimpleTest → Compound
  | .id name => { compound with id := some name }
  | .className name => { compound with classes := compound.classes ++ [name] }
  | .bracketed test => { compound with attributes := compound.attributes ++ [test] }

def ofTests (tag : Option TagTest) (tests : List SimpleTest) : Compound :=
  tests.foldl add { tag }

inductive WrittenAs : Compound → List Char → Prop
  | intro {tag : Option TagTest} {tests : List SimpleTest} {text : List Char}
      (isCompound : IsCompoundOf tag tests text) : WrittenAs (ofTests tag tests) text

end Compound

inductive Combinator.WrittenAs : Combinator → List Char → Prop
  | descendant {blanks : List Char} (nonempty : blanks ≠ []) (blank : ∀ c ∈ blanks, isBlank c = true) :
      WrittenAs .descendant blanks
  | child {before after : List Char} (blankBefore : ∀ c ∈ before, isBlank c = true)
      (blankAfter : ∀ c ∈ after, isBlank c = true) : WrittenAs .child (before ++ '>' :: after)

inductive Selector.WrittenAs : Selector → List Char → Prop
  | single {test : Compound} {text : List Char} (written : test.WrittenAs text) :
      WrittenAs (.single test) text
  | under {outer : Selector} {link : Combinator} {test : Compound} {front between back : List Char}
      (outerWritten : WrittenAs outer front) (linkWritten : link.WrittenAs between)
      (testWritten : test.WrittenAs back) :
      WrittenAs (.under outer link test) (front ++ between ++ back)

/-! ## Names -/

namespace Selector

theorem isName_of_all {name : List Char} (nonempty : name ≠ []) (plain : name.all isNameChar = true) :
    IsName name :=
  ⟨nonempty, List.all_eq_true.1 plain⟩

theorem isNameChar_of_isBlank {c : Char} (blank : isBlank c = true) : isNameChar c = false := by
  rw [Bool.eq_false_iff]
  intro nameChar
  unfold isNameChar Char.isAlphanum Char.isAlpha Char.isUpper Char.isLower Char.isDigit at nameChar
  simp only [Bool.or_eq_true, Bool.and_eq_true, decide_eq_true_eq, UInt32.le_iff_toNat_le, ge_iff_le,
    Char.reduceVal, UInt32.reduceToNat] at nameChar
  simp only [isBlank, Bool.or_eq_true, Bool.and_eq_true, decide_eq_true_eq, ← Char.toNat_val] at blank
  rcases nameChar with (((upper | lower) | digit) | rfl) | rfl
  · omega
  · omega
  · omega
  · revert blank; decide
  · revert blank; decide

/-- Neither a name nor a tag begins or goes on where the text begins. -/
def StopsName (text : List Char) : Prop :=
  ∀ c ∈ text.head?, isNameChar c = false ∧ c ≠ '*'

theorem stopsName_cons {c : Char} (stop : isNameChar c = false) (noStar : c ≠ '*')
    (rest : List Char) : StopsName (c :: rest) := by
  intro d first
  cases first
  exact ⟨stop, noStar⟩

theorem stopsName_of_atBoundary {text : List Char} (boundary : AtBoundary text) : StopsName text := by
  rcases boundary with rfl | ⟨c, rest, rfl, blank | rfl⟩
  · intro c first
    cases first
  · refine stopsName_cons (isNameChar_of_isBlank blank) ?_ rest
    rintro rfl
    exact absurd blank (by decide)
  · exact stopsName_cons (by decide) (by decide) rest

theorem takeWhile_name {name rest : List Char} (plain : ∀ c ∈ name, isNameChar c = true)
    (stops : StopsName rest) : (name ++ rest).takeWhile isNameChar = name := by
  rw [List.takeWhile_append_of_pos plain]
  cases rest with
  | nil => simp
  | cons c rest => simp [(stops c rfl).1]

theorem dropWhile_name {name rest : List Char} (plain : ∀ c ∈ name, isNameChar c = true)
    (stops : StopsName rest) : (name ++ rest).dropWhile isNameChar = rest := by
  rw [List.dropWhile_append_of_pos plain]
  cases rest with
  | nil => simp
  | cons c rest => simp [(stops c rfl).1]

end Selector

theorem TestsWrittenAs.stopsName {tests : List SimpleTest} {front rest : List Char}
    (written : TestsWrittenAs tests front) (boundary : AtBoundary rest) :
    StopsName (front ++ rest) := by
  cases written with
  | nil => exact stopsName_of_atBoundary boundary
  | cons first others => cases first <;> exact stopsName_cons (by decide) (by decide) _

/-! ## Compounds -/

namespace Selector

theorem readAttributeTest_eq_ok_iff {body : List Char} {test : AttributeTest} :
    readAttributeTest body = .ok test ↔ test.WrittenAs body := by
  have nameTest (name : List Char) : name.all isNameChar = true ↔ ∀ c ∈ name, isNameChar c = true :=
    List.all_eq_true
  unfold readAttributeTest
  constructor
  · intro read
    cases cut : splitOnce '=' body with
    | none =>
        simp only [cut] at read
        split at read
        case isTrue isName =>
            cases read
            exact .present (splitOnce_eq_none_iff.1 cut) ⟨isName.1, (nameTest _).1 isName.2⟩
        case isFalse => cases read
    | some found =>
        obtain ⟨name, value⟩ := found
        obtain ⟨rfl, first⟩ := splitOnce_eq_some cut
        simp only [cut] at read
        split at read
        case isTrue isName =>
            cases read
            exact .valued value first ⟨isName.1, (nameTest _).1 isName.2⟩
        case isFalse => cases read
  · intro written
    cases written with
    | present noValue isName =>
        rw [splitOnce_eq_none_iff.2 noValue]
        exact if_pos ⟨isName.1, (nameTest _).2 isName.2⟩
    | valued value first isName =>
        rw [splitOnce_append first]
        exact if_pos ⟨isName.1, (nameTest _).2 isName.2⟩

theorem readTests_id {name rest : List Char} (isName : IsName name) (stops : StopsName rest)
    (compound : Compound) :
    readTests compound ('#' :: name ++ rest) =
      readTests (compound.add (.id (String.ofList name))) rest := by
  rw [readTests.eq_def, List.cons_append]
  simp only [takeWhile_name isName.2 stops, dropWhile_name isName.2 stops, if_neg isName.1]
  rfl

theorem readTests_className {name rest : List Char} (isName : IsName name) (stops : StopsName rest)
    (compound : Compound) :
    readTests compound ('.' :: name ++ rest) =
      readTests (compound.add (.className (String.ofList name))) rest := by
  rw [readTests.eq_def, List.cons_append]
  simp only [takeWhile_name isName.2 stops, dropWhile_name isName.2 stops, if_neg isName.1]
  rfl

theorem readTests_bracketed {test : AttributeTest} {body rest : List Char} (closed : ']' ∉ body)
    (written : test.WrittenAs body) (compound : Compound) :
    readTests compound ('[' :: (body ++ [']']) ++ rest) =
      readTests (compound.add (.bracketed test)) rest := by
  have cut : splitOnce ']' (body ++ [']'] ++ rest) = some (body, rest) := by
    rw [List.append_assoc, List.singleton_append, splitOnce_append closed]
  rw [readTests.eq_def, List.cons_append]
  simp only
  split
  · rename_i none
    rw [cut] at none
    cases none
  · rename_i found
    rw [cut] at found
    cases found
    rw [readAttributeTest_eq_ok_iff.2 written]
    rfl

theorem readTests_of_atBoundary {rest : List Char} (boundary : AtBoundary rest)
    (compound : Compound) : readTests compound rest = .ok (compound, rest) := by
  rcases boundary with rfl | ⟨c, rest, rfl, stop⟩
  · rw [readTests.eq_def]
  · -- None of the three marks is blank or `>`.
    rw [readTests.eq_def]
    split
    · rename_i same; cases same
    · rename_i same; cases same; exact absurd stop (by decide)
    · rename_i same; cases same; exact absurd stop (by decide)
    · rename_i same; cases same; exact absurd stop (by decide)
    · rename_i same; cases same; exact if_pos stop

theorem readTests_of_writtenAs {tests : List SimpleTest} {front rest : List Char}
    (written : TestsWrittenAs tests front) (boundary : AtBoundary rest) (compound : Compound) :
    readTests compound (front ++ rest) = .ok (tests.foldl Compound.add compound, rest) := by
  induction written generalizing compound with
  | nil => exact readTests_of_atBoundary boundary compound
  | @cons test tests front back first others ih =>
      have stops := others.stopsName boundary
      rw [List.append_assoc, List.foldl_cons, ← ih]
      cases first with
      | id isName => exact readTests_id isName stops compound
      | className isName => exact readTests_className isName stops compound
      | bracketed closed written => exact readTests_bracketed closed written compound

theorem testsWrittenAs_of_readTests {compound result : Compound} {text rest : List Char}
    (read : readTests compound text = .ok (result, rest)) :
    ∃ tests front, text = front ++ rest ∧ TestsWrittenAs tests front ∧
      result = tests.foldl Compound.add compound := by
  have split (text : List Char) :
      text = text.takeWhile isNameChar ++ text.dropWhile isNameChar :=
    List.takeWhile_append_dropWhile.symm
  have isName {text : List Char} (nonempty : text.takeWhile isNameChar ≠ []) :
      IsName (text.takeWhile isNameChar) := ⟨nonempty, fun c => List.mem_takeWhile_imp⟩
  fun_induction readTests compound text with
  | case1 compound =>
      cases read
      exact ⟨[], [], rfl, .nil, rfl⟩
  | case3 compound tail name nonempty ih =>
      obtain ⟨tests, front, same, written, rfl⟩ := ih read
      refine ⟨_, _, ?_, .cons (.id (isName nonempty)) written, rfl⟩
      rw [List.append_assoc, ← same, List.cons_append, ← split]
  | case5 compound tail name nonempty ih =>
      obtain ⟨tests, front, same, written, rfl⟩ := ih read
      refine ⟨_, _, ?_, .cons (.className (isName nonempty)) written, rfl⟩
      rw [List.append_assoc, ← same, List.cons_append, ← split]
  | case8 compound tail body after found test readTest shorter ih =>
      obtain ⟨tests, front, rfl, written, rfl⟩ := ih read
      obtain ⟨rfl, closed⟩ := splitOnce_eq_some found
      have bracketed := SimpleTest.WrittenAs.bracketed closed (readAttributeTest_eq_ok_iff.1 readTest)
      exact ⟨_, _, by simp, .cons bracketed written, rfl⟩
  | case9 compound c tail _ _ _ stop =>
      cases read
      exact ⟨[], [], rfl, .nil, rfl⟩
  | _ => cases read

theorem readTag_of_writtenAs {tag : Option TagTest} {front rest : List Char}
    (written : TagWrittenAs tag front) (stops : StopsName rest) :
    readTag (front ++ rest) = (tag, rest) := by
  have plainStar : isNameChar '*' = false := by decide
  cases written with
  | absent =>
      rw [List.nil_append]
      unfold readTag
      split
      · exact absurd rfl (stops '*' rfl).2
      · have noName : ([] ++ rest).takeWhile isNameChar = [] :=
          takeWhile_name (List.forall_mem_nil _) stops
        rw [List.nil_append] at noName
        rw [noName]
        rfl
  | any => rfl
  | named isName =>
      unfold readTag
      split
      · rename_i star
        obtain ⟨c, name, rfl⟩ := List.exists_cons_of_ne_nil isName.1
        cases star
        rw [isName.2 '*' List.mem_cons_self] at plainStar
        cases plainStar
      · rw [takeWhile_name isName.2 stops, dropWhile_name isName.2 stops]
        exact if_neg isName.1

theorem tagWrittenAs_readTag (text : List Char) :
    ∃ front, text = front ++ (readTag text).2 ∧ TagWrittenAs (readTag text).1 front := by
  unfold readTag
  split
  · exact ⟨['*'], rfl, .any⟩
  · simp only
    split
    · exact ⟨[], rfl, .absent⟩
    · rename_i nonempty
      refine ⟨_, List.takeWhile_append_dropWhile.symm, .named ⟨nonempty, fun c => ?_⟩⟩
      exact List.mem_takeWhile_imp

theorem isEmpty_foldl_add (tests : List SimpleTest) (compound : Compound) :
    (tests.foldl Compound.add compound).isEmpty = (tests.isEmpty && compound.isEmpty) := by
  induction tests generalizing compound with
  | nil => simp
  | cons test tests ih =>
      rw [List.foldl_cons, ih]
      cases test <;> simp [Compound.add, Compound.isEmpty]

theorem isEmpty_ofTests (tag : Option TagTest) (tests : List SimpleTest) :
    (Compound.ofTests tag tests).isEmpty = (tests.isEmpty && tag.isNone) := by
  rw [Compound.ofTests, isEmpty_foldl_add]
  simp [Compound.isEmpty]

end Selector

theorem TestsWrittenAs.eq_nil_iff {tests : List SimpleTest} {text : List Char}
    (written : TestsWrittenAs tests text) : text = [] ↔ tests = [] := by
  cases written with
  | nil => simp
  | cons first others => cases first <;> simp

theorem TagWrittenAs.eq_nil_iff {tag : Option TagTest} {text : List Char}
    (written : TagWrittenAs tag text) : text = [] ↔ tag = none := by
  cases written with
  | absent => simp
  | any => simp
  | named isName => simp [isName.1]

namespace Selector

theorem readCompound_of_isCompoundOf {tag : Option TagTest} {tests : List SimpleTest}
    {front rest : List Char} (isCompound : IsCompoundOf tag tests front) (boundary : AtBoundary rest) :
    readCompound (front ++ rest) = .ok (Compound.ofTests tag tests, rest) := by
  cases isCompound with
  | @intro front back tagWritten testsWritten nonempty =>
      have notEmpty : (Compound.ofTests tag tests).isEmpty ≠ true := by
        simpa [isEmpty_ofTests, tagWritten.eq_nil_iff, testsWritten.eq_nil_iff, and_comm]
          using nonempty
      rw [readCompound, List.append_assoc,
        readTag_of_writtenAs tagWritten (testsWritten.stopsName boundary)]
      simp only [readTests_of_writtenAs testsWritten boundary]
      exact if_neg notEmpty

theorem writtenAs_of_readCompound {compound : Compound} {text rest : List Char}
    (read : readCompound text = .ok (compound, rest)) :
    ∃ front, text = front ++ rest ∧ compound.WrittenAs front := by
  obtain ⟨front, whole, tagWritten⟩ := tagWrittenAs_readTag text
  unfold readCompound at read
  simp only at read
  split at read
  · cases read
  · rename_i readRest
    obtain ⟨tests, back, rest_eq, testsWritten, rfl⟩ := testsWrittenAs_of_readTests readRest
    split at read
    · cases read
    · rename_i notEmpty
      cases read
      refine ⟨front ++ back, by rw [whole, rest_eq, List.append_assoc],
        .intro (.intro tagWritten testsWritten ?_)⟩
      change ¬ (Compound.ofTests _ tests).isEmpty = true at notEmpty
      simpa [isEmpty_ofTests, tagWritten.eq_nil_iff, testsWritten.eq_nil_iff, and_comm]
        using notEmpty

end Selector

/-! ## Chains -/

theorem Compound.WrittenAs.exists_cons {compound : Compound} {text : List Char}
    (written : compound.WrittenAs text) :
    ∃ c rest, text = c :: rest ∧ isBlank c = false ∧ c ≠ '>' := by
  cases written with
  | intro isCompound =>
      obtain ⟨tagWritten, testsWritten, nonempty⟩ := isCompound
      cases tagWritten with
      | any => exact ⟨'*', _, rfl, by decide, by decide⟩
      | named isName =>
          obtain ⟨c, rest, rfl⟩ := List.exists_cons_of_ne_nil isName.1
          have plain := isName.2 c List.mem_cons_self
          refine ⟨c, _, rfl, Bool.eq_false_iff.2 fun blank => ?_, ?_⟩
          · rw [isNameChar_of_isBlank blank] at plain
            cases plain
          · rintro rfl
            exact absurd plain (by decide)
      | absent =>
          cases testsWritten with
          | nil => exact absurd rfl nonempty
          | cons first others => cases first <;> exact ⟨_, _, rfl, by decide, by decide⟩

theorem Combinator.WrittenAs.atBoundary {link : Combinator} {text : List Char}
    (written : link.WrittenAs text) (rest : List Char) : AtBoundary (text ++ rest) := by
  cases written with
  | @descendant blanks nonempty blank =>
      obtain ⟨c, more, rfl⟩ := List.exists_cons_of_ne_nil nonempty
      exact .inr ⟨c, _, rfl, .inl (blank c List.mem_cons_self)⟩
  | @child before after blankBefore blankAfter =>
      cases before with
      | nil => exact .inr ⟨'>', _, rfl, .inr rfl⟩
      | cons c more => exact .inr ⟨c, _, rfl, .inl (blankBefore c List.mem_cons_self)⟩

namespace Selector

theorem readChain_blank {c : Char} (blank : isBlank c = true) (chain : Option Selector)
    (pending : Option Combinator) (rest : List Char) :
    readChain chain pending (c :: rest) =
      readChain chain (if chain.isSome ∧ pending.isNone then some .descendant else pending) rest := by
  rw [readChain.eq_def]
  exact if_pos blank

theorem readChain_blanks {blanks : List Char} (blank : ∀ c ∈ blanks, isBlank c = true)
    (outer : Selector) (link : Combinator) (rest : List Char) :
    readChain (some outer) (some link) (blanks ++ rest) =
      readChain (some outer) (some link) rest := by
  induction blanks with
  | nil => rfl
  | cons c blanks ih =>
      rw [List.cons_append, readChain_blank (blank c List.mem_cons_self)]
      exact ih fun d member => blank d (List.mem_cons_of_mem c member)

theorem readChain_child (outer : Selector) {pending : Option Combinator}
    (noChild : pending ≠ some .child) (rest : List Char) :
    readChain (some outer) pending ('>' :: rest) = readChain (some outer) (some .child) rest := by
  rw [readChain.eq_def]
  dsimp only
  rw [if_neg (by decide), if_pos rfl, if_neg (by simpa using noChild)]

theorem readChain_link {link : Combinator} {text : List Char} (written : link.WrittenAs text)
    (outer : Selector) (rest : List Char) :
    readChain (some outer) none (text ++ rest) = readChain (some outer) (some link) rest := by
  have first {c : Char} (blank : isBlank c = true) (rest : List Char) :
      readChain (some outer) none (c :: rest) = readChain (some outer) (some .descendant) rest := by
    rw [readChain_blank blank]
    rfl
  cases written with
  | @descendant blanks nonempty blank =>
      obtain ⟨c, more, rfl⟩ := List.exists_cons_of_ne_nil nonempty
      rw [List.cons_append, first (blank c List.mem_cons_self)]
      exact readChain_blanks (fun d member => blank d (List.mem_cons_of_mem c member)) _ _ _
  | @child before after blankBefore blankAfter =>
      rw [List.append_assoc, List.cons_append]
      cases before with
      | nil =>
          rw [List.nil_append, readChain_child outer (by simp), readChain_blanks blankAfter]
      | cons c more =>
          rw [List.cons_append, first (blankBefore c List.mem_cons_self),
            readChain_blanks fun d member => blankBefore d (List.mem_cons_of_mem c member),
            readChain_child outer (by simp), readChain_blanks blankAfter]

def extend (chain : Option Selector) (pending : Option Combinator) (test : Compound) : Selector :=
  match chain with
  | none => .single test
  | some outer => .under outer (pending.getD .descendant) test

theorem readChain_compound {test : Compound} {text rest : List Char} (written : test.WrittenAs text)
    (boundary : AtBoundary rest) (chain : Option Selector) (pending : Option Combinator)
    (linked : ¬ (chain.isSome ∧ pending.isNone)) :
    readChain chain pending (text ++ rest) = readChain (some (extend chain pending test)) none rest := by
  have read : readCompound (text ++ rest) = .ok (test, rest) := by
    obtain ⟨isCompound⟩ := written
    exact readCompound_of_isCompoundOf isCompound boundary
  obtain ⟨c, more, rfl, noBlank, noChild⟩ := written.exists_cons
  rw [List.cons_append] at read ⊢
  rw [readChain.eq_def]
  dsimp only
  rw [if_neg (by simp [noBlank]), if_neg noChild, if_neg linked]
  split
  · rename_i failed
    rw [read] at failed
    cases failed
  · rename_i found
    rw [read] at found
    cases found
    rfl

theorem readChain_of_writtenAs {selector : Selector} {text rest : List Char}
    (written : selector.WrittenAs text) (boundary : AtBoundary rest) :
    readChain none none (text ++ rest) = readChain (some selector) none rest := by
  induction written generalizing rest with
  | single written => exact readChain_compound written boundary none none (by simp)
  | under outerWritten linkWritten testWritten ih =>
      rw [List.append_assoc, List.append_assoc, ih (linkWritten.atBoundary _),
        readChain_link linkWritten, readChain_compound testWritten boundary _ _ (by simp)]
      rfl

/-- What the text read so far stands for, when `readChain` has come to a selector and a link. -/
inductive ReadSoFar : Option Selector → Option Combinator → List Char → Prop
  | nothing : ReadSoFar none none []
  | compound {selector : Selector} {text : List Char} (written : selector.WrittenAs text) :
      ReadSoFar (some selector) none text
  | link {outer : Selector} {link : Combinator} {front between : List Char}
      (written : outer.WrittenAs front) (linkWritten : link.WrittenAs between) :
      ReadSoFar (some outer) (some link) (front ++ between)

namespace ReadSoFar

variable {chain : Option Selector} {pending : Option Combinator} {text : List Char}

theorem blank {c : Char} (isBlank_c : isBlank c = true) (soFar : ReadSoFar chain pending text)
    (begun : chain.isSome) :
    ReadSoFar chain (if chain.isSome ∧ pending.isNone then some .descendant else pending)
      (text ++ [c]) := by
  have one : ∀ d ∈ [c], isBlank d = true := by simpa using isBlank_c
  cases soFar with
  | nothing => cases begun
  | compound written => exact .link written (.descendant (List.cons_ne_nil c []) one)
  | link written linkWritten =>
      rw [List.append_assoc]
      refine .link written ?_
      cases linkWritten with
      | descendant nonempty blanks =>
          exact .descendant (by simp) (List.forall_mem_append.2 ⟨blanks, one⟩)
      | child blankBefore blankAfter =>
          rw [List.append_assoc, List.cons_append]
          exact .child blankBefore (List.forall_mem_append.2 ⟨blankAfter, one⟩)

theorem child (soFar : ReadSoFar chain pending text) (placed : ¬ (chain.isNone ∨ pending = some .child)) :
    ReadSoFar chain (some .child) (text ++ ['>']) := by
  cases soFar with
  | nothing => exact absurd (.inl rfl) placed
  | compound written => exact .link written (@Combinator.WrittenAs.child [] [] (by simp) (by simp))
  | link written linkWritten =>
      rw [List.append_assoc]
      refine .link written ?_
      cases linkWritten with
      | descendant nonempty blanks => exact .child blanks (by simp)
      | child => exact absurd (.inr rfl) placed

theorem extend (soFar : ReadSoFar chain pending text) (linked : ¬ (chain.isSome ∧ pending.isNone))
    {test : Compound} {back : List Char} (written : test.WrittenAs back) :
    ReadSoFar (some (Selector.extend chain pending test)) none (text ++ back) := by
  cases soFar with
  | nothing => exact .compound (.single written)
  | compound => exact absurd ⟨rfl, rfl⟩ linked
  | link outerWritten linkWritten => exact .compound (.under outerWritten linkWritten written)

end ReadSoFar

theorem writtenAs_of_readChain {chain : Option Selector} {pending : Option Combinator}
    {selector : Selector} {front text : List Char} (soFar : ReadSoFar chain pending front)
    (start : chain = none → ∀ c ∈ text.head?, isBlank c = false)
    (read : readChain chain pending text = .ok selector) :
    ∃ main blanks, front ++ text = main ++ blanks ∧ (∀ c ∈ blanks, isBlank c = true) ∧
      selector.WrittenAs main := by
  fun_induction readChain chain pending text generalizing front with
  | case2 pending noChild outer =>
      cases read
      cases soFar with
      | compound written => exact ⟨front, [], by simp, by simp, written⟩
      | link written linkWritten =>
          cases linkWritten with
          | descendant nonempty blank => exact ⟨_, _, by simp, blank, written⟩
          | child => exact absurd rfl noChild
  | case4 chain pending c rest blank ih =>
      cases chain with
      | none =>
          rw [start rfl c rfl] at blank
          cases blank
      | some outer =>
          have found := ih (soFar.blank blank rfl) (fun none => nomatch none) read
          rwa [List.append_assoc, List.singleton_append] at found
  | case6 chain pending rest placed _ ih =>
      cases chain with
      | none => exact absurd (.inl rfl) placed
      | some outer =>
          have found := ih (soFar.child placed) (fun none => nomatch none) read
          rwa [List.append_assoc, List.singleton_append] at found
  | case9 chain pending c rest _ _ linked compound after readHere =>
      rename_i ih
      obtain ⟨here, same, written⟩ := writtenAs_of_readCompound readHere
      rw [same, ← List.append_assoc]
      exact ih (soFar.extend linked written) (fun none => nomatch none) read
  | _ => cases read

theorem readChain_eq_ok_iff {text : List Char} (start : ∀ c ∈ text.head?, isBlank c = false)
    (stop : ∀ c ∈ text.getLast?, isBlank c = false) (selector : Selector) :
    readChain none none text = .ok selector ↔ selector.WrittenAs text := by
  constructor
  · intro read
    obtain ⟨main, blanks, whole, blank, written⟩ :=
      writtenAs_of_readChain .nothing (fun _ => start) read
    rw [List.nil_append] at whole
    rcases List.eq_nil_or_concat blanks with rfl | ⟨others, c, rfl⟩
    · rwa [whole, List.append_nil]
    · have noBlank := stop c (by simp [whole])
      rw [blank c (by simp)] at noBlank
      cases noBlank
  · intro written
    have read := readChain_of_writtenAs written (.inl rfl)
    rw [List.append_nil] at read
    rw [read, readChain.eq_def]
    rfl

theorem parse_eq_ok_iff {source : String} {selector : Selector} :
    parse source = .ok selector ↔ selector.WrittenAs (trim source.toList) := by
  rw [← readChain_eq_ok_iff (isBlank_head_trim _) (isBlank_getLast_trim _), parse]
  split
  · rename_i found
    rw [found, Except.ok.injEq, Except.ok.injEq]
  · rename_i failed
    rw [failed]
    exact ⟨nofun, nofun⟩

/-- A text is accepted exactly if, without the blanks at its ends, some selector is written so; it is
then read as that selector. Any other text is refused as a selector. -/
theorem parse_accepts_exactly (source : String) :
    ((∃ selector, parse source = .ok selector) ↔
        ∃ selector : Selector, selector.WrittenAs (trim source.toList)) ∧
      (∀ selector : Selector, selector.WrittenAs (trim source.toList) →
        parse source = .ok selector) ∧
      ((∀ selector : Selector, ¬ selector.WrittenAs (trim source.toList)) →
        ∃ fault, parse source = .error (.selector source fault)) := by
  refine ⟨exists_congr fun selector => parse_eq_ok_iff, fun selector => parse_eq_ok_iff.2, ?_⟩
  intro nothing
  cases read : readChain none none (trim source.toList) with
  | ok selector =>
      have accepted : parse source = .ok selector := by rw [parse, read]
      exact absurd (parse_eq_ok_iff.1 accepted) (nothing selector)
  | error fault => exact ⟨fault, by rw [parse, read]⟩

end Selector
end ReportCards
