import ReportCards.Document.Edit
import ReportCards.Selector.Basic

/-!
# Reading selectors

Compounds are joined by blanks (descendant) or by `>` (child). A compound is an optional tag or `*`
followed by tests: `#id`, `.class`, `[name]` and `[name=value]`. A bracket runs to the first `]`.
When an identifier is written twice the later one counts.

`readCompound_stops` says where a compound ends: strictly later than it began, at the end of the
text, a blank or `>`.
-/
namespace ReportCards.Selector

open Text

def isNameChar (c : Char) : Bool :=
  c.isAlphanum || c = '-' || c = '_'

def between? (mark : Char) : List Char → Option (List Char)
  | [] => none
  | c :: rest => if c = mark ∧ rest.getLast? = some mark then some rest.dropLast else none

def unquote (text : List Char) : List Char :=
  match between? '"' text with
  | some inner => inner
  | none => (between? '\'' text).getD text

def readAttributeTest (body : List Char) : Except SelectorFault AttributeTest :=
  let (name, value) :=
    match splitOnce '=' body with
    | some (name, value) => (trim name, some (String.ofList (unquote (trim value))))
    | none => (trim body, none)
  if name ≠ [] ∧ name.all isNameChar then .ok { name := String.ofList name, value }
  else .error (.invalidAttributeName (String.ofList name))

def readTests (compound : Compound) (text : List Char) :
    Except SelectorFault (Compound × List Char) :=
  match text with
  | [] => .ok (compound, [])
  | '#' :: rest =>
      let name := rest.takeWhile isNameChar
      if name = [] then .error .emptyId
      else readTests { compound with id := some (String.ofList name) } (rest.dropWhile isNameChar)
  | '.' :: rest =>
      let name := rest.takeWhile isNameChar
      if name = [] then .error .emptyClass
      else
        readTests { compound with classes := compound.classes ++ [String.ofList name] }
          (rest.dropWhile isNameChar)
  | '[' :: rest =>
      match found : splitOnce ']' rest with
      | none => .error .unclosedBracket
      | some (body, after) =>
          match readAttributeTest body with
          | .error fault => .error fault
          | .ok test =>
              have _shorter := length_lt_of_splitOnce found
              readTests { compound with attributes := compound.attributes ++ [test] } after
  | c :: rest =>
      if isBlank c ∨ c = '>' then .ok (compound, c :: rest)
      else .error (.unsupportedCharacter c)
termination_by text.length
decreasing_by
  · exact Nat.lt_succ_of_le (List.dropWhile_suffix isNameChar).length_le
  · exact Nat.lt_succ_of_le (List.dropWhile_suffix isNameChar).length_le
  · exact Nat.lt_succ_of_lt _shorter

def readTag : List Char → Option TagTest × List Char
  | '*' :: rest => (some .any, rest)
  | text =>
      let name := text.takeWhile isNameChar
      if name = [] then (none, text)
      else (some (.named (lowerCase (String.ofList name))), text.dropWhile isNameChar)

def readCompound (text : List Char) : Except SelectorFault (Compound × List Char) :=
  let (tag, rest) := readTag text
  match readTests { tag } rest with
  | .error fault => .error fault
  | .ok (compound, after) =>
      if compound.isEmpty then .error .emptyCompound else .ok (compound, after)

def AtBoundary (text : List Char) : Prop :=
  text = [] ∨ ∃ c rest, text = c :: rest ∧ (isBlank c ∨ c = '>')

theorem readTests_stops {compound result : Compound} {text rest : List Char}
    (read : readTests compound text = .ok (result, rest)) :
    rest.length ≤ text.length ∧ (rest.length = text.length → result = compound) ∧
      AtBoundary rest := by
  fun_induction readTests compound text with
  | case1 compound => simp_all [AtBoundary]
  | case2 compound tail name empty => simp at read
  | case3 compound tail name nonempty ih =>
      have shorter := (List.dropWhile_suffix isNameChar (l := tail)).length_le
      obtain ⟨le, -, boundary⟩ := ih read
      refine ⟨?_, ?_, boundary⟩
      · simp only [List.length_cons]; omega
      · intro same; simp only [List.length_cons] at same; omega
  | case4 compound tail name empty => simp at read
  | case5 compound tail name nonempty ih =>
      have shorter := (List.dropWhile_suffix isNameChar (l := tail)).length_le
      obtain ⟨le, -, boundary⟩ := ih read
      refine ⟨?_, ?_, boundary⟩
      · simp only [List.length_cons]; omega
      · intro same; simp only [List.length_cons] at same; omega
  | case6 => simp at read
  | case7 => simp at read
  | case8 compound tail body after found test readTest shorter ih =>
      obtain ⟨le, -, boundary⟩ := ih read
      refine ⟨?_, ?_, boundary⟩
      · simp only [List.length_cons]; omega
      · intro same; simp only [List.length_cons] at same; omega
  | case9 compound c tail _ _ _ stop =>
      simp only [Except.ok.injEq, Prod.mk.injEq] at read
      obtain ⟨rfl, rfl⟩ := read
      exact ⟨Nat.le_refl _, fun _ => rfl, .inr ⟨c, tail, rfl, by simpa using stop⟩⟩
  | case10 => simp at read

theorem readTag_shortens (text : List Char) :
    (readTag text).2.length ≤ text.length ∧
      ((readTag text).2.length = text.length → (readTag text).1 = none) := by
  unfold readTag
  split
  · simp
  · rename_i other
    simp only
    split
    · simp
    · rename_i nonempty
      have whole := List.takeWhile_append_dropWhile (p := isNameChar) (l := text)
      have lengths := congrArg List.length whole
      simp only [List.length_append] at lengths
      have positive : 0 < (text.takeWhile isNameChar).length := List.length_pos_iff.2 nonempty
      exact ⟨by simp only; omega, fun same => by simp only at same; omega⟩

theorem readCompound_stops {compound : Compound} {text rest : List Char}
    (read : readCompound text = .ok (compound, rest)) :
    rest.length < text.length ∧ compound.isEmpty = false ∧ AtBoundary rest := by
  unfold readCompound at read
  obtain ⟨shorter, noTag⟩ := readTag_shortens text
  simp only at read
  split at read
  · simp at read
  · rename_i result after readRest
    split at read
    · simp at read
    · rename_i nonempty
      simp only [Except.ok.injEq, Prod.mk.injEq] at read
      obtain ⟨rfl, rfl⟩ := read
      obtain ⟨le, same, boundary⟩ := readTests_stops readRest
      refine ⟨?_, by simpa using nonempty, boundary⟩
      by_cases strict : after.length < text.length
      · exact strict
      · have tag := noTag (by omega)
        have unchanged := same (by omega)
        rw [unchanged, tag] at nonempty
        simp [Compound.isEmpty] at nonempty

/-- Reads a chain of compounds. `chain` is the selector read so far and `pending` the link that has
been read after it. -/
def readChain (chain : Option Selector) (pending : Option Combinator) (text : List Char) :
    Except SelectorFault Selector :=
  match text with
  | [] =>
      if pending = some .child then .error .danglingChild
      else
        match chain with
        | some selector => .ok selector
        | none => .error .empty
  | c :: rest =>
      if isBlank c then
        readChain chain
          (if chain.isSome ∧ pending.isNone then some .descendant else pending) rest
      else if c = '>' then
        if chain.isNone ∨ pending = some .child then .error .misplacedChild
        else readChain chain (some .child) rest
      else if chain.isSome ∧ pending.isNone then .error .unexpectedCharacter
      else
        match read : readCompound (c :: rest) with
        | .error fault => .error fault
        | .ok (compound, after) =>
            let longer :=
              match chain with
              | none => Selector.single compound
              | some outer => .under outer (pending.getD .descendant) compound
            have _shorter := (readCompound_stops read).1
            readChain (some longer) none after
termination_by text.length
decreasing_by
  · exact Nat.lt_succ_self rest.length
  · exact Nat.lt_succ_self rest.length
  · exact _shorter

def parse (source : String) : Except Error Selector :=
  match readChain none none (trim source.toList) with
  | .ok selector => .ok selector
  | .error fault => .error (.selector source fault)

end ReportCards.Selector

namespace ReportCards.Document

variable {κ : Type}

def selectAll (doc : Document κ) (n : NodeId) (source : String) : Except Error (List NodeId) := do
  let selector ← Selector.parse source
  return (doc.descendants n).filter (selector.selects doc)

def selectFirst (doc : Document κ) (n : NodeId) (source : String) :
    Except Error (Option NodeId) := do
  return (← doc.selectAll n source).head?

end ReportCards.Document
