import ReportCards.Markup.Element
import ReportCards.Proofs.Document.Tidy
import ReportCards.Proofs.Markup.References

/-!
# Reading markup

A reader for the markup of elements. It knows nothing of how the markup was made: a tag is a run of
tag characters, an attribute name ends at the first `=`, a value at the first quote, a text at the
first `<`. `read_outerHtml` says that it gives back the content of every tidy document.
-/
namespace ReportCards.Markup
open Text Document

/-! ## References -/

def unescape : List Char → List Char
  | '&' :: 'a' :: 'm' :: 'p' :: ';' :: rest => '&' :: unescape rest
  | '&' :: 'l' :: 't' :: ';' :: rest => '<' :: unescape rest
  | '&' :: 'g' :: 't' :: ';' :: rest => '>' :: unescape rest
  | '&' :: 'n' :: 'b' :: 's' :: 'p' :: ';' :: rest => '\u00a0' :: unescape rest
  | '&' :: 'q' :: 'u' :: 'o' :: 't' :: ';' :: rest => '"' :: unescape rest
  | c :: rest => c :: unescape rest
  | [] => []

theorem unescape_eq_decode (text : List Char) : unescape text = decode attributeReferences text := by
  have known (c : Char) (rest : List Char) :
      decode attributeReferences (substitute attributeReferences c ++ rest) =
        c :: decode attributeReferences rest :=
    isCode_attributeReferences.decode_substitute (List.Subset.refl _)
      isCode_attributeReferences.ampersand c rest
  fun_induction unescape text with
  | case1 rest ih => rw [ih]; exact (known '&' rest).symm
  | case2 rest ih => rw [ih]; exact (known '<' rest).symm
  | case3 rest ih => rw [ih]; exact (known '>' rest).symm
  | case4 rest ih => rw [ih]; exact (known '\u00a0' rest).symm
  | case5 rest ih => rw [ih]; exact (known '"' rest).symm
  | case6 c rest noAmp noLt noGt noNbsp noQuot ih =>
      rw [ih]
      by_cases plain : c = '&'
      · subst plain
        have unread : readName attributeReferences rest = none := by
          refine Option.eq_none_iff_forall_ne_some.2 fun found read => ?_
          obtain ⟨reference, member, -, rfl⟩ := exists_of_readName read
          simp only [attributeReferences, textReferences, List.cons_append, List.nil_append,
            List.mem_cons, List.not_mem_nil, or_false] at member
          rcases member with rfl | rfl | rfl | rfl | rfl
          · exact noAmp _ rfl rfl
          · exact noLt _ rfl rfl
          · exact noGt _ rfl rfl
          · exact noNbsp _ rfl rfl
          · exact noQuot _ rfl rfl
        rw [decode_ampersand unread]
      · rw [decode_cons plain]
  | case7 => rw [decode]

theorem unescape_escapeText (text : List Char) : unescape (escapeText text) = text := by
  rw [unescape_eq_decode, escapeText_eq_flatMap]
  exact isCode_attributeReferences.decode_flatMap (List.subset_append_left _ _)
    isCode_textReferences.ampersand text

theorem unescape_escapeAttribute (value : List Char) :
    unescape (escapeAttribute value) = value := by
  rw [unescape_eq_decode, escapeAttribute_eq_flatMap]
  exact isCode_attributeReferences.decode_flatMap (List.Subset.refl _)
    isCode_attributeReferences.ampersand value

/-! ## The reader -/

def readAttributes (text : List Char) : Option (List (String × String) × List Char) :=
  match text with
  | '>' :: rest => some ([], rest)
  | ' ' :: rest =>
      match _named : splitOnce '=' rest with
      | some (name, '"' :: rest) =>
          match _quoted : splitOnce '"' rest with
          | some (value, rest) =>
              (readAttributes rest).map fun (more, rest) =>
                ((String.ofList name, String.ofList (unescape value)) :: more, rest)
          | none => none
      | _ => none
  | _ => none
termination_by text.length
decreasing_by
  have first := length_lt_of_splitOnce _named
  have second := length_lt_of_splitOnce _quoted
  simp only [List.length_cons] at first ⊢
  omega

def ofParts (tag : List Char) (attributes : List (String × String)) (text : List Char)
    (children : List Element) : Element :=
  { tag := String.ofList tag
    id := attributes.lookup "id"
    classes :=
      match attributes.lookup "class" with
      | some value => (words value.toList).map String.ofList
      | none => []
    attributes := attributes.filter fun pair => pair.1 ≠ "id" ∧ pair.1 ≠ "class"
    text := String.ofList (unescape text)
    children }

mutual
def readElement : (fuel : Nat) → List Char → Option (Element × List Char)
  | fuel + 1, '<' :: text => do
      let tag := text.takeWhile isTagChar
      let (attributes, content) ← readAttributes (text.dropWhile isTagChar)
      let (children, rest) ← readElements fuel (content.dropWhile (· ≠ '<'))
      let rest ← dropStart? (tag ++ ['>']) rest
      return (ofParts tag attributes (content.takeWhile (· ≠ '<')) children, rest)
  | _, _ => none

def readElements : (fuel : Nat) → List Char → Option (List Element × List Char)
  | _, '<' :: '/' :: rest => some ([], rest)
  | 0, _ => none
  | fuel + 1, text => do
      let (first, rest) ← readElement fuel text
      let (more, rest) ← readElements fuel rest
      return (first :: more, rest)
end

def read (text : String) : Option Element :=
  match readElement text.toList.length text.toList with
  | some (element, []) => some element
  | _ => none

/-! ## Attributes -/

def shownAttributes (element : Element) : List (String × String) :=
  (element.id.map fun value => ("id", value)).toList
    ++ (if element.classes = [] then []
        else [("class", String.ofList (Element.classValue element.classes))])
    ++ element.attributes

theorem attributesMarkup_eq (element : Element) :
    Element.attributesMarkup element.id element.classes element.attributes =
      (shownAttributes element).flatMap fun (name, value) =>
        Element.attributeMarkup name.toList value.toList := by
  unfold Element.attributesMarkup shownAttributes
  rw [List.flatMap_append, List.flatMap_append]
  congr 2
  · cases element.id <;> simp
  · split <;> simp

theorem readAttributes_cons {text name value inner rest : List Char}
    (named : splitOnce '=' text = some (name, '"' :: inner))
    (quoted : splitOnce '"' inner = some (value, rest)) :
    readAttributes (' ' :: text) = (readAttributes rest).map fun (more, rest) =>
      ((String.ofList name, String.ofList (unescape value)) :: more, rest) := by
  rw [readAttributes]
  split
  · rename_i name' inner' named'
    rw [named] at named'
    simp only [Option.some.injEq, Prod.mk.injEq, List.cons.injEq, true_and] at named'
    obtain ⟨rfl, rfl⟩ := named'
    split
    · rename_i value' rest' quoted'
      rw [quoted] at quoted'
      simp only [Option.some.injEq, Prod.mk.injEq] at quoted'
      obtain ⟨rfl, rfl⟩ := quoted'
      rfl
    · rename_i unquoted
      rw [quoted] at unquoted
      cases unquoted
  · rename_i unnamed
    exact absurd named (unnamed name inner)

theorem readAttributes_flatMap {attributes : List (String × String)}
    (named : ∀ pair ∈ attributes, '=' ∉ pair.1.toList) (rest : List Char) :
    readAttributes ((attributes.flatMap fun (name, value) =>
      Element.attributeMarkup name.toList value.toList) ++ '>' :: rest) = some (attributes, rest) := by
  induction attributes with
  | nil => rw [List.flatMap_nil, List.nil_append, readAttributes]
  | cons pair attributes ih =>
      obtain ⟨name, value⟩ := pair
      have noEquals : '=' ∉ name.toList := named (name, value) List.mem_cons_self
      have more := ih fun pair member => named pair (List.mem_cons_of_mem _ member)
      have noQuote : '"' ∉ escapeAttribute value.toList := not_mem_escapeAttribute (by decide) _
      rw [List.flatMap_cons]
      simp only [Element.attributeMarkup, List.cons_append, List.append_assoc, List.nil_append]
      rw [readAttributes_cons (splitOnce_append noEquals _) (splitOnce_append noQuote _)]
      simp only [Element.attributeMarkup, List.cons_append, List.append_assoc,
        List.nil_append] at more
      rw [more, Option.map_some, unescape_escapeAttribute, String.ofList_toList,
        String.ofList_toList]

/-! ## Elements of tidy documents -/

variable {κ : Type} {doc : Document κ}

theorem lookup_append_of_not_key {name : String} {attributes : List (String × String)}
    (absent : ∀ pair ∈ attributes, pair.1 ≠ name) : attributes.lookup name = none :=
  List.lookup_eq_none_iff.2 fun pair member => by simpa using (absent pair member).symm

theorem ofParts_shownAttributes (tidy : doc.IsTidy) (n : NodeId) (branches : List Subtree) :
    let element := doc.elementOf (.node n branches)
    ofParts element.tag.toList (shownAttributes element) (escapeText element.text.toList)
      element.children = element := by
  intro element
  have others : ∀ pair ∈ element.attributes, pair.1 ≠ "id" ∧ pair.1 ≠ "class" := by
    intro pair member
    obtain ⟨inside, notId⟩ := List.mem_filter.1 member
    exact ⟨by simpa using notId, ((tidy n).attributes pair inside).2⟩
  have noId := lookup_append_of_not_key fun pair member => (others pair member).1
  have noClass := lookup_append_of_not_key fun pair member => (others pair member).2
  have classes : (words (Element.classValue element.classes)).map String.ofList = element.classes := by
    rw [Element.classValue, words_intercalate, List.map_map]
    · simp [Function.comp_def]
    · intro piece member
      obtain ⟨name, inside, rfl⟩ := List.mem_map.1 member
      exact (tidy n).classes name inside
  have id : (shownAttributes element).lookup "id" = element.id := by
    simp only [shownAttributes, List.lookup_append, noId]
    cases element.id <;> split <;> simp [List.lookup_cons]
  have class_ : (shownAttributes element).lookup "class" =
      if element.classes = [] then none
      else some (String.ofList (Element.classValue element.classes)) := by
    simp only [shownAttributes, List.lookup_append, noClass]
    cases element.id <;> split <;> simp [List.lookup_cons]
  have kept : (shownAttributes element).filter (fun pair => pair.1 ≠ "id" ∧ pair.1 ≠ "class") =
      element.attributes := by
    have all := List.filter_eq_self.2 fun pair member => decide_eq_true (others pair member)
    unfold shownAttributes
    rw [List.filter_append, List.filter_append, all]
    cases element.id <;> split <;> simp
  have shownClasses : (match (shownAttributes element).lookup "class" with
      | some value => (words value.toList).map String.ofList
      | none => []) = element.classes := by
    rw [class_]
    by_cases empty : element.classes = []
    · rw [if_pos empty, empty]
    · rw [if_neg empty]
      simp only [String.toList_ofList, classes]
  rw [ofParts, id, shownClasses, kept, unescape_escapeText, String.ofList_toList,
    String.ofList_toList]
  rfl

/-! ## Elements -/

theorem takeWhile_tag {tag : List Char} (tagChars : ∀ c ∈ tag, isTagChar c = true) {c : Char}
    (stop : isTagChar c = false) (rest : List Char) :
    (tag ++ c :: rest).takeWhile isTagChar = tag ∧
      (tag ++ c :: rest).dropWhile isTagChar = c :: rest := by
  rw [List.takeWhile_append_of_pos tagChars, List.dropWhile_append_of_pos tagChars]
  simp [List.takeWhile, List.dropWhile, stop]

theorem takeWhile_text (text rest : List Char) :
    (escapeText text ++ '<' :: rest).takeWhile (· ≠ '<') = escapeText text ∧
      (escapeText text ++ '<' :: rest).dropWhile (· ≠ '<') = '<' :: rest := by
  have plain : ∀ c ∈ escapeText text, decide (c ≠ '<') = true := by
    intro c member
    refine decide_eq_true fun same => ?_
    exact not_mem_escapeText (by decide) text (same ▸ member)
  rw [List.takeWhile_append_of_pos plain, List.dropWhile_append_of_pos plain]
  simp

theorem attributesMarkup_append (element : Element) (rest : List Char) :
    ∃ c more, Element.attributesMarkup element.id element.classes element.attributes ++ '>' :: rest
      = c :: more ∧ isTagChar c = false ∧ c ≠ '/' := by
  rw [attributesMarkup_eq]
  cases shownAttributes element with
  | nil => exact ⟨'>', rest, rfl, by decide, by decide⟩
  | cons pair attributes => exact ⟨' ', _, rfl, by decide, by decide⟩

theorem markup_eq (element : Element) :
    element.markup =
      '<' :: (element.tag.toList
        ++ (Element.attributesMarkup element.id element.classes element.attributes
          ++ '>' :: (escapeText element.text.toList
            ++ (Element.markupAll element.children ++ '<' :: '/' :: (element.tag.toList ++ ['>']))))) := by
  obtain ⟨tag, id, classes, attributes, text, children⟩ := element
  simp [Element.markup]

theorem markupAll_append (elements : List Element) (rest : List Char) :
    ∃ more, Element.markupAll elements ++ '<' :: rest = '<' :: more := by
  cases elements with
  | nil => exact ⟨rest, rfl⟩
  | cons first elements =>
      rw [Element.markupAll, markup_eq]
      exact ⟨_, rfl⟩

theorem readElements_stop (fuel : Nat) (rest : List Char) :
    readElements fuel ('<' :: '/' :: rest) = some ([], rest) := by
  cases fuel <;> rfl

theorem readElements_step (fuel : Nat) {text : List Char}
    (going : ∀ rest, text ≠ '<' :: '/' :: rest) :
    readElements (fuel + 1) text = (readElement fuel text).bind fun (first, rest) =>
      (readElements fuel rest).map fun (more, rest) => (first :: more, rest) := by
  rw [readElements]
  · cases readElement fuel text with
    | none => rfl
    | some read => cases more : readElements fuel read.2 <;> simp [more]
  · exact fun rest same => going rest same

theorem markup_ne_endTag (element : Element) (tagChars : ∀ c ∈ element.tag.toList, isTagChar c = true)
    (more rest : List Char) : element.markup ++ more ≠ '<' :: '/' :: rest := by
  intro same
  rw [markup_eq, List.cons_append, List.append_assoc, List.cons.injEq] at same
  cases tag : element.tag.toList with
  | nil =>
      obtain ⟨c, after, start, -, notSlash⟩ := attributesMarkup_append element
        (escapeText element.text.toList
          ++ (Element.markupAll element.children ++ '<' :: '/' :: (element.tag.toList ++ ['>'])))
      rw [tag, List.nil_append] at same
      rw [tag] at start
      rw [start, List.cons_append, List.cons.injEq] at same
      exact notSlash same.2.1
  | cons c tag' =>
      rw [tag, List.cons_append, List.cons.injEq] at same
      have tagChar := tagChars c (by rw [tag]; exact List.mem_cons_self)
      rw [same.2.1] at tagChar
      exact absurd tagChar (by decide)

/-! ## Reading back -/

theorem named_shownAttributes (tidy : doc.IsTidy) (n : NodeId) (branches : List Subtree) :
    ∀ pair ∈ shownAttributes (doc.elementOf (.node n branches)), '=' ∉ pair.1.toList := by
  intro pair member
  rcases List.mem_append.1 member with front | other
  · rcases List.mem_append.1 front with identifier | classes
    · obtain ⟨value, -, rfl⟩ := Option.map_eq_some_iff.1 (Option.mem_toList.1 identifier)
      exact (by decide : '=' ∉ "id".toList)
    · split at classes
      · cases classes
      · rw [List.mem_singleton.1 classes]
        exact (by decide : '=' ∉ "class".toList)
  · have accepted := ((tidy n).attributes pair (List.mem_filter.1 other).1).1
    rw [isAttributeName, Bool.and_eq_true, List.all_eq_true] at accepted
    intro equals
    exact absurd (accepted.2 '=' equals) (by decide)

theorem readElement_markup (tidy : doc.IsTidy) (n : NodeId) (branches : List Subtree) {fuel : Nat}
    (rest : List Char)
    (inside : ∀ rest, readElements fuel (Element.markupAll (doc.elementsOf branches)
      ++ '<' :: '/' :: rest) = some (doc.elementsOf branches, rest)) :
    readElement (fuel + 1) ((doc.elementOf (.node n branches)).markup ++ rest)
      = some (doc.elementOf (.node n branches), rest) := by
  have parts := ofParts_shownAttributes tidy n branches
  have named := named_shownAttributes tidy n branches
  have tagChars : ∀ c ∈ (doc.elementOf (.node n branches)).tag.toList, isTagChar c = true :=
    (tidy n).tag
  have children : doc.elementsOf branches = (doc.elementOf (.node n branches)).children := rfl
  rw [children] at inside
  generalize doc.elementOf (.node n branches) = element at *
  simp only at parts
  let closing := '<' :: '/' :: (element.tag.toList ++ '>' :: rest)
  let content := escapeText element.text.toList ++ (Element.markupAll element.children ++ closing)
  let attributes :=
    Element.attributesMarkup element.id element.classes element.attributes ++ '>' :: content
  have whole : element.markup ++ rest = '<' :: (element.tag.toList ++ attributes) := by
    simp [markup_eq, attributes, content, closing]
  have tag : (element.tag.toList ++ attributes).takeWhile isTagChar = element.tag.toList ∧
      (element.tag.toList ++ attributes).dropWhile isTagChar = attributes := by
    obtain ⟨c, more, start, stop, -⟩ := attributesMarkup_append element content
    rw [show attributes = c :: more from start]
    exact takeWhile_tag tagChars stop more
  have readAttributes_attributes :
      readAttributes attributes = some (shownAttributes element, content) := by
    simp only [attributes, attributesMarkup_eq]
    exact readAttributes_flatMap named content
  have text : content.takeWhile (· ≠ '<') = escapeText element.text.toList ∧
      content.dropWhile (· ≠ '<') = Element.markupAll element.children ++ closing := by
    obtain ⟨more, start⟩ := markupAll_append element.children
      ('/' :: (element.tag.toList ++ '>' :: rest))
    simp only [content, closing, start]
    exact takeWhile_text element.text.toList more
  have ending : dropStart? (element.tag.toList ++ ['>']) (element.tag.toList ++ '>' :: rest) =
      some rest := dropStart?_eq_some_iff.2 (by simp)
  rw [whole, readElement]
  simp only [tag, readAttributes_attributes, text, closing, inside, ending, parts,
    Option.bind_eq_bind, Option.bind_some, Option.pure_def]

theorem length_markup_pos (element : Element) : 0 < element.markup.length := by
  rw [markup_eq, List.length_cons]
  exact Nat.succ_pos _

mutual
theorem readElement_elementOf (tidy : doc.IsTidy) :
    (subtree : Subtree) → {fuel : Nat} → (rest : List Char) →
      (doc.elementOf subtree).markup.length ≤ fuel →
      readElement fuel ((doc.elementOf subtree).markup ++ rest) = some (doc.elementOf subtree, rest)
  | .node n branches, fuel, rest, enough => by
      have shorter : (Element.markupAll (doc.elementsOf branches)).length + 1
          < (doc.elementOf (.node n branches)).markup.length := by
        rw [markup_eq, elementOf]
        simp only [List.length_cons, List.length_append]
        omega
      obtain ⟨fuel, rfl⟩ : ∃ less, fuel = less + 1 := ⟨fuel - 1, by omega⟩
      refine readElement_markup tidy n branches rest fun rest => ?_
      exact readElements_elementsOf tidy branches rest (by omega)

theorem readElements_elementsOf (tidy : doc.IsTidy) :
    (subtrees : List Subtree) → {fuel : Nat} → (rest : List Char) →
      (Element.markupAll (doc.elementsOf subtrees)).length < fuel →
      readElements fuel (Element.markupAll (doc.elementsOf subtrees) ++ '<' :: '/' :: rest)
        = some (doc.elementsOf subtrees, rest)
  | [], fuel, rest, _ => readElements_stop fuel rest
  | first :: more, fuel, rest, enough => by
      rw [elementsOf, Element.markupAll, List.length_append] at enough
      have positive := length_markup_pos (doc.elementOf first)
      obtain ⟨fuel, rfl⟩ : ∃ less, fuel = less + 1 := ⟨fuel - 1, by omega⟩
      rw [elementsOf, Element.markupAll, List.append_assoc, readElements_step]
      · rw [readElement_elementOf tidy first _ (by omega), Option.bind_some]
        simp only
        rw [readElements_elementsOf tidy more rest (by omega), Option.map_some]
      · obtain ⟨n, branches⟩ := first
        exact markup_ne_endTag _ (tidy n).tag _
end

theorem read_outerHtml (tidy : doc.IsTidy) (n : NodeId) :
    read (doc.outerHtml n) = some (doc.element n) := by
  have whole := readElement_elementOf tidy (doc.subtree n) [] (Nat.le_refl _)
  rw [List.append_nil] at whole
  rw [read, outerHtml, String.toList_ofList, element, whole]

end ReportCards.Markup
