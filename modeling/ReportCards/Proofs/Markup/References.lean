import ReportCards.Markup.Escape
import ReportCards.Text.Split

/-!
# References

A table of references says which characters are written as `&name;`. Writing substitutes them one by one,
and decoding goes from left to right and takes a whole name at a time. Decoding undoes writing for every
table that lists `&` itself, if no name begins another one and no name contains a listed character; look-alikes
of references in the text do no harm then. Texts and attribute values are written by two such tables.
-/
namespace ReportCards.Markup
open Text

structure Reference where
  char : Char
  name : List Char
deriving DecidableEq, Repr

variable {table written : List Reference} {reference : Reference} {text rest : List Char}

def substitute (table : List Reference) (c : Char) : List Char :=
  match table.find? (·.char = c) with
  | some reference => '&' :: reference.name
  | none => [c]

def readName (table : List Reference) (text : List Char) : Option (Char × List Char) :=
  table.findSome? fun reference => (dropStart? reference.name text).map (reference.char, ·)

theorem exists_of_readName {c : Char} (read : readName table text = some (c, rest)) :
    ∃ reference ∈ table, reference.char = c ∧ text = reference.name ++ rest := by
  obtain ⟨reference, member, found⟩ := List.exists_of_findSome?_eq_some read
  obtain ⟨after, dropped, same⟩ := Option.map_eq_some_iff.1 found
  cases same
  exact ⟨reference, member, rfl, dropStart?_eq_some_iff.1 dropped⟩

theorem length_le_of_readName {c : Char} (read : readName table text = some (c, rest)) :
    rest.length ≤ text.length := by
  obtain ⟨reference, -, -, rfl⟩ := exists_of_readName read
  rw [List.length_append]
  exact Nat.le_add_left _ _

/-- The text with the references of the table replaced by their characters. An `&` that starts none of them
stays. -/
def decode (table : List Reference) (text : List Char) : List Char :=
  match text with
  | [] => []
  | c :: rest =>
      if c = '&' then
        match _read : readName table rest with
        | some (named, after) => named :: decode table after
        | none => '&' :: decode table rest
      else c :: decode table rest
termination_by text.length
decreasing_by
  · exact Nat.lt_succ_of_le (length_le_of_readName _read)
  · exact Nat.lt_succ_self rest.length
  · exact Nat.lt_succ_self rest.length

theorem decode_cons {c : Char} (plain : c ≠ '&') (rest : List Char) :
    decode table (c :: rest) = c :: decode table rest := by
  rw [decode, if_neg plain]

theorem decode_ampersand (unread : readName table rest = none) :
    decode table ('&' :: rest) = '&' :: decode table rest := by
  rw [decode, if_pos rfl]
  split
  · rename_i read
    cases unread.symm.trans read
  · rfl

theorem decode_reference {c : Char} {after : List Char} (read : readName table rest = some (c, after)) :
    decode table ('&' :: rest) = c :: decode table after := by
  rw [decode, if_pos rfl]
  split
  · rename_i read'
    cases read.symm.trans read'
    rfl
  · rename_i read'
    cases read.symm.trans read'

/-! ## Tables that can be decoded -/

structure IsCode (table : List Reference) : Prop where
  ampersand : ∃ reference ∈ table, reference.char = '&'
  plain : ∀ reference ∈ table, ∀ other ∈ table, other.char ∉ reference.name
  prefixFree : ∀ reference ∈ table, ∀ other ∈ table, reference.name <+: other.name → reference = other

theorem find?_char_eq_none_iff {c : Char} :
    table.find? (·.char = c) = none ↔ ¬ ∃ reference ∈ table, reference.char = c := by
  simp

theorem substitute_of_mem {c : Char} (listed : ∃ reference ∈ table, reference.char = c) :
    ∃ reference ∈ table, reference.char = c ∧ substitute table c = '&' :: reference.name := by
  cases found : table.find? (·.char = c) with
  | none => exact absurd listed (find?_char_eq_none_iff.1 found)
  | some reference =>
      refine ⟨reference, List.mem_of_find?_eq_some found, by simpa using List.find?_some found, ?_⟩
      rw [substitute, found]

theorem substitute_of_not_mem {c : Char} (unlisted : ¬ ∃ reference ∈ table, reference.char = c) :
    substitute table c = [c] := by
  rw [substitute, find?_char_eq_none_iff.2 unlisted]

theorem substitute_nil (c : Char) : substitute [] c = [c] :=
  rfl

theorem substitute_cons (reference : Reference) (table : List Reference) (c : Char) :
    substitute (reference :: table) c =
      if c = reference.char then '&' :: reference.name else substitute table c := by
  by_cases same : c = reference.char
  · simp [substitute, same]
  · simp [substitute, same, Ne.symm same]

theorem substitute_append {c : Char} (unlisted : ¬ ∃ reference ∈ table, reference.char = c)
    (more : List Reference) : substitute (table ++ more) c = substitute more c := by
  rw [substitute, List.find?_append, find?_char_eq_none_iff.2 unlisted, Option.none_or, substitute]

namespace IsCode

theorem not_mem_name (code : IsCode table) (member : reference ∈ table) : '&' ∉ reference.name := by
  obtain ⟨ampersand, listed, same⟩ := code.ampersand
  rw [← same]
  exact code.plain reference member ampersand listed

theorem readName_append (code : IsCode table) (member : reference ∈ table) (rest : List Char) :
    readName table (reference.name ++ rest) = some (reference.char, rest) := by
  cases read : readName table (reference.name ++ rest) with
  | none =>
      have dropped : dropStart? reference.name (reference.name ++ rest) = some rest :=
        dropStart?_eq_some_iff.2 rfl
      have skipped := List.findSome?_eq_none_iff.1 read reference member
      rw [dropped] at skipped
      cases skipped
  | some found =>
      obtain ⟨c, after⟩ := found
      obtain ⟨other, listed, rfl, whole⟩ := exists_of_readName read
      -- Two names at the start of one text: one of them begins the other.
      have same : reference = other := by
        rcases List.prefix_or_prefix_of_prefix (List.prefix_append reference.name rest)
          (whole ▸ List.prefix_append other.name after) with begins | begins
        · exact code.prefixFree reference member other listed begins
        · exact (code.prefixFree other listed reference member begins).symm
      rw [← same, List.append_cancel_left_eq] at whole
      rw [same, whole]

theorem decode_substitute (code : IsCode table) (part : written ⊆ table)
    (ampersand : ∃ reference ∈ written, reference.char = '&') (c : Char) (rest : List Char) :
    decode table (substitute written c ++ rest) = c :: decode table rest := by
  by_cases listed : ∃ reference ∈ written, reference.char = c
  · obtain ⟨reference, member, rfl, same⟩ := substitute_of_mem listed
    rw [same, List.cons_append, decode_reference (code.readName_append (part member) rest)]
  · rw [substitute_of_not_mem listed, List.singleton_append, decode_cons]
    rintro rfl
    exact listed ampersand

theorem decode_flatMap (code : IsCode table) (part : written ⊆ table)
    (ampersand : ∃ reference ∈ written, reference.char = '&') (text : List Char) :
    decode table (text.flatMap (substitute written)) = text := by
  induction text with
  | nil => rw [List.flatMap_nil, decode]
  | cons c text ih => rw [List.flatMap_cons, code.decode_substitute part ampersand, ih]

theorem not_mem_flatMap (code : IsCode table) (member : reference ∈ table)
    (notAmpersand : reference.char ≠ '&') (text : List Char) :
    reference.char ∉ text.flatMap (substitute table) := by
  intro inside
  obtain ⟨c, -, inside⟩ := List.mem_flatMap.1 inside
  by_cases listed : ∃ reference ∈ table, reference.char = c
  · obtain ⟨other, listed, -, same⟩ := substitute_of_mem listed
    rw [same, List.mem_cons] at inside
    exact inside.elim notAmpersand (code.plain other listed reference member)
  · rw [substitute_of_not_mem listed, List.mem_singleton] at inside
    exact listed ⟨reference, member, inside⟩

theorem exists_prefix_of_flatMap (code : IsCode table) {front : List Char}
    (whole : text.flatMap (substitute table) = front ++ '&' :: rest) :
    ∃ reference ∈ table, reference.name <+: rest := by
  induction text generalizing front with
  | nil => simp at whole
  | cons c text ih =>
      rw [List.flatMap_cons, List.append_eq_append_iff] at whole
      rcases whole with ⟨before, -, later⟩ | ⟨inside, here, later⟩
      · exact ih later
      cases inside with
      | nil => exact @ih [] later.symm
      | cons first inside =>
          -- The `&` is in what is written for `c`, so it is the first character there.
          cases later
          by_cases listed : ∃ reference ∈ table, reference.char = c
          · obtain ⟨reference, member, -, same⟩ := substitute_of_mem listed
            rw [same] at here
            cases front with
            | nil =>
                cases here
                exact ⟨reference, member, List.prefix_append _ _⟩
            | cons _ front =>
                rw [List.cons_append, List.cons.injEq] at here
                exact absurd (here.2 ▸ by simp) (code.not_mem_name member)
          · rw [substitute_of_not_mem listed, List.singleton_eq_append_iff] at here
            rcases here with ⟨-, here⟩ | ⟨-, here⟩
            · cases here
              exact absurd code.ampersand listed
            · cases here

end IsCode

/-! ## The two contexts -/

def textReferences : List Reference :=
  [⟨'&', ['a', 'm', 'p', ';']⟩, ⟨'<', ['l', 't', ';']⟩, ⟨'>', ['g', 't', ';']⟩,
    ⟨'\u00a0', ['n', 'b', 's', 'p', ';']⟩]

def attributeReferences : List Reference :=
  textReferences ++ [⟨'"', ['q', 'u', 'o', 't', ';']⟩]

theorem isCode_textReferences : IsCode textReferences where
  ampersand := by decide
  plain := by decide
  prefixFree := by decide

theorem isCode_attributeReferences : IsCode attributeReferences where
  ampersand := by decide
  plain := by decide
  prefixFree := by decide

theorem substitute_textReferences (c : Char) : substitute textReferences c = textReference c := by
  simp only [textReferences, substitute_cons, substitute_nil, textReference]

theorem substitute_attributeReferences (c : Char) :
    substitute attributeReferences c = (textReference c).flatMap quoteReference := by
  -- The second pass writes the quotes and leaves alone what the first pass has written.
  by_cases listed : ∃ reference ∈ textReferences, reference.char = c
  · obtain ⟨reference, member, rfl⟩ := listed
    revert reference
    decide
  · have plain : textReference c = [c] := by
      rw [← substitute_textReferences, substitute_of_not_mem listed]
    rw [plain, List.flatMap_singleton, quoteReference, attributeReferences, substitute_append listed,
      substitute_cons, substitute_nil]

theorem escapeText_eq_flatMap (text : List Char) :
    escapeText text = text.flatMap (substitute textReferences) :=
  congrArg text.flatMap (funext fun c => (substitute_textReferences c).symm)

theorem escapeAttribute_eq_flatMap (value : List Char) :
    escapeAttribute value = value.flatMap (substitute attributeReferences) := by
  rw [escapeAttribute, escapeText, List.flatMap_assoc]
  exact congrArg value.flatMap (funext fun c => (substitute_attributeReferences c).symm)

theorem not_mem_escapeText {mark : Char} (reserved : mark ∈ ['<', '>', '\u00a0']) (text : List Char) :
    mark ∉ escapeText text := by
  have listed : ∀ mark ∈ ['<', '>', '\u00a0'], ∃ reference ∈ textReferences,
      reference.char ≠ '&' ∧ reference.char = mark := by simp [textReferences]
  obtain ⟨reference, member, notAmpersand, rfl⟩ := listed mark reserved
  rw [escapeText_eq_flatMap]
  exact isCode_textReferences.not_mem_flatMap member notAmpersand text

theorem not_mem_escapeAttribute {mark : Char} (reserved : mark ∈ ['<', '>', '\u00a0', '"'])
    (value : List Char) : mark ∉ escapeAttribute value := by
  have listed : ∀ mark ∈ ['<', '>', '\u00a0', '"'], ∃ reference ∈ attributeReferences,
      reference.char ≠ '&' ∧ reference.char = mark := by
    simp [textReferences, attributeReferences]
  obtain ⟨reference, member, notAmpersand, rfl⟩ := listed mark reserved
  rw [escapeAttribute_eq_flatMap]
  exact isCode_attributeReferences.not_mem_flatMap member notAmpersand value

/-- Decoding gives back the text, no character that is read as markup is left, and every `&` starts a
reference; and this is so for texts and for values, although values are written in two passes. -/
theorem escaping_exact (text more : List Char) :
    (decode textReferences (escapeText text) = text ∧
        decode attributeReferences (escapeAttribute text) = text) ∧
      ((∀ c ∈ ['<', '>', '\u00a0'], c ∉ escapeText text) ∧
        ∀ c ∈ ['<', '>', '\u00a0', '"'], c ∉ escapeAttribute text) ∧
      ((∀ front rest, escapeText text = front ++ '&' :: rest →
          ∃ reference ∈ textReferences, reference.name <+: rest) ∧
        ∀ front rest, escapeAttribute text = front ++ '&' :: rest →
          ∃ reference ∈ attributeReferences, reference.name <+: rest) ∧
      (escapeText text = text.flatMap (substitute textReferences) ∧
        escapeAttribute text = text.flatMap (substitute attributeReferences)) ∧
      escapeText (text ++ more) = escapeText text ++ escapeText more ∧
        escapeAttribute (text ++ more) = escapeAttribute text ++ escapeAttribute more := by
  have inText := escapeText_eq_flatMap text
  have inValue := escapeAttribute_eq_flatMap text
  refine ⟨⟨?_, ?_⟩, ⟨fun c reserved => not_mem_escapeText reserved text,
    fun c reserved => not_mem_escapeAttribute reserved text⟩, ⟨fun front rest whole => ?_,
    fun front rest whole => ?_⟩, ⟨inText, inValue⟩, escapeText_append text more,
    escapeAttribute_append text more⟩
  · rw [inText]
    exact isCode_textReferences.decode_flatMap (List.Subset.refl _) isCode_textReferences.ampersand text
  · rw [inValue]
    exact isCode_attributeReferences.decode_flatMap (List.Subset.refl _)
      isCode_attributeReferences.ampersand text
  · exact isCode_textReferences.exists_prefix_of_flatMap (inText ▸ whole)
  · exact isCode_attributeReferences.exists_prefix_of_flatMap (inValue ▸ whole)

end ReportCards.Markup
