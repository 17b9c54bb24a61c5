import ReportCards.Proofs.Document.Attributes
import ReportCards.Proofs.Selector.Layout
import ReportCards.Proofs.Selector.Query

namespace ReportCards
open Text Selector Document

variable {κ : Type} {doc : Document κ} {quote : Char} {name value : String}

/-! ## Texts -/

namespace Text

theorem trim_between {first last : Char} (start : isBlank first = false) (stop : isBlank last = false)
    (inner : List Char) : trim (first :: inner ++ [last]) = first :: inner ++ [last] := by
  have noBlanks : IsBlankText [] := List.forall_mem_nil _
  have start' : ∀ c ∈ (first :: inner ++ [last]).head?, isBlank c = false := by
    rintro c ⟨⟩
    exact start
  have stop' : ∀ c ∈ (first :: inner ++ [last]).getLast?, isBlank c = false := by
    intro c isLast
    rw [List.getLast?_concat] at isLast
    cases isLast
    exact stop
  have trimmed := trim_of_blank_ends noBlanks noBlanks start' stop' (List.cons_ne_nil _ _)
  rwa [List.nil_append, List.append_nil] at trimmed

end Text

/-! ## Reading -/

namespace Selector

def quotedTest (quote : Char) (name value : String) : String :=
  String.ofList ('[' :: (name.toList ++ '=' :: (quote :: value.toList ++ [quote])) ++ [']'])

theorem unquote_between (isQuote : quote = '"' ∨ quote = '\'') (inner : List Char) :
    unquote (quote :: inner ++ [quote]) = inner := by
  rcases isQuote with rfl | rfl
  · exact unquote_quoted inner
  · have double : between? '"' ('\'' :: inner ++ ['\'']) = none := by
      simp [between?]
    have single : between? '\'' ('\'' :: inner ++ ['\'']) = some inner := by
      simp [between?]
    rw [unquote, double, single, Option.getD_some]

theorem writtenAs_quoted (isQuote : quote = '"' ∨ quote = '\'') (isName : IsName name.toList)
    (value : String) :
    AttributeTest.WrittenAs { name, value := some value }
      (name.toList ++ '=' :: (quote :: value.toList ++ [quote])) := by
  have noBlanks : IsBlankText [] := List.forall_mem_nil _
  have notBlank : isBlank quote = false := by
    rcases isQuote with rfl | rfl <;> decide
  have trimmed : trim name.toList = name.toList := by
    have trimmed := isName.trim_eq noBlanks noBlanks
    rwa [List.nil_append, List.append_nil] at trimmed
  have noEquals : '=' ∉ name.toList := fun member => absurd (isName.2 '=' member) (by decide)
  have written := AttributeTest.WrittenAs.valued (quote :: value.toList ++ [quote]) noEquals
    (by rwa [trimmed])
  rwa [trimmed, trim_between notBlank notBlank, unquote_between isQuote, String.ofList_toList,
    String.ofList_toList] at written

theorem parse_quotedTest (isQuote : quote = '"' ∨ quote = '\'') (isName : IsName name.toList)
    (closed : ']' ∉ value.toList) :
    parse (quotedTest quote name value) =
      .ok (.single { attributes := [{ name, value := some value }] }) := by
  have noName : ']' ∉ name.toList := fun member => absurd (isName.2 ']' member) (by decide)
  have noQuote : ']' ≠ quote := by
    rcases isQuote with rfl | rfl <;> decide
  have closedBody : ']' ∉ name.toList ++ '=' :: (quote :: value.toList ++ [quote]) := by
    simp [noName, noQuote, closed]
  have bracketed := SimpleTest.WrittenAs.bracketed closedBody (writtenAs_quoted isQuote isName value)
  have isCompound := IsCompoundOf.intro .absent (.cons bracketed .nil) (List.cons_ne_nil _ _)
  have trimmed : trim (quotedTest quote name value).toList =
      '[' :: (name.toList ++ '=' :: (quote :: value.toList ++ [quote])) ++ [']'] := by
    rw [quotedTest, String.toList_ofList]
    exact trim_between (by decide) (by decide) _
  rw [List.nil_append, List.append_nil, ← List.cons_append, ← trimmed] at isCompound
  exact parse_of_isCompoundOf isCompound

theorem selects_valued_iff (doc : Document κ) (n : NodeId) (name value : String) :
    (single { attributes := [{ name, value := some value }] }).selects doc n = true ↔
      doc.getAttribute n name = some value := by
  cases found : doc.getAttribute n name <;>
    simp [selects, Compound.holds, AttributeTest.holds, found, eq_comm]

end Selector

/-! ## Values that are set -/

/-- The value that an attribute has when it was set. The words of a `class` are kept, with single spaces
between them; without any word there is no `class`. -/
def keptValue? (name value : String) : Option String :=
  if name = "class" then
    if words value.toList = [] then none
    else some (String.ofList ([' '].intercalate (words value.toList)))
  else some value

theorem Node.getAttribute_setAttribute (node : Node κ) (name value : String) :
    (node.setAttribute name value).getAttribute name = keptValue? name value := by
  unfold setAttribute getAttribute keptValue?
  by_cases isClass : name = "class"
  · simp [isClass, Function.comp_def]
  · simp only [if_neg isClass, lookup_assignAttribute, if_pos]

theorem not_mem_of_keptValue? {stored : String} (closed : ']' ∉ value.toList)
    (kept : keptValue? name value = some stored) : ']' ∉ stored.toList := by
  unfold keptValue? at kept
  split at kept
  · split at kept
    · cases kept
    · cases kept
      intro member
      rw [String.toList_ofList] at member
      rcases mem_intercalate member with isSpace | ⟨word, isWord, inside⟩
      · exact absurd isSpace (by decide)
      · exact closed (subset_of_mem_words isWord inside)
  · cases kept
    exact closed

theorem isAttributeName_of_isName (isName : IsName name.toList) : isAttributeName name = true := by
  have nonempty : name ≠ "" := fun empty => isName.1 (by rw [empty]; rfl)
  rw [isAttributeName, Bool.and_eq_true, List.all_eq_true]
  refine ⟨decide_eq_true nonempty, fun c member => ?_⟩
  have nameChar := isName.2 c member
  have noEquals : c ≠ '=' := by
    rintro rfl
    exact absurd nameChar (by decide)
  have noQuote : c ≠ '"' := by
    rintro rfl
    exact absurd nameChar (by decide)
  simp [isName.not_blank c member, noEquals, noQuote]

namespace Document

theorem IsForest.mem_descendants_of_parents {after : Document κ} (forest : doc.IsForest)
    (forest' : after.IsForest) (same : ∀ m, after.parent m = doc.parent m) {a n : NodeId}
    (below : n ∈ doc.descendants a) : n ∈ after.descendants a := by
  have path : after.path n = doc.path n := forest.path_kept forest' fun m _ => same m
  rw [Document.path, Document.path, List.cons.injEq] at path
  rw [forest'.mem_descendants_iff, path.2, ← forest.mem_descendants_iff]
  exact below

end Document

theorem run_setAttribute_kept (isName : IsName name.toList) (value : String) (forest : doc.IsForest)
    {a n : NodeId} (below : n ∈ doc.descendants a) :
    ∃ after, (Edit.setAttribute n name value).run doc = .ok () after ∧
      n ∈ after.descendants a ∧ after.getAttribute n name = keptValue? name value := by
  let after := doc.update n fun node => node.setAttribute name value
  have run : (Edit.setAttribute n name value).run doc = .ok () after :=
    Edit.run_setAttribute (isAttributeName_of_isName isName) n value
  have forest' : after.IsForest := Edit.isForest_of_run forest run
  refine ⟨after, run, forest.mem_descendants_of_parents forest' (fun m => ?_) below, ?_⟩
  · rw [parent, parent, node_update]
    split
    · unfold Node.setAttribute
      split <;> rfl
    · rfl
  · rw [getAttribute, node_update_self _ _ (forest.known_of_mem_descendants below),
      Node.getAttribute_setAttribute]

/-- Quoted values are literal: the selector selects the nodes whose attribute has the value. So an attribute
that was set is found from every node above, by the value that it has kept. -/
theorem quoted_value_literal (isQuote : quote = '"' ∨ quote = '\'') (isName : IsName name.toList)
    (closed : ']' ∉ value.toList) :
    (∃ selector, parse (quotedTest quote name value) = .ok selector ∧
      ∀ (κ : Type) (doc : Document κ) (n : NodeId),
        selector.selects doc n = true ↔ doc.getAttribute n name = some value) ∧
    ∀ (κ : Type) (doc : Document κ) (a n : NodeId), doc.Reachable → n ∈ doc.descendants a →
      ∃ after, (Edit.setAttribute n name value).run doc = .ok () after ∧
        after.getAttribute n name = keptValue? name value ∧
        ∀ stored, keptValue? name value = some stored →
          ∃ found, after.selectAll a (quotedTest quote name stored) = .ok found ∧ n ∈ found ∧
            ∀ m ∈ found, after.getAttribute m name = some stored := by
  constructor
  · exact ⟨_, parse_quotedTest isQuote isName closed, fun κ doc n => selects_valued_iff doc n name value⟩
  · intro κ doc a n reachable below
    obtain ⟨after, run, below', has⟩ := run_setAttribute_kept isName value reachable.isForest below
    refine ⟨after, run, has, fun stored kept => ?_⟩
    have closed' : ']' ∉ stored.toList := not_mem_of_keptValue? closed kept
    refine ⟨_, selectAll_eq_filter (parse_quotedTest isQuote isName closed') a, ?_, fun m found => ?_⟩
    · rw [List.mem_filter, selects_valued_iff, has]
      exact ⟨below', kept⟩
    · exact (selects_valued_iff after m name stored).1 (List.mem_filter.1 found).2

def boxedNote : Edit Unit Unit := do
  let box ← Edit.create "div"
  let note ← Edit.create "p"
  Edit.append box note

theorem reachable_boxedNote : (boxedNote.after {}).Reachable := by
  have stepwise : boxedNote.Stepwise := by
    unfold boxedNote
    infer_instance
  exact stepwise.changes {}

theorem quoted_value_literal_boxed :
    let doc := boxedNote.after {}
    IsName "title".toList ∧ ']' ∉ "a='b'. > [c=".toList ∧ doc.Reachable ∧ 1 ∈ doc.descendants 0 ∧
      (∃ after, (Edit.setAttribute 1 "title" "a='b'. > [c=").run doc = .ok () after ∧
        ∃ found, after.selectAll 0 "[title=\"a='b'. > [c=\"]" = .ok found ∧ 1 ∈ found) ∧
      ∃ after, (Edit.setAttribute 1 "class" " wide\tred").run doc = .ok () after ∧
        ∃ found, after.selectAll 0 "[class='wide red']" = .ok found ∧ 1 ∈ found := by
  intro doc
  have reachable : doc.Reachable := reachable_boxedNote
  have below : 1 ∈ doc.descendants 0 := by decide +kernel
  have isTitle : IsName "title".toList := isName_of_all (by decide) (by decide)
  have isClass : IsName "class".toList := isName_of_all (by decide) (by decide)
  have closed : ']' ∉ "a='b'. > [c=".toList := by decide
  obtain ⟨-, title⟩ := quoted_value_literal (.inl rfl) isTitle closed
  obtain ⟨-, classes⟩ := quoted_value_literal (.inr rfl) isClass (by decide : ']' ∉ " wide\tred".toList)
  obtain ⟨after, run, -, finds⟩ := title Unit doc 0 1 reachable below
  obtain ⟨after', run', -, finds'⟩ := classes Unit doc 0 1 reachable below
  obtain ⟨found, selected, member, -⟩ := finds "a='b'. > [c=" (by decide)
  obtain ⟨found', selected', member', -⟩ := finds' "wide red" (by decide)
  have source : quotedTest '"' "title" "a='b'. > [c=" = "[title=\"a='b'. > [c=\"]" := by decide
  have source' : quotedTest '\'' "class" "wide red" = "[class='wide red']" := by decide
  rw [source] at selected
  rw [source'] at selected'
  exact ⟨isTitle, closed, reachable, below, ⟨after, run, found, selected, member⟩,
    after', run', found', selected', member'⟩

theorem quoted_value_lost :
    let doc := boxedNote.after {}
    (∃ after, (Edit.setAttribute 1 "x" "a]b").run doc = .ok () after ∧
      after.getAttribute 1 "x" = some "a]b" ∧
      parse (quotedTest '"' "x" "a]b") =
        .error (.selector "[x=\"a]b\"]" (.unsupportedCharacter 'b'))) ∧
    ∃ after, (Edit.setAttribute 1 "class" "a  b").run doc = .ok () after ∧ 1 ∈ after.descendants 0 ∧
      after.selectAll 0 (quotedTest '"' "class" "a  b") = .ok [] := by
  refine ⟨⟨_, rfl, ?_, ?_⟩, _, rfl, ?_, ?_⟩
  · decide +kernel
  · decide +kernel
  · decide +kernel
  · decide +kernel

end ReportCards
