import ReportCards.Proofs.Document.Move
import ReportCards.Proofs.Document.Tidy

namespace ReportCards

variable {κ : Type}

inductive AttributeCall where
  | setAttribute (name value : String)
  | setId (id : String)
  | addClass (name : String)

namespace AttributeCall

def edit (n : NodeId) : AttributeCall → Edit κ Unit
  | setAttribute name value => Edit.setAttribute n name value
  | setId id => Edit.setId n id
  | addClass name => Edit.addClass n name

def refusal? : AttributeCall → Option Error
  | setAttribute name _ =>
      if isAttributeName name then none else some (.document (.invalidAttributeName name))
  | setId _ => none
  | addClass name => if isClassName name then none else some (.document (.invalidClass name))

/-- The attribute that a call sets, and the value, unless the call is refused or sets classes. -/
def sets? : AttributeCall → Option (String × String)
  | setAttribute name value => if isAttributeName name ∧ name ≠ "class" then some (name, value) else none
  | setId id => some ("id", id)
  | addClass _ => none

def apply : AttributeCall → Node κ → Node κ
  | setAttribute name value, node => node.setAttribute name value
  | setId id, node => node.setAttribute "id" id
  | addClass name, node => node.addClass name

def runAll (n : NodeId) (calls : List AttributeCall) (doc : Document κ) : Document κ :=
  calls.foldl (fun doc call => Edit.after (call.edit n) doc) doc

end AttributeCall

/-! ## Lists of attributes -/

theorem lookup_assignAttribute (name value : String) (attributes : List (String × String))
    (key : String) : (assignAttribute name value attributes).lookup key =
      if key = name then some value else attributes.lookup key := by
  induction attributes with
  | nil => by_cases found : key = name <;> simp [assignAttribute, found]
  | cons first rest ih =>
      obtain ⟨other, old⟩ := first
      unfold assignAttribute
      by_cases same : other = name
      · subst same
        by_cases found : key = other
        · simp [found]
        · simp [List.lookup_cons, beq_false_of_ne found, found]
      · rw [if_neg same, List.lookup_cons, List.lookup_cons, ih]
        by_cases found : key = other
        · simp [found, same]
        · simp [beq_false_of_ne found]

theorem names_assignAttribute (name value : String) (attributes : List (String × String)) :
    (assignAttribute name value attributes).map Prod.fst =
      if name ∈ attributes.map Prod.fst then attributes.map Prod.fst
      else attributes.map Prod.fst ++ [name] := by
  induction attributes with
  | nil => rfl
  | cons first rest ih =>
      obtain ⟨other, old⟩ := first
      unfold assignAttribute
      by_cases same : other = name
      · simp [same]
      · simp only [if_neg same, List.map_cons, ih, List.mem_cons, Ne.symm same, false_or]
        split <;> rfl

theorem nodup_names_assignAttribute {attributes : List (String × String)}
    (distinct : (attributes.map Prod.fst).Nodup) (name value : String) :
    ((assignAttribute name value attributes).map Prod.fst).Nodup := by
  rw [names_assignAttribute]
  split
  · exact distinct
  · rename_i new
    refine List.nodup_append.2 ⟨distinct, List.pairwise_singleton _ _, fun other old name' isName => ?_⟩
    rw [List.mem_singleton] at isName
    rintro rfl
    exact new (isName ▸ old)

def assignAll (sets attributes : List (String × String)) : List (String × String) :=
  sets.foldl (fun attributes pair => assignAttribute pair.1 pair.2 attributes) attributes

theorem lookup_assignAll (sets attributes : List (String × String)) (key : String) :
    (assignAll sets attributes).lookup key =
      (sets.reverse.lookup key).or (attributes.lookup key) := by
  induction sets generalizing attributes with
  | nil => rfl
  | cons pair sets ih =>
      obtain ⟨name, value⟩ := pair
      have first : (assignAttribute name value attributes).lookup key =
          (List.lookup key [(name, value)]).or (attributes.lookup key) := by
        rw [lookup_assignAttribute, List.lookup_singleton]
        by_cases same : key = name <;> simp [same]
      rw [assignAll, List.foldl_cons, ← assignAll, ih, first, List.reverse_cons, List.lookup_append,
        Option.or_assoc]

theorem eraseDups_of_nodup {names : List String} (distinct : names.Nodup) : names.eraseDups = names := by
  induction names with
  | nil => rfl
  | cons name names ih =>
      rw [List.nodup_cons] at distinct
      have kept : names.filter (fun other => !other == name) = names := by
        refine List.filter_eq_self.2 fun other member => ?_
        have different : other ≠ name := fun same => distinct.1 (same ▸ member)
        simpa using different
      rw [List.eraseDups_cons, kept, ih distinct.2]

theorem names_assignAll {attributes : List (String × String)}
    (distinct : (attributes.map Prod.fst).Nodup) (sets : List (String × String)) :
    (assignAll sets attributes).map Prod.fst =
      (attributes.map Prod.fst ++ sets.map Prod.fst).eraseDups := by
  induction sets generalizing attributes with
  | nil =>
      rw [List.map_nil, List.append_nil, eraseDups_of_nodup distinct]
      rfl
  | cons pair sets ih =>
      obtain ⟨name, value⟩ := pair
      rw [assignAll, List.foldl_cons, ← assignAll,
        ih (nodup_names_assignAttribute distinct name value), names_assignAttribute, List.map_cons]
      split
      · -- A name that comes again does not count.
        rename_i old
        rw [List.eraseDups_append, List.eraseDups_append, List.cons_removeAll]
        simp [old]
      · rw [List.append_assoc, List.singleton_append]

namespace Document

variable {doc after : Document κ} {n m : NodeId}

/-! ## Every document -/

theorem attributes_update (doc : Document κ) {change : Node κ → Node κ}
    (same : ∀ node, (change node).attributes = node.attributes) (n m : NodeId) :
    (doc.update n change).attributes m = doc.attributes m := by
  rw [attributes, node_update]
  split
  · exact same _
  · rfl

theorem attributes_detach (doc : Document κ) (c m : NodeId) :
    (doc.detach c).attributes m = doc.attributes m := by
  rw [attributes, node_detach, attributes]

theorem attributes_foldl_detach (nodes : List NodeId) (doc : Document κ) (m : NodeId) :
    (nodes.foldl detach doc).attributes m = doc.attributes m := by
  induction nodes generalizing doc with
  | nil => rfl
  | cons n nodes ih => rw [List.foldl_cons, ih, attributes_detach]

theorem Change.attributes_cases (change : Change doc after) (m : NodeId) :
    after.attributes m = doc.attributes m ∨ after.attributes m = [] ∨
      ∃ name value, after.attributes m = assignAttribute name value (doc.attributes m) := by
  cases change with
  | create accepted =>
      rw [attributes, node_insert]
      split
      · exact .inr (.inl rfl)
      · exact .inl rfl
  | setText n text =>
      left
      rw [attributes_update, attributes_foldl_detach]
      exact fun _ => rfl
  | addClass n accepted =>
      left
      rw [attributes_update]
      intro node
      unfold Node.addClass
      split <;> rfl
  | @setAttribute n name value accepted =>
      rw [attributes, node_update]
      split
      · unfold Node.setAttribute
        split
        · exact .inl rfl
        · exact .inr (.inr ⟨name, value, rfl⟩)
      · exact .inl rfl
  | append knownParent knownChild apart =>
      left
      rw [attach, attributes_update, attributes_update, attributes_detach] <;> exact fun _ => rfl
  | remove link => exact .inl (attributes_detach doc _ m)
  | onClick n handler =>
      left
      rw [attributes_update]
      · rfl
      · exact fun _ => rfl
  | clearHandlers n =>
      left
      rw [attributes_update]
      exact fun _ => rfl

theorem Reachable.nodup_names (reachable : doc.Reachable) (n : NodeId) :
    ((doc.attributes n).map Prod.fst).Nodup := by
  induction reachable with
  | refl => simp [attributes, Document.node]
  | tail _ change ih =>
      rcases change.attributes_cases n with same | none | ⟨name, value, assigned⟩
      · rwa [same]
      · simp [none]
      · rw [assigned]
        exact nodup_names_assignAttribute ih name value

theorem getAttribute_class (doc : Document κ) (n : NodeId) :
    doc.getAttribute n "class" =
      if doc.classes n = [] then none
      else some (String.ofList ([' '].intercalate ((doc.classes n).map String.toList))) :=
  rfl

theorem IsTidy.words_class (tidy : doc.IsTidy) {text : String}
    (found : doc.getAttribute n "class" = some text) :
    Text.words text.toList = (doc.classes n).map String.toList := by
  have isWord : ∀ piece ∈ (doc.classes n).map String.toList, Text.IsWord piece := by
    intro piece member
    obtain ⟨name, inside, rfl⟩ := List.mem_map.1 member
    exact (tidy n).classes name inside
  rw [getAttribute_class] at found
  split at found
  · cases found
  · cases found
    rw [String.toList_ofList, Text.words_intercalate isWord]

theorem IsTidy.hasClass_iff (tidy : doc.IsTidy) (n : NodeId) (name : String) :
    doc.hasClass n name = true ↔
      ∃ text, doc.getAttribute n "class" = some text ∧ name.toList ∈ Text.words text.toList := by
  have member : name.toList ∈ (doc.classes n).map String.toList ↔ name ∈ doc.classes n :=
    List.mem_map_of_injective fun _ _ same => String.toList_injective same
  rw [hasClass, List.contains_iff_mem]
  constructor
  · intro inside
    have found := doc.getAttribute_class n
    rw [if_neg (List.ne_nil_of_mem inside)] at found
    exact ⟨_, found, by rw [tidy.words_class found, member]; exact inside⟩
  · rintro ⟨text, found, inside⟩
    rwa [tidy.words_class found, member] at inside

theorem IsTidy.run_setAttribute_class (tidy : doc.IsTidy) {text : String}
    (found : doc.getAttribute n "class" = some text) :
    (Edit.setAttribute n "class" text).run doc = .ok () doc := by
  have words : (Text.words text.toList).map String.ofList = doc.classes n := by
    rw [tidy.words_class found, List.map_map]
    simp
  rw [Edit.run_setAttribute (by decide)]
  congr 1
  refine eq_of_node (size_update ..) rfl fun m => ?_
  rw [node_update]
  split
  · rename_i here
    rw [← here.1, Node.setAttribute, if_pos rfl, words]
    rfl
  · rfl

end Document

/-! ## Calls -/

namespace AttributeCall
open Document

variable {doc : Document κ} {n : NodeId}

theorem edit_eq (n : NodeId) (call : AttributeCall) :
    (call.edit n : Edit κ Unit) =
      match call.refusal? with
      | some error => throw error
      | none => Edit.modifyNode n call.apply := by
  cases call with
  | setAttribute name value =>
      by_cases accepted : isAttributeName name = true
      · simp only [edit, refusal?, Edit.setAttribute, accepted, if_true]
        rfl
      · simp [edit, refusal?, Edit.setAttribute, accepted]
  | setId id => rfl
  | addClass name =>
      by_cases accepted : isClassName name = true
      · simp only [edit, refusal?, Edit.addClass, accepted, if_true]
        rfl
      · simp [edit, refusal?, Edit.addClass, accepted]

theorem run_eq_error_iff {call : AttributeCall} {error : Error} {later : Document κ} :
    (call.edit n).run doc = .error error later ↔ call.refusal? = some error ∧ later = doc := by
  rw [edit_eq]
  cases call.refusal? with
  | none =>
      constructor
      · intro refused
        cases refused
      · rintro ⟨refused, -⟩
        cases refused
  | some other =>
      constructor
      · intro refused
        cases refused
        exact ⟨rfl, rfl⟩
      · rintro ⟨same, rfl⟩
        cases same
        rfl

theorem sets?_of_refused {call : AttributeCall} {error : Error} (refused : call.refusal? = some error) :
    call.sets? = none := by
  cases call with
  | setAttribute name value =>
      have notName : isAttributeName name ≠ true := fun isName => by simp [refusal?, isName] at refused
      exact if_neg fun both => notName both.1
  | setId id => cases refused
  | addClass name => rfl

theorem attributes_apply {call : AttributeCall} (accepted : call.refusal? = none) (node : Node κ) :
    (call.apply node).attributes = assignAll call.sets?.toList node.attributes := by
  cases call with
  | setAttribute name value =>
      have isName : isAttributeName name = true := by
        by_contra notName
        simp [refusal?, notName] at accepted
      by_cases isClass : name = "class"
      · simp [apply, sets?, isClass, Node.setAttribute, assignAll]
      · simp [apply, sets?, isName, isClass, Node.setAttribute, assignAll]
  | setId id => rfl
  | addClass name =>
      rw [apply, Node.addClass]
      split <;> rfl

theorem attributes_after (known : n < doc.size) (call : AttributeCall) :
    (Edit.after (call.edit n) doc).attributes n = assignAll call.sets?.toList (doc.attributes n) := by
  unfold Edit.after
  rw [edit_eq]
  cases refusal : call.refusal? with
  | none =>
      change (doc.update n call.apply).attributes n = _
      rw [Document.attributes, node_update_self doc _ known, attributes_apply refusal]
      rfl
  | some error =>
      rw [sets?_of_refused refusal]
      rfl

instance (n : NodeId) (call : AttributeCall) : Edit.Stepwise (call.edit n : Edit κ Unit) := by
  cases call <;> (unfold edit; infer_instance)

theorem changes_after (n : NodeId) (call : AttributeCall) (doc : Document κ) :
    Relation.ReflTransGen Change doc (Edit.after (call.edit n) doc) := by
  have stepwise : Edit.Stepwise (call.edit n : Edit κ Unit) := inferInstance
  exact stepwise.changes doc

theorem reachable_runAll (reachable : doc.Reachable) (n : NodeId) (calls : List AttributeCall) :
    (runAll n calls doc).Reachable := by
  induction calls generalizing doc with
  | nil => exact reachable
  | cons call calls ih => exact ih (reachable.trans (changes_after n call doc))

theorem attributes_runAll (known : n < doc.size) (calls : List AttributeCall) :
    (runAll n calls doc).attributes n = assignAll (calls.filterMap sets?) (doc.attributes n) := by
  induction calls generalizing doc with
  | nil => rfl
  | cons call calls ih =>
      have known' : n < (Edit.after (call.edit n) doc).size :=
        Nat.lt_of_lt_of_le known (size_le_of_changes (changes_after n call doc))
      have rest := ih known'
      rw [attributes_after known] at rest
      rw [runAll, List.foldl_cons, ← runAll, rest, List.filterMap_cons]
      cases call.sets? <;> rfl

end AttributeCall

namespace Document
open AttributeCall

variable {doc : Document κ} {n : NodeId}

structure IsLabelled (doc : Document κ) (n : NodeId) : Prop where
  nodup_names : ((doc.attributes n).map Prod.fst).Nodup
  names : ∀ name ∈ (doc.attributes n).map Prod.fst, name ≠ "class" ∧ name ≠ "" ∧
    ∀ c ∈ name.toList, Text.isBlank c = false ∧ c ≠ '=' ∧ c ≠ '"'
  classes : ∀ name ∈ doc.classes n, name ≠ "" ∧ ∀ c ∈ name.toList, Text.isBlank c = false

theorem Reachable.isLabelled (reachable : doc.Reachable) (n : NodeId) : doc.IsLabelled n where
  nodup_names := reachable.nodup_names n
  names name member := by
    obtain ⟨pair, inside, rfl⟩ := List.mem_map.1 member
    obtain ⟨accepted, notClass⟩ := (reachable.isTidy n).attributes pair inside
    rw [isAttributeName, Bool.and_eq_true, List.all_eq_true] at accepted
    refine ⟨notClass, by simpa using accepted.1, fun c member => ?_⟩
    simpa [and_assoc] using accepted.2 c member
  classes name member := by
    obtain ⟨nonempty, whole⟩ := (reachable.isTidy n).classes name member
    refine ⟨?_, whole⟩
    rintro rfl
    exact nonempty rfl

/-- After any calls on a node, with any arguments. What the calls do not say the node had before; a new node
has neither attributes nor classes. -/
theorem Reachable.attributes_in_order (reachable : doc.Reachable) (known : n < doc.size)
    (calls : List AttributeCall) :
    let after := runAll n calls doc
    after.IsLabelled n ∧
      (∀ name ≠ "class", after.getAttribute n name =
        ((calls.filterMap sets?).reverse.lookup name).or (doc.getAttribute n name)) ∧
      (after.attributes n).map Prod.fst =
        ((doc.attributes n).map Prod.fst ++ (calls.filterMap sets?).map Prod.fst).eraseDups ∧
      (∀ (call : AttributeCall) (error : Error) (later : Document κ),
        (call.edit n).run after = .error error later ↔ call.refusal? = some error ∧ later = after) ∧
      (∀ name, after.hasClass n name = true ↔
        ∃ text, after.getAttribute n "class" = some text ∧ name.toList ∈ Text.words text.toList) ∧
      ∀ text, after.getAttribute n "class" = some text →
        (Edit.setAttribute n "class" text).run after = .ok () after := by
  intro after
  have reachable' : after.Reachable := reachable_runAll reachable n calls
  have attributes : after.attributes n = assignAll (calls.filterMap sets?) (doc.attributes n) :=
    attributes_runAll known calls
  refine ⟨reachable'.isLabelled n, fun name notClass => ?_, ?_, fun call error later => run_eq_error_iff,
    reachable'.isTidy.hasClass_iff n, fun text => reachable'.isTidy.run_setAttribute_class⟩
  · have read (doc : Document κ) : doc.getAttribute n name = (doc.attributes n).lookup name :=
      if_neg notClass
    rw [read, read, attributes, lookup_assignAll]
  · rw [attributes, names_assignAll (reachable.nodup_names n)]

def paragraph : Document Unit :=
  (Edit.create "p").after {}

theorem reachable_paragraph : paragraph.Reachable := by
  have stepwise : (Edit.create "p" : Edit Unit NodeId).Stepwise := inferInstance
  exact stepwise.changes {}

def scribbles : List AttributeCall :=
  [.setAttribute "class" "b \u00a0 a", .setAttribute "x" "1", .addClass "two words", .setId "i",
    .setAttribute "a=b" "1", .setAttribute "x" "2", .addClass "c"]

theorem Reachable.attributes_in_order_scribbled :
    let after := runAll 0 scribbles paragraph
    paragraph.Reachable ∧ 0 < paragraph.size ∧ after.getAttribute 0 "x" = some "2" ∧
      after.getAttribute 0 "a=b" = none ∧ (after.attributes 0).map Prod.fst = ["x", "id"] ∧
      after.getAttribute 0 "class" = some "b a c" ∧ after.hasClass 0 "c" = true ∧
      (Edit.setAttribute 0 "class" "b a c").run after = .ok () after := by
  intro after
  have known : 0 < paragraph.size := by decide
  obtain ⟨-, values, names, -, classes, again⟩ :=
    reachable_paragraph.attributes_in_order known scribbles
  have text : after.getAttribute 0 "class" = some "b a c" := by decide +kernel
  refine ⟨reachable_paragraph, known, ?_, ?_, ?_, text, ?_, again "b a c" text⟩
  · rw [values "x" (by decide)]
    decide +kernel
  · rw [values "a=b" (by decide)]
    decide +kernel
  · rw [names]
    decide +kernel
  · exact (classes "c").2 ⟨"b a c", text, by decide +kernel⟩

end Document
end ReportCards
