import ReportCards.Click.Operation
import ReportCards.Proofs.Document.Numbering

namespace ReportCards
open Relation Document

namespace Edit

variable {κ α β : Type}

def after (edit : Edit κ α) (doc : Document κ) : Document κ :=
  match edit.run doc with
  | .ok _ doc => doc
  | .error _ doc => doc

theorem rel_after_bind {holds : Document κ → Document κ → Prop}
    (trans : ∀ {before middle later}, holds before middle → holds middle later → holds before later)
    {edit : Edit κ α} {next : α → Edit κ β} (first : ∀ doc, holds doc (after edit doc))
    (second : ∀ value doc, holds doc (after (next value) doc)) (doc : Document κ) :
    holds doc (after (edit >>= next) doc) := by
  have start := first doc
  unfold after at start ⊢
  rw [EStateM.run_bind]
  cases run : edit.run doc with
  | ok value middle =>
      rw [run] at start
      exact trans start (second value middle)
  | error error middle =>
      rw [run] at start
      exact start

theorem after_append (parent child : NodeId) (doc : Document κ) :
    after (append parent child) doc = doc ∨
      after (append parent child) doc = (doc.detach child).attach parent child := by
  unfold after append
  rw [EStateM.run_bind, EStateM.run_get]
  by_cases unknown : doc.size ≤ parent ∨ doc.size ≤ child
  · simp only [unknown]
    exact .inl rfl
  · cases apart : doc.contains child parent with
    | true =>
        simp only [unknown, apart]
        exact .inl rfl
    | false =>
        simp only [unknown, apart]
        exact .inr rfl

theorem after_remove (parent child : NodeId) (doc : Document κ) :
    after (remove parent child) doc = doc ∨ after (remove parent child) doc = doc.detach child := by
  unfold after remove
  rw [EStateM.run_bind, EStateM.run_get]
  by_cases link : doc.parent child = some parent
  · simp only [link]
    exact .inr rfl
  · simp only [link]
    exact .inl rfl

/-- An edit that is made of elementary changes. -/
class Stepwise (edit : Edit κ α) : Prop where
  numberedChanges : ∀ doc, ReflTransGen NumberedChange doc (after edit doc)

theorem Stepwise.changes {edit : Edit κ α} (stepwise : Stepwise edit) (doc : Document κ) :
    ReflTransGen Change doc (after edit doc) :=
  ReflTransGen.mono (fun _ _ change => change.change) _ _ (stepwise.numberedChanges doc)

/-! ## Control -/

instance (value : α) : Stepwise (pure value : Edit κ α) :=
  ⟨fun _ => .refl⟩

instance (error : Error) : Stepwise (throw error : Edit κ α) :=
  ⟨fun _ => .refl⟩

instance : Stepwise (get : Edit κ (Document κ)) :=
  ⟨fun _ => .refl⟩

instance (edit : Edit κ α) (next : α → Edit κ β) [first : Stepwise edit]
    [second : ∀ value, Stepwise (next value)] : Stepwise (edit >>= next) where
  numberedChanges :=
    rel_after_bind .trans first.numberedChanges fun value => (second value).numberedChanges

instance (condition : Prop) [Decidable condition] (yes no : Edit κ α) [Stepwise yes]
    [Stepwise no] : Stepwise (if condition then yes else no) := by
  split <;> infer_instance

instance (items : List α) (edit : α → Edit κ PUnit) [∀ item, Stepwise (edit item)] :
    Stepwise (items.forM edit) := by
  induction items with
  | nil => exact inferInstanceAs (Stepwise (pure PUnit.unit : Edit κ PUnit))
  | cons item rest ih => exact inferInstanceAs (Stepwise (edit item >>= fun _ => rest.forM edit))

/-! ## Operations on single nodes -/

instance (tag : String) : Stepwise (create tag : Edit κ NodeId) := by
  unfold create
  split
  case isTrue accepted => exact ⟨fun doc => .single (.keeping (.create doc accepted) (.insert doc _))⟩
  case isFalse => infer_instance

instance (n : NodeId) (text : String) : Stepwise (setText n text : Edit κ Unit) :=
  ⟨fun doc => .single (.keeping (.setText doc n text)
    ((KeepsHandlers.foldl_detach _ doc).trans (.update _ n fun _ => .refl _)))⟩

instance (n : NodeId) (name : String) : Stepwise (addClass n name : Edit κ Unit) := by
  unfold addClass
  split
  case isTrue accepted =>
    refine ⟨fun doc => .single (.keeping (.addClass doc n accepted) (.update doc n fun node => ?_))⟩
    unfold Node.addClass
    split <;> exact .refl _
  case isFalse => infer_instance

instance (n : NodeId) (name value : String) :
    Stepwise (setAttribute n name value : Edit κ Unit) := by
  unfold setAttribute
  split
  case isTrue accepted =>
    refine ⟨fun doc => .single (.keeping (.setAttribute doc n value accepted)
      (.update doc n fun node => ?_))⟩
    unfold Node.setAttribute
    split <;> exact .refl _
  case isFalse => infer_instance

instance (n : NodeId) (id : String) : Stepwise (setId n id : Edit κ Unit) :=
  inferInstanceAs (Stepwise (setAttribute n "id" id))

instance (parent child : NodeId) : Stepwise (append parent child : Edit κ Unit) where
  numberedChanges doc := by
    unfold after append
    rw [EStateM.run_bind, EStateM.run_get]
    by_cases unknown : doc.size ≤ parent ∨ doc.size ≤ child
    · simp only [unknown]
      exact .refl
    · obtain ⟨knownParent, knownChild⟩ := not_or.1 unknown
      cases apart : doc.contains child parent with
      | true =>
          simp only [unknown, apart]
          exact .refl
      | false =>
          simp only [unknown, apart]
          exact .single (.keeping
            (.append doc (Nat.not_le.1 knownParent) (Nat.not_le.1 knownChild) apart)
            ((KeepsHandlers.detach doc child).trans (.attach _ parent child)))

instance (parent child : NodeId) : Stepwise (remove parent child : Edit κ Unit) where
  numberedChanges doc := by
    unfold after remove
    rw [EStateM.run_bind, EStateM.run_get]
    by_cases link : doc.parent child = some parent
    · simp only [link]
      exact .single (.keeping (.remove doc link) (.detach doc child))
    · simp only [link]
      exact .refl

instance (n : NodeId) (action : κ) : Stepwise (onClick n action : Edit κ Unit) :=
  ⟨fun doc => .single (.register doc n action)⟩

instance (n : NodeId) : Stepwise (clearHandlers n : Edit κ Unit) :=
  ⟨fun doc => .single (.keeping (.clearHandlers doc n) (.update doc n fun _ => List.nil_sublist _))⟩

/-! ## Widgets -/

instance (tag : String) (classes : List String) :
    Stepwise (createWithClasses tag classes : Edit κ NodeId) := by
  unfold createWithClasses
  infer_instance

instance (n : NodeId) : Stepwise (releaseHandlers n : Edit κ Unit) := by
  unfold releaseHandlers
  infer_instance

instance (n : NodeId) : Stepwise (clearContents n : Edit κ Unit) := by
  unfold clearContents
  infer_instance

set_option synthInstance.maxSize 1024 in
instance (container : NodeId) (id title : String) :
    Stepwise (createCard container id title : Edit κ Card) := by
  unfold createCard
  infer_instance

set_option synthInstance.maxSize 1024 in
instance (container : NodeId) (columns : List String) :
    Stepwise (createTable container columns : Edit κ NodeId) := by
  unfold createTable
  infer_instance

instance (row : NodeId) (value : CellValue) : Stepwise (addCell row value : Edit κ NodeId) := by
  unfold addCell
  infer_instance

instance (body : NodeId) (values : List String) :
    Stepwise (addRow body values : Edit κ NodeId) := by
  unfold addRow
  infer_instance

instance (body : NodeId) (count columns : Nat) :
    Stepwise (addBlankRows body count columns : Edit κ Unit) := by
  unfold addBlankRows
  infer_instance

instance (container : NodeId) : Stepwise (showAllGood container : Edit κ NodeId) := by
  unfold showAllGood
  infer_instance

instance (table : PagedTable) (index : UInt64) : Stepwise (table.showPage index : Edit κ Unit) := by
  unfold PagedTable.showPage
  infer_instance

instance (list : NodeId) (label : String) :
    Stepwise (Pager.addHandle list label : Edit κ NodeId) := by
  unfold Pager.addHandle
  infer_instance

instance (container : NodeId) : Stepwise (Pager.findOrCreateList container : Edit κ NodeId) := by
  unfold Pager.findOrCreateList
  have each (doc : Document κ) : Stepwise (match doc.selectFirst container Pager.listSelector with
      | .error error => (throw error : Edit κ NodeId)
      | .ok (some list) => return list
      | .ok none => do
          let list ← createWithClasses "ul" [Pager.listClass]
          append container list
          return list) := by
    split <;> infer_instance
  infer_instance

variable {ν : Type}

instance (pager : Pager ν) (list : NodeId) (count : UInt64) (window : PageWindow)
    (index : UInt64) : Stepwise (pager.addPageHandle list count window index) := by
  unfold Pager.addPageHandle
  dsimp only
  infer_instance

set_option synthInstance.maxSize 1024 in
instance (pager : Pager ν) (list : NodeId) (count : UInt64) (window : PageWindow) :
    Stepwise (pager.fillList list count window) := by
  unfold Pager.fillList
  dsimp only
  infer_instance

instance (pager : Pager ν) (count index : UInt64) : Stepwise (pager.render count index) := by
  unfold Pager.render
  infer_instance

instance (container : NodeId) (spec : ReportSpec) (rows : List (List String)) (sizing : Sizing) :
    Stepwise (Report.render container spec rows sizing : Edit (Action ν) (Report ν)) := by
  unfold Report.render Report.createContent
  split <;> infer_instance

instance (report : Report ν) (index : UInt64) : Stepwise (report.showPage index) := by
  unfold Report.showPage
  split <;> infer_instance

end Edit

/-! ## All operations -/

variable {ν α : Type}

theorem Operation.snd_apply (operation : Operation ν α) (doc : Document (Action ν)) :
    (operation.apply doc).2 = Edit.after operation.edit doc := by
  unfold apply Edit.after
  cases operation.edit.run doc <;> rfl

theorem Operation.stepwise (operation : Operation ν α) : Edit.Stepwise operation.edit := by
  cases operation <;> (unfold edit; infer_instance)

theorem Operation.changes (operation : Operation ν α) (doc : Document (Action ν)) :
    ReflTransGen Change doc (operation.apply doc).2 := by
  rw [operation.snd_apply]
  exact operation.stepwise.changes doc

theorem Operation.numberedChanges (operation : Operation ν α) (doc : Document (Action ν)) :
    ReflTransGen NumberedChange doc (operation.apply doc).2 := by
  rw [operation.snd_apply]
  exact operation.stepwise.numberedChanges doc

end ReportCards
