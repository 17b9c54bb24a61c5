import ReportCards.Click.Program
import ReportCards.Proofs.Document.Stepwise

namespace ReportCards
open Relation Document

namespace Edit

variable {κ α β : Type}

/-- The edit registers no handler, whether it fails or not. -/
class RegistersNone (edit : Edit κ α) : Prop where
  registered_eq : ∀ doc, (after edit doc).registered = doc.registered

instance (value : α) : RegistersNone (pure value : Edit κ α) :=
  ⟨fun _ => rfl⟩

instance (error : Error) : RegistersNone (throw error : Edit κ α) :=
  ⟨fun _ => rfl⟩

instance : RegistersNone (get : Edit κ (Document κ)) :=
  ⟨fun _ => rfl⟩

instance (edit : Edit κ α) (next : α → Edit κ β) [first : RegistersNone edit]
    [second : ∀ value, RegistersNone (next value)] : RegistersNone (edit >>= next) where
  registered_eq :=
    @rel_after_bind κ α β (fun before later => later.registered = before.registered)
      (fun start rest => rest.trans start) edit next first.registered_eq
      fun value => (second value).registered_eq

instance (condition : Prop) [Decidable condition] (yes no : Edit κ α) [RegistersNone yes]
    [RegistersNone no] : RegistersNone (if condition then yes else no) := by
  split <;> infer_instance

instance (items : List α) (edit : α → Edit κ PUnit) [∀ item, RegistersNone (edit item)] :
    RegistersNone (items.forM edit) := by
  induction items with
  | nil => exact inferInstanceAs (RegistersNone (pure PUnit.unit : Edit κ PUnit))
  | cons item rest ih =>
      exact inferInstanceAs (RegistersNone (edit item >>= fun _ => rest.forM edit))

/-! ## Operations on single nodes -/

instance (n : NodeId) (change : Node κ → Node κ) : RegistersNone (modifyNode n change) :=
  ⟨fun _ => rfl⟩

instance (tag : String) : RegistersNone (create tag : Edit κ NodeId) := by
  unfold create
  split
  · exact ⟨fun _ => rfl⟩
  · infer_instance

instance (n : NodeId) (text : String) : RegistersNone (setText n text : Edit κ Unit) :=
  ⟨fun doc => (KeepsHandlers.foldl_detach (doc.children n) doc).registered_eq⟩

instance (n : NodeId) (name : String) : RegistersNone (addClass n name : Edit κ Unit) := by
  unfold addClass
  infer_instance

instance (n : NodeId) (name value : String) :
    RegistersNone (setAttribute n name value : Edit κ Unit) := by
  unfold setAttribute
  infer_instance

instance (n : NodeId) (id : String) : RegistersNone (setId n id : Edit κ Unit) :=
  inferInstanceAs (RegistersNone (setAttribute n "id" id))

instance (parent child : NodeId) : RegistersNone (append parent child : Edit κ Unit) where
  registered_eq doc := by
    rcases after_append parent child doc with same | appended
    · rw [same]
    · rw [appended]
      exact ((KeepsHandlers.detach doc child).trans (.attach _ parent child)).registered_eq

instance (parent child : NodeId) : RegistersNone (remove parent child : Edit κ Unit) where
  registered_eq doc := by
    rcases after_remove parent child doc with same | removed
    · rw [same]
    · rw [removed]
      exact (KeepsHandlers.detach doc child).registered_eq

instance (n : NodeId) : RegistersNone (clearHandlers n : Edit κ Unit) := by
  unfold clearHandlers
  infer_instance

/-! ## Widgets without a page control -/

instance (tag : String) (classes : List String) :
    RegistersNone (createWithClasses tag classes : Edit κ NodeId) := by
  unfold createWithClasses
  infer_instance

instance (n : NodeId) : RegistersNone (releaseHandlers n : Edit κ Unit) := by
  unfold releaseHandlers
  infer_instance

instance (n : NodeId) : RegistersNone (clearContents n : Edit κ Unit) := by
  unfold clearContents
  infer_instance

set_option synthInstance.maxSize 1024 in
instance (container : NodeId) (id title : String) :
    RegistersNone (createCard container id title : Edit κ Card) := by
  unfold createCard
  infer_instance

set_option synthInstance.maxSize 1024 in
instance (container : NodeId) (columns : List String) :
    RegistersNone (createTable container columns : Edit κ NodeId) := by
  unfold createTable
  infer_instance

instance (row : NodeId) (value : CellValue) : RegistersNone (addCell row value : Edit κ NodeId) := by
  unfold addCell
  infer_instance

instance (body : NodeId) (values : List String) :
    RegistersNone (addRow body values : Edit κ NodeId) := by
  unfold addRow
  infer_instance

instance (body : NodeId) (count columns : Nat) :
    RegistersNone (addBlankRows body count columns : Edit κ Unit) := by
  unfold addBlankRows
  infer_instance

instance (container : NodeId) : RegistersNone (showAllGood container : Edit κ NodeId) := by
  unfold showAllGood
  infer_instance

instance (table : PagedTable) (index : UInt64) :
    RegistersNone (table.showPage index : Edit κ Unit) := by
  unfold PagedTable.showPage
  infer_instance

end Edit

/-! ## Handlers that are left -/

namespace Document

variable {κ : Type} {doc after : Document κ}

theorem NumberedChange.keepsHandlers (change : NumberedChange doc after)
    (same : after.registered = doc.registered) : KeepsHandlers doc after := by
  cases change with
  | keeping _ keeps => exact keeps
  | register n action => exact absurd same (Nat.succ_ne_self _)

theorem keepsHandlers_of_changes (changes : ReflTransGen NumberedChange doc after)
    (same : after.registered = doc.registered) : KeepsHandlers doc after := by
  induction changes with
  | refl => exact .refl doc
  | @tail middle after earlier change ih =>
      have low := (succeeds_of_changes earlier).registered_le
      have high := change.succeeds.registered_le
      have middle_eq : middle.registered = doc.registered := by omega
      apply (ih middle_eq).trans
      apply change.keepsHandlers
      rw [same, middle_eq]

end Document

namespace Operation

variable {ν α : Type}

def RegistersNone (operation : Operation ν α) : Prop :=
  Edit.RegistersNone operation.edit

theorem RegistersNone.keepsHandlers {operation : Operation ν α} (none : operation.RegistersNone)
    (doc : Document (Action ν)) :
    KeepsHandlers doc (operation.apply doc).2 := by
  apply keepsHandlers_of_changes (operation.numberedChanges doc)
  rw [operation.snd_apply]
  exact none.registered_eq doc

def mayRegister : Operation ν α → Bool
  | onClick .. | renderPager .. | renderReport .. | showReportPage .. => true
  | _ => false

theorem registersNone_of_not_mayRegister {operation : Operation ν α}
    (plain : operation.mayRegister = false) : operation.RegistersNone := by
  unfold RegistersNone
  cases operation with
  | onClick | renderPager | renderReport | showReportPage => cases plain
  | _ => unfold edit; infer_instance

end Operation

namespace Program

variable {ν σ α : Type}

inductive RegistersNone : Program ν σ α → Prop
  | done (result : α) : RegistersNone (.done result)
  | observe {next : World ν σ → Program ν σ α} (each : ∀ world, RegistersNone (next world)) :
      RegistersNone (.observe next)
  | setHost {host : σ} {next : Program ν σ α} (rest : RegistersNone next) :
      RegistersNone (.setHost host next)
  | perform {β : Type} {operation : Operation ν β} {next : Except Error β → Program ν σ α}
      (none : operation.RegistersNone) (each : ∀ result, RegistersNone (next result)) :
      RegistersNone (.perform operation next)
  | click {n : NodeId} {next : Program ν σ α} (rest : RegistersNone next) :
      RegistersNone (.click n next)
  | stop {next : Program ν σ α} (rest : RegistersNone next) : RegistersNone (.stop next)

end Program
end ReportCards
