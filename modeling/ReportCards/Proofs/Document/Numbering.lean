import Mathlib.Data.List.Nodup
import ReportCards.Proofs.Document.Change

namespace ReportCards.Document
open Relation

variable {κ : Type} {doc middle after : Document κ} {n m : NodeId}

structure KeepsHandlers (doc after : Document κ) : Prop where
  registered_eq : after.registered = doc.registered
  sublist : ∀ n, (after.handlers n).Sublist (doc.handlers n)

namespace KeepsHandlers

theorem refl (doc : Document κ) : KeepsHandlers doc doc :=
  ⟨rfl, fun _ => .refl _⟩

theorem trans (first : KeepsHandlers doc middle) (second : KeepsHandlers middle after) :
    KeepsHandlers doc after :=
  ⟨second.registered_eq.trans first.registered_eq, fun n => (second.sublist n).trans (first.sublist n)⟩

theorem insert (doc : Document κ) (tag : String) : KeepsHandlers doc (doc.insert { tag }) where
  registered_eq := rfl
  sublist m := by
    rw [handlers, node_insert]
    split
    · exact List.nil_sublist _
    · exact .refl _

theorem update (doc : Document κ) (n : NodeId) {change : Node κ → Node κ}
    (keeps : ∀ node, (change node).handlers.Sublist node.handlers) :
    KeepsHandlers doc (doc.update n change) where
  registered_eq := rfl
  sublist m := by
    rw [handlers, node_update]
    split
    · exact keeps _
    · exact .refl _

theorem detach (doc : Document κ) (c : NodeId) : KeepsHandlers doc (doc.detach c) where
  registered_eq := by
    unfold Document.detach
    split <;> rfl
  sublist m := by
    rw [handlers, node_detach]
    exact .refl _

theorem foldl_detach (nodes : List NodeId) (doc : Document κ) :
    KeepsHandlers doc (nodes.foldl Document.detach doc) := by
  induction nodes generalizing doc with
  | nil => exact .refl doc
  | cons c rest ih => exact (detach doc c).trans (ih _)

theorem attach (doc : Document κ) (p c : NodeId) : KeepsHandlers doc (doc.attach p c) := by
  have linked : KeepsHandlers doc (doc.update c fun node => { node with parent := some p }) :=
    update doc c fun _ => .refl _
  refine linked.trans (update _ p ?_)
  exact fun _ => .refl _

end KeepsHandlers

def register (doc : Document κ) (n : NodeId) (action : κ) : Document κ :=
  ({ doc with registered := doc.registered + 1 } : Document κ).update n fun node =>
    { node with handlers := node.handlers ++ [{ serial := doc.registered, action }] }

theorem handlers_register (doc : Document κ) (n : NodeId) (action : κ) (m : NodeId) :
    (doc.register n action).handlers m =
      if n = m ∧ m < doc.size then doc.handlers m ++ [{ serial := doc.registered, action }]
      else doc.handlers m := by
  rw [handlers, register, node_update]
  split
  · rename_i both
    exact (if_pos both).symm
  · rename_i other
    exact (if_neg other).symm

theorem mem_handlers_register {action : κ} {handler : Handler κ}
    (member : handler ∈ (doc.register n action).handlers m) :
    handler ∈ doc.handlers m ∨ m = n ∧ handler.serial = doc.registered := by
  rw [handlers_register] at member
  split at member
  · rename_i both
    rcases List.mem_append.1 member with old | new
    · exact .inl old
    · cases List.mem_singleton.1 new
      exact .inr ⟨both.1.symm, rfl⟩
  · exact .inl member

inductive NumberedChange : Document κ → Document κ → Prop
  | keeping {doc after : Document κ} (change : Change doc after) (keeps : KeepsHandlers doc after) :
      NumberedChange doc after
  | register (doc : Document κ) (n : NodeId) (action : κ) : NumberedChange doc (doc.register n action)

theorem NumberedChange.change (change : NumberedChange doc after) : Change doc after := by
  cases change with
  | keeping change keeps => exact change
  | register n action => exact .onClick doc n _

/-! ## What the numbers tell -/

structure IsNumbered (doc : Document κ) : Prop where
  lt_registered : ∀ n, ∀ handler ∈ doc.handlers n, handler.serial < doc.registered
  nodup : ∀ n, ((doc.handlers n).map Handler.serial).Nodup
  apart : ∀ n m, n ≠ m → ∀ first ∈ doc.handlers n, ∀ second ∈ doc.handlers m,
    first.serial ≠ second.serial

/-- A later document: every handler is still on its node or has a number that was not given out. -/
structure Succeeds (after doc : Document κ) : Prop where
  registered_le : doc.registered ≤ after.registered
  old_or_new : ∀ n, ∀ handler ∈ after.handlers n,
    handler ∈ doc.handlers n ∨ doc.registered ≤ handler.serial

theorem Succeeds.refl (doc : Document κ) : doc.Succeeds doc :=
  ⟨Nat.le_refl _, fun _ _ member => .inl member⟩

theorem Succeeds.trans (second : after.Succeeds middle) (first : middle.Succeeds doc) :
    after.Succeeds doc where
  registered_le := Nat.le_trans first.registered_le second.registered_le
  old_or_new n handler member := by
    rcases second.old_or_new n handler member with old | new
    · exact first.old_or_new n handler old
    · exact .inr (Nat.le_trans first.registered_le new)

theorem Succeeds.eq_of_serial_eq (later : after.Succeeds doc) (numbered : doc.IsNumbered)
    {first second : Handler κ} (before : first ∈ doc.handlers n) (now : second ∈ after.handlers m)
    (same : second.serial = first.serial) : m = n ∧ second = first := by
  rcases later.old_or_new m second now with kept | new
  · have place : m = n := by
      by_contra different
      exact numbered.apart m n different second kept first before same
    subst place
    exact ⟨rfl, List.inj_on_of_nodup_map (numbered.nodup m) kept before same⟩
  · rw [same] at new
    exact absurd (numbered.lt_registered n first before) (Nat.not_lt.2 new)

theorem NumberedChange.succeeds (change : NumberedChange doc after) : after.Succeeds doc := by
  cases change with
  | keeping change keeps =>
      exact ⟨Nat.le_of_eq keeps.registered_eq.symm,
        fun n handler member => .inl ((keeps.sublist n).subset member)⟩
  | register n action =>
      exact ⟨Nat.le_succ _,
        fun m handler member => (mem_handlers_register member).imp_right fun new => Nat.le_of_eq new.2.symm⟩

theorem isNumbered_empty : ({} : Document κ).IsNumbered where
  lt_registered n := by simp [handlers, Document.node]
  nodup n := by simp [handlers, Document.node]
  apart n := by simp [handlers, Document.node]

theorem NumberedChange.isNumbered (change : NumberedChange doc after) (numbered : doc.IsNumbered) :
    after.IsNumbered := by
  cases change with
  | keeping change keeps =>
      refine ⟨fun n handler member => ?_, fun n => ?_, fun n m different first inFirst second inSecond => ?_⟩
      · rw [keeps.registered_eq]
        exact numbered.lt_registered n handler ((keeps.sublist n).subset member)
      · exact (numbered.nodup n).sublist ((keeps.sublist n).map _)
      · exact numbered.apart n m different first ((keeps.sublist n).subset inFirst) second
          ((keeps.sublist m).subset inSecond)
  | register n action =>
      have fresh {m : NodeId} {handler : Handler κ} (member : handler ∈ doc.handlers m) :
          handler.serial ≠ doc.registered :=
        Nat.ne_of_lt (numbered.lt_registered m handler member)
      refine ⟨fun m handler member => ?_, fun m => ?_, fun m m' different first inFirst second inSecond => ?_⟩
      · rcases mem_handlers_register member with old | new
        · exact Nat.lt_succ_of_lt (numbered.lt_registered m handler old)
        · exact Nat.lt_succ_of_le (Nat.le_of_eq new.2)
      · rw [handlers_register]
        split
        · rw [List.map_append, List.map_cons, List.map_nil]
          refine List.nodup_append.2 ⟨numbered.nodup m, List.pairwise_singleton _ _, ?_⟩
          intro serial old new isNew
          obtain ⟨handler, member, rfl⟩ := List.mem_map.1 old
          rw [List.mem_singleton.1 isNew]
          exact fresh member
        · exact numbered.nodup m
      · rcases mem_handlers_register inFirst with old | ⟨rfl, new⟩
        · rcases mem_handlers_register inSecond with old' | ⟨rfl, new'⟩
          · exact numbered.apart m m' different first old second old'
          · rw [new']
            exact fresh old
        · rcases mem_handlers_register inSecond with old' | ⟨rfl, new'⟩
          · rw [new]
            exact (fresh old').symm
          · exact absurd rfl different

theorem succeeds_of_changes (changes : ReflTransGen NumberedChange doc after) : after.Succeeds doc := by
  induction changes with
  | refl => exact .refl doc
  | tail _ change ih => exact change.succeeds.trans ih

theorem IsNumbered.of_changes (numbered : doc.IsNumbered)
    (changes : ReflTransGen NumberedChange doc after) : after.IsNumbered := by
  induction changes with
  | refl => exact numbered
  | tail _ change ih => exact change.isNumbered ih

end ReportCards.Document
