import ReportCards.Click.Machine
import ReportCards.Proofs.Document.Stepwise

namespace ReportCards.Machine
open Relation Document

variable {ν σ : Type} {behaviour : Behaviour ν σ} {machine next : Machine ν σ}

inductive Reachable (behaviour : Behaviour ν σ) : Machine ν σ → Prop
  | first (host : σ) (program : Program ν σ Unit) :
      Reachable behaviour (.start { document := {}, host } program)
  | step {machine next : Machine ν σ} (before : Reachable behaviour machine)
      (move : machine.step behaviour = some next) : Reachable behaviour next
  | restart {machine : Machine ν σ} (before : Reachable behaviour machine) (host : σ)
      (program : Program ν σ Unit) :
      Reachable behaviour (.start { document := machine.world.document, host } program)

theorem numberedChanges_of_step (move : machine.step behaviour = some next) :
    ReflTransGen NumberedChange machine.world.document next.world.document := by
  obtain ⟨⟨document, host⟩, stack⟩ := machine
  unfold step at move
  cases stack with
  | nil => cases move
  | cons frame rest =>
      cases frame with
      | running handler program =>
          cases program with
          | perform operation next =>
              cases move
              exact operation.numberedChanges document
          | done | observe | setHost | click | stop =>
              cases move
              exact .refl
      | clicking pending path stopped =>
          cases pending with
          | nil =>
              cases path with
              | nil => cases move; exact .refl
              | cons n path => cases stopped <;> (cases move; exact .refl)
          | cons handler pending =>
              simp only at move
              split at move <;> (cases move; exact .refl)

theorem changes_of_step (move : machine.step behaviour = some next) :
    ReflTransGen Change machine.world.document next.world.document :=
  ReflTransGen.mono (fun _ _ change => change.change) _ _ (numberedChanges_of_step move)

namespace Reachable

theorem run (reachable : machine.Reachable behaviour) (steps : Nat) :
    (machine.run behaviour steps).Reachable behaviour := by
  induction steps generalizing machine with
  | zero => exact reachable
  | succ steps ih =>
      unfold Machine.run
      split
      · exact reachable
      · rename_i next move
        exact ih (reachable.step move)

theorem document (reachable : machine.Reachable behaviour) :
    machine.world.document.Reachable := by
  induction reachable with
  | first host program => exact .refl
  | step _ move ih => exact ih.trans (changes_of_step move)
  | restart _ host program ih => exact ih

theorem isNumbered (reachable : machine.Reachable behaviour) :
    machine.world.document.IsNumbered := by
  induction reachable with
  | first host program => exact isNumbered_empty
  | step _ move ih => exact ih.of_changes (numberedChanges_of_step move)
  | restart _ host program ih => exact ih

/-- Every document on the way from a reachable machine through an operation is a forest: the one
that the machine has reached, the ones after each elementary change that the operation is made of,
and the one that it leaves, whether it succeeds or fails. -/
theorem forest_throughout (reachable : machine.Reachable behaviour) :
    (∀ doc, ReflTransGen Change machine.world.document doc → doc.IsForest) ∧
      ∀ (α : Type) (operation : Operation ν α),
        ReflTransGen Change machine.world.document (operation.apply machine.world.document).2 := by
  constructor
  · intro doc changes
    exact reachable.document.isForest.of_changes changes
  · intro α operation
    exact operation.changes machine.world.document

def takingApart : Program Unit Unit Unit :=
  .perform (.create "div") fun _ => .perform (.create "p") fun _ => .perform (.append 0 1) fun _ =>
    .perform (.onClick 1 (.custom ())) fun _ => .click 1 (.done ())

def takeApart : Behaviour Unit Unit where
  onClick _ := .perform (.append 1 0) fun _ => .perform (.remove 0 1) fun _ => .done ()
  onChange _ _ := .done ()

theorem forest_throughout_takingApart :
    let machine := (start { document := {}, host := () } takingApart).run takeApart 8
    machine.Reachable takeApart ∧ machine.runningHandlers = [0] ∧
      (∀ doc, ReflTransGen Change machine.world.document doc → doc.IsForest) ∧
      ∀ (α : Type) (operation : Operation Unit α), ReflTransGen Change machine.world.document
        (operation.apply machine.world.document).2 := by
  intro machine
  have reachable : machine.Reachable takeApart := (first () takingApart).run 8
  exact ⟨reachable, rfl, reachable.forest_throughout⟩

end Reachable
end ReportCards.Machine
