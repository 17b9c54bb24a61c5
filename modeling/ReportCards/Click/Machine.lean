import ReportCards.Click.Program

/-!
# Clicks

A click visits the clicked node and then its ancestors, as they were when the click began. At each
node it calls the handlers that are registered when it gets there, in order. It ends after the first
node at which a handler stopped it. A handler that is still running further out is skipped.

Handlers run to completion and may click again, so what is going on at any moment is a stack: the
programs that are running and, between them, the clicks that called them. `Machine.step` does the
next thing.
-/
namespace ReportCards

inductive Frame (ν σ : Type) : Type 1 where
  | running (handler : Option Nat) (program : Program ν σ Unit)
  /-- A click: the handlers still to be called at the node it has reached, the nodes it has still
  to visit, and whether it was stopped at the node it has reached. -/
  | clicking (pending : List (Handler (Action ν))) (path : List NodeId) (stopped : Bool)

def Frame.handler? {ν σ : Type} : Frame ν σ → Option Nat
  | running handler _ => handler
  | clicking .. => none

def stopInnermost {ν σ : Type} : List (Frame ν σ) → List (Frame ν σ)
  | [] => []
  | .running handler program :: rest => .running handler program :: stopInnermost rest
  | .clicking pending path _ :: rest => .clicking pending path true :: rest

structure Machine (ν σ : Type) where
  world : World ν σ
  stack : List (Frame ν σ)

namespace Machine

variable {ν σ : Type}

def runningHandlers (machine : Machine ν σ) : List Nat :=
  machine.stack.filterMap Frame.handler?

def start (world : World ν σ) (program : Program ν σ Unit) : Machine ν σ :=
  { world, stack := [.running none program] }

def clickOn (doc : Document (Action ν)) (n : NodeId) : Frame ν σ :=
  .clicking [] (doc.path n) false

def step (behaviour : Behaviour ν σ) (machine : Machine ν σ) : Option (Machine ν σ) :=
  let { world, stack } := machine
  match stack with
  | [] => none
  | .running handler program :: rest =>
      match program with
      | .done _ => some { world, stack := rest }
      | .observe next => some { world, stack := .running handler (next world) :: rest }
      | .setHost host next =>
          some { world := { world with host }, stack := .running handler next :: rest }
      | .perform operation next =>
          let (result, document) := operation.apply world.document
          some { world := { world with document },
                 stack := .running handler (next result) :: rest }
      | .click n next =>
          some { world, stack := clickOn world.document n :: .running handler next :: rest }
      | .stop next => some { world, stack := .running handler next :: stopInnermost rest }
  | .clicking [] path stopped :: rest =>
      match path with
      | [] => some { world, stack := rest }
      | n :: path =>
          if stopped then some { world, stack := rest }
          else
            some { world, stack := .clicking (world.document.handlers n) path false :: rest }
  | .clicking (handler :: pending) path stopped :: rest =>
      let click := Frame.clicking pending path stopped :: rest
      if machine.runningHandlers.contains handler.serial then some { world, stack := click }
      else
        some { world, stack := .running handler.serial (handler.action.program behaviour) :: click }

def run (behaviour : Behaviour ν σ) : (steps : Nat) → Machine ν σ → Machine ν σ
  | 0, machine => machine
  | steps + 1, machine =>
      match machine.step behaviour with
      | none => machine
      | some next => next.run behaviour steps

def isIdle (machine : Machine ν σ) : Bool :=
  machine.stack.isEmpty

end Machine
end ReportCards
