import Mathlib.Data.List.Perm.Subperm
import Mathlib.Data.Nat.Find
import ReportCards.Proofs.Click.Dispatch
import ReportCards.Proofs.Click.Registration
import ReportCards.Proofs.Click.Settle

/-!
# Handlers that click

A handler may click any node, and so call others and come back to where it was called. A handler that is
running is skipped, so whenever a click calls a handler there is one less that can be called inside of it.
If no handler registers another one, every click ends: `clicksReturn` is an induction on the number of
handlers that are not running, and for each of them on its program.
-/
namespace ReportCards
open Relation Document

variable {ν σ : Type} {behaviour : Behaviour ν σ}

def Document.allHandlers {κ : Type} (doc : Document κ) : List (Handler κ) :=
  (List.range doc.size).flatMap doc.handlers

theorem Document.handlers_subset_allHandlers {κ : Type} (doc : Document κ) (n : NodeId) :
    doc.handlers n ⊆ doc.allHandlers := by
  intro handler member
  apply List.mem_flatMap.2
  refine ⟨n, ?_, member⟩
  rw [List.mem_range]
  by_contra unknown
  rw [handlers, node_eq_blank_of_size_le doc (Nat.not_lt.1 unknown)] at member
  cases member

/-! ## The handlers that are running -/

theorem filterMap_handler?_stopInnermost (stack : List (Frame ν σ)) :
    (stopInnermost stack).filterMap Frame.handler? = stack.filterMap Frame.handler? := by
  induction stack with
  | nil => rfl
  | cons top under ih =>
      cases top with
      | running who program => simp [stopInnermost, List.filterMap_cons, ih]
      | clicking pending path stopped => rfl

namespace Machine

variable {machine next begun : Machine ν σ} {running running' : List Nat}

inductive Turn : List Nat → List Nat → Prop
  | same (running : List Nat) : Turn running running
  | enter {serial : Nat} {running : List Nat} (free : serial ∉ running) :
      Turn running (serial :: running)
  | leave (serial : Nat) (running : List Nat) : Turn (serial :: running) running

theorem Turn.nodup (turn : Turn running running') (distinct : running.Nodup) : running'.Nodup := by
  cases turn with
  | same => exact distinct
  | enter free => exact List.nodup_cons.2 ⟨free, distinct⟩
  | leave serial => exact (List.nodup_cons.1 distinct).2

theorem turn_of_step (move : machine.step behaviour = some next) :
    Turn machine.runningHandlers next.runningHandlers := by
  obtain ⟨world, stack⟩ := machine
  unfold step at move
  cases stack with
  | nil => cases move
  | cons top under =>
      cases top with
      | running who program =>
          cases program with
          | done =>
              cases move
              cases who with
              | none => exact .same _
              | some serial => exact .leave serial _
          | observe | setHost | perform | click =>
              cases move
              exact .same _
          | stop goOn =>
              cases move
              have kept : runningHandlers ⟨world, .running who goOn :: stopInnermost under⟩ =
                  runningHandlers ⟨world, .running who (.stop goOn) :: under⟩ := by
                simp [runningHandlers, List.filterMap_cons, filterMap_handler?_stopInnermost,
                  Frame.handler?]
              rw [kept]
              exact .same _
      | clicking pending path stopped =>
          cases pending with
          | nil =>
              cases path with
              | nil => cases move; exact .same _
              | cons n path => cases stopped <;> (cases move; exact .same _)
          | cons handler pending =>
              simp only at move
              split at move
              · cases move
                exact .same _
              · rename_i free
                cases move
                apply Turn.enter
                simpa using free

theorem Reachable.nodup_runningHandlers (reachable : machine.Reachable behaviour) :
    machine.runningHandlers.Nodup := by
  induction reachable with
  | first host program => exact .nil
  | step _ move ih => exact (turn_of_step move).nodup ih
  | restart _ host program => exact .nil

theorem step_consider (behaviour : Behaviour ν σ) (world : World ν σ) (handler : Handler (Action ν))
    (pending : List (Handler (Action ν))) (path : List NodeId) (stopped : Bool)
    (below : List (Frame ν σ)) :
    step behaviour { world, stack := .clicking (handler :: pending) path stopped :: below } =
      some
        { world
          stack :=
            if handler.serial ∈ below.filterMap Frame.handler? then .clicking pending path stopped :: below
            else .running (some handler.serial) (handler.action.program behaviour) ::
              .clicking pending path stopped :: below } := by
  have same : runningHandlers ⟨world, .clicking (handler :: pending) path stopped :: below⟩ =
      below.filterMap Frame.handler? := rfl
  simp only [step, same, List.contains_iff_mem]
  split <;> rfl

/-! ## What runs inside of a click -/

variable {crew : List (Handler (Action ν))} {below stack : List (Frame ν σ)}

/-- The stack stands on `below`, and what stands between are clicks and, right on the clicks that called
them, handlers of the crew. -/
inductive Inside (crew : List (Handler (Action ν))) (below : List (Frame ν σ)) :
    List (Frame ν σ) → Prop
  | nothing : Inside crew below below
  | clicking {pending : List (Handler (Action ν))} {path : List NodeId} {stopped : Bool}
      {stack : List (Frame ν σ)} (called : pending ⊆ crew) (under : Inside crew below stack) :
      Inside crew below (.clicking pending path stopped :: stack)
  | running {serial : Nat} {program : Program ν σ Unit} {pending : List (Handler (Action ν))}
      {path : List NodeId} {stopped : Bool} {stack : List (Frame ν σ)}
      (member : serial ∈ crew.map Handler.serial) (silent : program.RegistersNone)
      (called : pending ⊆ crew) (under : Inside crew below stack) :
      Inside crew below (.running (some serial) program :: .clicking pending path stopped :: stack)

theorem Inside.filterMap_eq (inside : Inside crew below stack) :
    ∃ inner, stack.filterMap Frame.handler? = inner ++ below.filterMap Frame.handler? ∧
      inner ⊆ crew.map Handler.serial := by
  induction inside with
  | nothing => exact ⟨[], rfl, List.nil_subset _⟩
  | clicking _ _ ih => exact ih
  | @running serial program pending path stopped stack member _ _ _ ih =>
      obtain ⟨inner, running, subset⟩ := ih
      refine ⟨serial :: inner, ?_, List.cons_subset.2 ⟨member, subset⟩⟩
      exact congrArg (serial :: ·) running

theorem Inside.ne_nil (inside : Inside crew below stack) (some : below ≠ []) : stack ≠ [] := by
  cases inside with
  | nothing => exact some
  | clicking | running => exact List.cons_ne_nil _ _

structure Confined (crew : List (Handler (Action ν))) (below : List (Frame ν σ))
    (machine : Machine ν σ) : Prop where
  registered : ∀ n, machine.world.document.handlers n ⊆ crew
  inside : Inside crew below machine.stack

theorem Confined.step (confined : Confined crew below machine)
    (silent : ∀ handler ∈ crew, (handler.action.program behaviour).RegistersNone)
    (notOver : machine.stack ≠ below) (move : machine.step behaviour = some next) :
    Confined crew below next := by
  obtain ⟨world, frames⟩ := machine
  obtain ⟨registered, inside⟩ := confined
  simp only at registered inside
  cases inside with
  | nothing => exact absurd rfl notOver
  | @clicking pending path stopped stack called under =>
      cases pending with
      | nil =>
          cases path with
          | nil => cases move; exact ⟨registered, under⟩
          | cons n path =>
              cases stopped with
              | true => cases move; exact ⟨registered, under⟩
              | false => cases move; exact ⟨registered, .clicking (registered n) under⟩
      | cons handler pending =>
          rw [List.cons_subset] at called
          simp only [Machine.step] at move
          split at move
          · cases move
            exact ⟨registered, .clicking called.2 under⟩
          · cases move
            have member := List.mem_map_of_mem (f := Handler.serial) called.1
            exact ⟨registered, .running member (silent handler called.1) called.2 under⟩
  | @running serial program pending path stopped stack member quiet called under =>
      cases quiet with
      | done => cases move; exact ⟨registered, .clicking called under⟩
      | observe each => cases move; exact ⟨registered, .running member (each world) called under⟩
      | setHost rest => cases move; exact ⟨registered, .running member rest called under⟩
      | perform none each =>
          cases move
          have kept := none.keepsHandlers world.document
          refine ⟨fun n => ?_, .running member (each _) called under⟩
          exact List.Subset.trans (kept.sublist n).subset (registered n)
      | click rest =>
          cases move
          exact ⟨registered, .clicking (List.nil_subset _) (.running member rest called under)⟩
      | stop rest => cases move; exact ⟨registered, .running member rest called under⟩

theorem Confined.run (confined : Confined crew below begun)
    (silent : ∀ handler ∈ crew, (handler.action.program behaviour).RegistersNone) (now : Nat)
    (notOver : ∀ earlier < now, (begun.run behaviour earlier).stack ≠ below) :
    Confined crew below (begun.run behaviour now) := by
  induction now with
  | zero => exact confined
  | succ now ih =>
      have before := ih fun earlier less => notOver earlier (Nat.lt_succ_of_lt less)
      rw [run_succ]
      cases move : (begun.run behaviour now).step behaviour with
      | none => exact before
      | some next => exact before.step silent (notOver now (Nat.lt_succ_self now)) move

/-! ## Clicks end -/

def idleHandlers (crew : List (Handler (Action ν))) (running : List Nat) : List (Handler (Action ν)) :=
  crew.filter (·.serial ∉ running)

theorem length_idleHandlers_lt {handler : Handler (Action ν)} (member : handler ∈ crew)
    (free : handler.serial ∉ running) :
    (idleHandlers crew (handler.serial :: running)).length < (idleHandlers crew running).length := by
  have fewer : idleHandlers crew (handler.serial :: running) =
      (idleHandlers crew running).filter (·.serial ≠ handler.serial) := by
    rw [idleHandlers, idleHandlers, List.filter_filter]
    apply List.filter_congr
    intro other _
    simp
  rw [fewer, List.length_filter_lt_length_iff_exists]
  refine ⟨handler, List.mem_filter.2 ⟨member, by simpa using free⟩, by simp⟩

def Returns (behaviour : Behaviour ν σ) (crew : List (Handler (Action ν))) (machine : Machine ν σ)
    (below : List (Frame ν σ)) : Prop :=
  ∃ world : World ν σ, (∀ n, world.document.handlers n ⊆ crew) ∧
    Steps behaviour machine { world, stack := below }

theorem Returns.head (move : machine.step behaviour = some next)
    (returns : Returns behaviour crew next below) : Returns behaviour crew machine below := by
  obtain ⟨world, registered, steps⟩ := returns
  exact ⟨world, registered, .head move steps⟩

/-- Whenever a program on top of the stack clicks, the click ends. -/
def ClicksReturn (behaviour : Behaviour ν σ) (crew : List (Handler (Action ν)))
    (stack : List (Frame ν σ)) : Prop :=
  ∀ (world : World ν σ) (n : NodeId), (∀ m, world.document.handlers m ⊆ crew) →
    Returns behaviour crew { world, stack := clickOn world.document n :: stack } stack

variable {pending : List (Handler (Action ν))} {path : List NodeId}

theorem program_returns {serial : Nat} {program : Program ν σ Unit} (silent : program.RegistersNone)
    (clicks : ∀ goOn stopped, ClicksReturn behaviour crew
      (.running (some serial) goOn :: .clicking pending path stopped :: below))
    (world : World ν σ) (registered : ∀ n, world.document.handlers n ⊆ crew) (stopped : Bool) :
    ∃ stopped', Returns behaviour crew
      { world, stack := .running (some serial) program :: .clicking pending path stopped :: below }
      (.clicking pending path stopped' :: below) := by
  induction silent generalizing world stopped with
  | done => exact ⟨stopped, world, registered, .head rfl .refl⟩
  | observe each ih =>
      obtain ⟨stopped', returns⟩ := ih world world registered stopped
      exact ⟨stopped', returns.head rfl⟩
  | @setHost host goOn rest ih =>
      obtain ⟨stopped', returns⟩ := ih { world with host } registered stopped
      exact ⟨stopped', returns.head rfl⟩
  | @perform β operation goOn none each ih =>
      have kept := none.keepsHandlers world.document
      obtain ⟨stopped', returns⟩ := ih (operation.apply world.document).1
        { world with document := (operation.apply world.document).2 }
        (fun n => List.Subset.trans (kept.sublist n).subset (registered n)) stopped
      exact ⟨stopped', returns.head rfl⟩
  | @click n goOn rest ih =>
      -- The program goes on from where the click has ended, with whatever is left of the handlers.
      obtain ⟨between, registered', steps⟩ := clicks goOn stopped world n registered
      obtain ⟨stopped', last, registered'', steps'⟩ := ih between registered' stopped
      exact ⟨stopped', last, registered'', .head rfl (steps.trans steps')⟩
  | stop rest ih =>
      obtain ⟨stopped', returns⟩ := ih world registered true
      exact ⟨stopped', returns.head rfl⟩

section

variable (silent : ∀ handler ∈ crew, (handler.action.program behaviour).RegistersNone)
  (clicks : ∀ serial ∈ crew.map Handler.serial, serial ∉ below.filterMap Frame.handler? →
    ∀ goOn pending path stopped, ClicksReturn behaviour crew
      (.running (some serial) goOn :: .clicking pending path stopped :: below))
include silent clicks

theorem pending_returns (called : pending ⊆ crew) (world : World ν σ)
    (registered : ∀ n, world.document.handlers n ⊆ crew) (stopped : Bool) :
    ∃ stopped', Returns behaviour crew { world, stack := .clicking pending path stopped :: below }
      (.clicking [] path stopped' :: below) := by
  induction pending generalizing world stopped with
  | nil => exact ⟨stopped, world, registered, .refl⟩
  | cons handler pending ih =>
      rw [List.cons_subset] at called
      by_cases busy : handler.serial ∈ below.filterMap Frame.handler?
      · obtain ⟨stopped', returns⟩ := ih called.2 world registered stopped
        refine ⟨stopped', returns.head ?_⟩
        rw [step_consider, if_pos busy]
      · have member := List.mem_map_of_mem (f := Handler.serial) called.1
        obtain ⟨between, world', registered', steps⟩ := program_returns (silent handler called.1)
          (fun goOn => clicks handler.serial member busy goOn pending path) world registered stopped
        obtain ⟨stopped', last, registered'', steps'⟩ := ih called.2 world' registered' between
        refine ⟨stopped', last, registered'', .head ?_ (steps.trans steps')⟩
        rw [step_consider, if_neg busy]

theorem path_returns (called : pending ⊆ crew) (world : World ν σ)
    (registered : ∀ n, world.document.handlers n ⊆ crew) (stopped : Bool) :
    Returns behaviour crew { world, stack := .clicking pending path stopped :: below } below := by
  induction path generalizing pending world stopped with
  | nil =>
      obtain ⟨stopped', world', registered', steps⟩ :=
        pending_returns silent clicks called world registered stopped
      exact ⟨world', registered', steps.trans (.head rfl .refl)⟩
  | cons n path ih =>
      obtain ⟨stopped', world', registered', steps⟩ :=
        pending_returns silent clicks called world registered stopped
      cases stopped' with
      | true => exact ⟨world', registered', steps.trans (.head rfl .refl)⟩
      | false =>
          obtain ⟨last, registered'', steps'⟩ := ih (registered' n) world' registered' false
          exact ⟨last, registered'', steps.trans (.head rfl steps')⟩

end

theorem clicksReturn (silent : ∀ handler ∈ crew, (handler.action.program behaviour).RegistersNone)
    (below : List (Frame ν σ)) : ClicksReturn behaviour crew below := by
  -- A click inside of a handler has that handler less to call.
  induction size : (idleHandlers crew (below.filterMap Frame.handler?)).length using Nat.strong_induction_on
    generalizing below with
  | _ size ih =>
      intro world n registered
      apply path_returns silent _ (List.nil_subset _) world registered
      intro serial member free goOn pending path stopped
      obtain ⟨handler, inCrew, rfl⟩ := List.mem_map.1 member
      apply ih _ _ _ rfl
      rw [← size]
      exact length_idleHandlers_lt inCrew free

theorem exists_run_of_steps (steps : Steps behaviour machine next) :
    ∃ now, machine.run behaviour now = next := by
  induction steps using ReflTransGen.head_induction_on with
  | refl => exact ⟨0, rfl⟩
  | @head machine between move _ ih =>
      obtain ⟨now, arrives⟩ := ih
      refine ⟨now + 1, ?_⟩
      rw [run, move]
      exact arrives

theorem Returns.exists_first (returns : Returns behaviour crew machine below) :
    ∃ last, (machine.run behaviour last).stack = below ∧
      ∀ now < last, (machine.run behaviour now).stack ≠ below := by
  classical
  obtain ⟨world, -, steps⟩ := returns
  obtain ⟨now, arrives⟩ := exists_run_of_steps steps
  have arrival : ∃ now, (machine.run behaviour now).stack = below := ⟨now, by rw [arrives]⟩
  exact ⟨Nat.find arrival, Nat.find_spec arrival, fun earlier less => Nat.find_min arrival less⟩

/-! ## The order of a run -/

/-- What holds at a moment and of the step that comes next, when the handlers with the serial numbers
`outer` were running and those of the crew were registered in the beginning. -/
structure Orderly (behaviour : Behaviour ν σ) (crew : List (Handler (Action ν))) (outer : List Nat)
    (current next : Machine ν σ) : Prop where
  distinct : current.runningHandlers.Nodup
  inner : ∃ inner, current.runningHandlers = inner ++ outer ∧
    inner ⊆ crew.map Handler.serial ∧ inner.length ≤ crew.length
  turn : Turn current.runningHandlers next.runningHandlers
  enters : ∀ handler pending path stopped below,
    current.stack = .clicking (handler :: pending) path stopped :: below →
      next.stack =
        if handler.serial ∈ current.runningHandlers then .clicking pending path stopped :: below
        else .running (some handler.serial) (handler.action.program behaviour) ::
          .clicking pending path stopped :: below
  leaves : ∀ serial below, current.stack = .running (some serial) (.done ()) :: below →
    next.stack = below ∧ serial ∉ next.runningHandlers

theorem Confined.orderly (reachable : machine.Reachable behaviour)
    (confined : Confined crew below machine) (move : machine.step behaviour = some next) :
    Orderly behaviour crew (below.filterMap Frame.handler?) machine next := by
  have distinct := reachable.nodup_runningHandlers
  obtain ⟨inner, running, subset⟩ := confined.inside.filterMap_eq
  change machine.runningHandlers = _ at running
  refine ⟨distinct, ⟨inner, running, subset, ?_⟩, turn_of_step move, ?_, ?_⟩
  · rw [running, List.nodup_append] at distinct
    have fewer := (List.subperm_of_subset distinct.1 subset).length_le
    rwa [List.length_map] at fewer
  · intro handler pending path stopped under stack
    obtain ⟨world, frames⟩ := machine
    cases stack
    rw [step_consider] at move
    cases move
    rfl
  · intro serial under stack
    obtain ⟨world, frames⟩ := machine
    cases stack
    cases move
    exact ⟨rfl, (List.nodup_cons.1 distinct).1⟩

/-- A click that a program is about to make ends, if no handler of the document registers another one.
Until then no handler is entered that is running, and a handler can be entered again when it has
returned. -/
theorem nested_clicks_end (reachable : machine.Reachable behaviour) {who : Option Nat} {n : NodeId}
    {goOn : Program ν σ Unit} {rest : List (Frame ν σ)}
    (clicks : machine.stack = .running who (.click n goOn) :: rest)
    (silent : ∀ m, ∀ handler ∈ machine.world.document.handlers m,
      (handler.action.program behaviour).RegistersNone) :
    ∃ begun last, machine.step behaviour = some begun ∧
      (begun.run behaviour last).stack = .running who goOn :: rest ∧
      ∀ now < last, Orderly behaviour machine.world.document.allHandlers machine.runningHandlers
        (begun.run behaviour now) (begun.run behaviour (now + 1)) := by
  obtain ⟨world, frames⟩ := machine
  cases clicks
  have registered := world.document.handlers_subset_allHandlers
  have quiet : ∀ handler ∈ world.document.allHandlers,
      (handler.action.program behaviour).RegistersNone := by
    intro handler member
    obtain ⟨m, -, onNode⟩ := List.mem_flatMap.1 member
    exact silent m handler onNode
  let below : List (Frame ν σ) := .running who goOn :: rest
  let begun : Machine ν σ := { world, stack := clickOn world.document n :: below }
  have reachable' : begun.Reachable behaviour := reachable.step rfl
  have confined : Confined world.document.allHandlers below begun :=
    ⟨registered, .clicking (List.nil_subset _) .nothing⟩
  have returns : Returns behaviour world.document.allHandlers begun below :=
    clicksReturn quiet below world n registered
  obtain ⟨last, back, notBack⟩ := returns.exists_first
  refine ⟨begun, last, rfl, back, fun now less => ?_⟩
  have confined' : Confined world.document.allHandlers below (begun.run behaviour now) :=
    confined.run quiet now fun earlier before => notBack earlier (before.trans less)
  obtain ⟨next, move⟩ := exists_step behaviour (confined'.inside.ne_nil (List.cons_ne_nil _ _))
  have orderly := confined'.orderly (reachable'.run now) move
  rw [run_succ, move, Option.getD_some]
  exact orderly

def buttonInPage : Program Nat Unit Unit :=
  .perform (.create "div") fun _ => .perform (.create "button") fun _ =>
    .perform (.append 0 1) fun _ => .perform (.onClick 1 (.custom 0)) fun _ =>
      .perform (.onClick 0 (.custom 1)) fun _ => .click 1 (.done ())

def inCircles : Behaviour Nat Unit where
  onClick
    | 0 => .click 1 (.click 0 (.done ()))
    | _ => .perform (.remove 0 1) fun _ => .click 1 (.done ())
  onChange _ _ := .done ()

theorem nested_clicks_end_inCircles :
    let machine := (start { document := {}, host := () } buttonInPage).run inCircles 5
    machine.Reachable inCircles ∧ machine.stack = [.running none (.click 1 (.done ()))] ∧
      machine.world.document.allHandlers.length = 2 ∧
      (machine.run inCircles 8).runningHandlers = [1, 0] ∧
      ∃ begun last, machine.step inCircles = some begun ∧
        (begun.run inCircles last).stack = [.running none (.done ())] ∧
        ∀ now < last, Orderly inCircles machine.world.document.allHandlers machine.runningHandlers
          (begun.run inCircles now) (begun.run inCircles (now + 1)) := by
  intro machine
  have reachable : machine.Reachable inCircles := (Reachable.first () buttonInPage).run 5
  have clicks : machine.stack = [.running none (.click 1 (.done ()))] := rfl
  have all : machine.world.document.allHandlers = [⟨1, .custom 1⟩, ⟨0, .custom 0⟩] := rfl
  refine ⟨reachable, clicks, rfl, rfl, nested_clicks_end reachable clicks fun m handler member => ?_⟩
  have registered := machine.world.document.handlers_subset_allHandlers m member
  rw [all, List.mem_pair] at registered
  rcases registered with rfl | rfl
  · exact .perform (Operation.registersNone_of_not_mayRegister rfl) fun _ => .click (.done ())
  · exact .click (.click (.done ()))

end Machine
end ReportCards
