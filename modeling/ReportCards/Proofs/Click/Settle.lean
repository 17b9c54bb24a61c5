import Mathlib.Logic.Relation
import ReportCards.Proofs.Click.Reachable

namespace ReportCards
open Relation

variable {ν σ : Type} {behaviour : Behaviour ν σ}

namespace Machine

variable {machine middle first second : Machine ν σ}

def Steps (behaviour : Behaviour ν σ) : Machine ν σ → Machine ν σ → Prop :=
  ReflTransGen fun machine next => machine.step behaviour = some next

theorem Steps.head (move : machine.step behaviour = some middle)
    (rest : Steps behaviour middle second) : Steps behaviour machine second :=
  ReflTransGen.head move rest

theorem Steps.total (toFirst : Steps behaviour machine first)
    (toSecond : Steps behaviour machine second) :
    Steps behaviour first second ∨ Steps behaviour second first := by
  refine ReflTransGen.total_of_right_unique (fun a b c left right => ?_) toFirst toSecond
  rw [left] at right
  exact Option.some.inj right

theorem Steps.eq_of_idle {world : World ν σ} (steps : Steps behaviour { world, stack := [] } second) :
    second = { world, stack := [] } := by
  rcases ReflTransGen.cases_head steps with same | ⟨next, move, -⟩
  · exact same.symm
  · cases move

theorem Steps.idle_iff (steps : Steps behaviour machine middle) (world : World ν σ) :
    Steps behaviour machine { world, stack := [] } ↔
      Steps behaviour middle { world, stack := [] } := by
  refine ⟨fun toIdle => ?_, fun rest => steps.trans rest⟩
  rcases steps.total toIdle with rest | back
  · exact rest
  · rw [back.eq_of_idle]
    exact .refl

end Machine

open Machine

def Settles (behaviour : Behaviour ν σ) (world : World ν σ) (program : Program ν σ Unit)
    (world' : World ν σ) : Prop :=
  Steps behaviour (.start world program) { world := world', stack := [] }

theorem Settles.unique {world first second : World ν σ} {program : Program ν σ Unit}
    (toFirst : Settles behaviour world program first)
    (toSecond : Settles behaviour world program second) : first = second := by
  rcases toFirst.total toSecond with steps | steps
  · exact (congrArg Machine.world steps.eq_of_idle).symm
  · exact congrArg Machine.world steps.eq_of_idle

theorem Settles.changes {world world' : World ν σ} {program : Program ν σ Unit}
    (settles : Settles behaviour world program world') :
    ReflTransGen Document.Change world.document world'.document := by
  have along {first last : Machine ν σ} (steps : Steps behaviour first last) :
      ReflTransGen Document.Change first.world.document last.world.document := by
    induction steps with
    | refl => exact .refl
    | tail _ move ih => exact ih.trans (changes_of_step move)
  exact along settles

/-! ## Parts of programs -/

namespace Program

/-- Wherever the program stands, it gets from the one world to the other. -/
def Completes (behaviour : Behaviour ν σ) (world : World ν σ) (program : Program ν σ Unit)
    (world' : World ν σ) : Prop :=
  ∀ (handler : Option Nat) (next : Unit → Program ν σ Unit) (rest : List (Frame ν σ)),
    Steps behaviour { world, stack := .running handler (program.bind next) :: rest }
      { world := world', stack := .running handler (next ()) :: rest }

theorem completes_perform (operation : Operation ν Unit) (doc : Document (Action ν)) (host : σ) :
    Completes behaviour { document := doc, host } (.perform operation fun _ => .done ())
      { document := (operation.apply doc).2, host } :=
  fun _ _ _ => .head rfl .refl

theorem Completes.bind {world middle world' : World ν σ} {first second : Program ν σ Unit}
    (toMiddle : first.Completes behaviour world middle)
    (toEnd : second.Completes behaviour middle world') :
    (first.bind fun _ => second).Completes behaviour world world' := by
  intro handler next rest
  have both : (first.bind fun _ => second).bind next = first.bind fun _ => second.bind next :=
    bind_assoc first (fun _ => second) next
  rw [both]
  exact (toMiddle handler _ rest).trans (toEnd handler next rest)

inductive LeavesAlone (doc : Document (Action ν)) : Program ν σ Unit → Prop
  | done : LeavesAlone doc (.done ())
  | observe {next : World ν σ → Program ν σ Unit}
      (each : ∀ host, LeavesAlone doc (next { document := doc, host })) :
      LeavesAlone doc (.observe next)
  | setHost {host : σ} {next : Program ν σ Unit} (rest : LeavesAlone doc next) :
      LeavesAlone doc (.setHost host next)
  | perform {α : Type} {operation : Operation ν α} {next : Except Error α → Program ν σ Unit}
      (same : (operation.apply doc).2 = doc) (rest : LeavesAlone doc (next (operation.apply doc).1)) :
      LeavesAlone doc (.perform operation next)
  | stop {next : Program ν σ Unit} (rest : LeavesAlone doc next) : LeavesAlone doc (.stop next)

/-- Such a program ends, and it makes no difference to the world whether its attempts to stop a click
are left out. -/
theorem LeavesAlone.ends {doc : Document (Action ν)} {program : Program ν σ Unit}
    (alone : LeavesAlone doc program) (behaviour : Behaviour ν σ) (host : σ) :
    ∃ host', Settles behaviour { document := doc, host } program { document := doc, host := host' } ∧
      Completes behaviour { document := doc, host } program.withoutStop
        { document := doc, host := host' } := by
  induction alone generalizing host with
  | done => exact ⟨host, .head rfl .refl, fun _ _ _ => .refl⟩
  | observe each ih =>
      obtain ⟨host', settles, completes⟩ := ih host host
      refine ⟨host', .head rfl settles, fun handler next rest => ?_⟩
      exact .head rfl (completes handler next rest)
  | @setHost between next rest ih =>
      obtain ⟨host', settles, completes⟩ := ih between
      refine ⟨host', .head rfl settles, fun handler next rest => ?_⟩
      exact .head rfl (completes handler next rest)
  | perform same rest ih =>
      obtain ⟨host', settles, completes⟩ := ih host
      refine ⟨host', .head ?_ settles, fun handler next rest => .head ?_ (completes handler next rest)⟩
      · simp only [step, start, same]
      · simp only [step, withoutStop, Program.bind, same]
  | stop rest ih =>
      obtain ⟨host', settles, completes⟩ := ih host
      exact ⟨host', .head rfl settles, completes⟩

end Program

/-! ## Clicks on handles -/

variable {doc : Document (Action ν)} {host : σ} {link : NodeId}

theorem steps_stopped (world : World ν σ) (path : List NodeId) :
    Steps behaviour { world, stack := [.clicking [] path true, .running none (.done ())] }
      { world, stack := [] } := by
  cases path with
  | nil => exact .head rfl (.head rfl .refl)
  | cons n path => exact .head rfl (.head rfl .refl)

theorem steps_handler {handler : Handler (Action ν)} (only : doc.handlers link = [handler]) :
    Steps behaviour (.start { document := doc, host } (.click link (.done ())))
      { world := { document := doc, host }
        stack := [.running handler.serial (handler.action.program behaviour),
          .clicking [] (doc.ancestors link) false, .running none (.done ())] } := by
  refine .head rfl (.head rfl ?_)
  rw [only]
  exact .head rfl .refl

theorem settles_turn_nowhere {handler : Handler (Action ν)} {pager : Pager ν} {count : UInt64}
    {target : Target} (only : doc.handlers link = [handler])
    (turn : handler.action = .turn pager count target) (nowhere : target.index? doc = none) :
    Settles behaviour { document := doc, host } (.click link (.done ()))
      { document := doc, host } := by
  refine (steps_handler only).trans ?_
  rw [turn]
  refine .head rfl ?_
  simp only [nowhere]
  exact .head rfl (.head rfl (steps_stopped _ _))

theorem settles_turn {handler : Handler (Action ν)} {pager : Pager ν} {count index : UInt64}
    {target : Target} (only : doc.handlers link = [handler])
    (turn : handler.action = .turn pager count target) (leads : target.index? doc = some index)
    {list : Option NodeId} {shown : Document (Action ν)}
    (rendered : (pager.render count index).run doc = .ok list shown) {world : World ν σ}
    (told : (behaviour.notify pager.listener index).Completes behaviour
      { document := shown, host } world) :
    Settles behaviour { document := doc, host } (.click link (.done ())) world := by
  refine (steps_handler only).trans ?_
  rw [turn]
  refine .head rfl ?_
  simp only [leads]
  refine .head rfl ?_
  simp only [Operation.edit, rendered]
  refine (told _ _ _).trans ?_
  exact .head rfl (.head rfl (steps_stopped _ _))

theorem settles_click_parent {n p : NodeId} (path : doc.path n = n :: doc.path p)
    (silent : doc.handlers n = []) (world : World ν σ) :
    Settles behaviour { document := doc, host } (.click n (.done ())) world ↔
      Settles behaviour { document := doc, host } (.click p (.done ())) world := by
  let atParent : Machine ν σ :=
    { world := { document := doc, host }
      stack := [.clicking [] (doc.path p) false, .running none (.done ())] }
  have fromParent : Steps behaviour (.start { document := doc, host } (.click p (.done ())))
      atParent := .head rfl .refl
  have fromNode : Steps behaviour (.start { document := doc, host } (.click n (.done ())))
      atParent := by
    refine .head rfl ?_
    rw [clickOn, path]
    refine .head rfl ?_
    simp only [silent]
    exact .refl
  exact (fromNode.idle_iff world).trans (fromParent.idle_iff world).symm

theorem settles_click_silent {n : NodeId} (silent : ∀ m ∈ doc.path n, doc.handlers m = []) (host : σ) :
    Settles behaviour { document := doc, host } (.click n (.done ())) { document := doc, host } := by
  have along (path : List NodeId) (silent : ∀ m ∈ path, doc.handlers m = []) :
      Steps behaviour { world := { document := doc, host }
                        stack := [.clicking [] path false, .running none (.done ())] }
        { world := { document := doc, host }, stack := [] } := by
    induction path with
    | nil => exact .head rfl (.head rfl .refl)
    | cons m path ih =>
        obtain ⟨first, others⟩ := List.forall_mem_cons.1 silent
        refine .head rfl ?_
        rw [first]
        exact ih others
  exact .head rfl (along (doc.path n) silent)

/-! ## Clicks that do not change the document -/

theorem Program.LeavesAlone.returns {program : Program ν σ Unit} (alone : program.LeavesAlone doc)
    (behaviour : Behaviour ν σ) (handler : Option Nat) (pending : List (Handler (Action ν)))
    (path : List NodeId) (rest : List (Frame ν σ)) (stopped : Bool) (host : σ) :
    ∃ stopped' host', Steps behaviour
      { world := { document := doc, host }
        stack := .running handler program :: .clicking pending path stopped :: rest }
      { world := { document := doc, host := host' }, stack := .clicking pending path stopped' :: rest } := by
  induction alone generalizing stopped host with
  | done => exact ⟨stopped, host, .head rfl .refl⟩
  | observe each ih =>
      obtain ⟨stopped', host', steps⟩ := ih host stopped host
      exact ⟨stopped', host', .head rfl steps⟩
  | @setHost between next rest ih =>
      obtain ⟨stopped', host', steps⟩ := ih stopped between
      exact ⟨stopped', host', .head rfl steps⟩
  | perform same rest ih =>
      obtain ⟨stopped', host', steps⟩ := ih stopped host
      refine ⟨stopped', host', .head ?_ steps⟩
      simp only [step, same]
  | stop rest ih =>
      obtain ⟨stopped', host', steps⟩ := ih true host
      exact ⟨stopped', host', .head rfl steps⟩

theorem settles_click_of_leavesAlone {n : NodeId}
    (alone : ∀ m ∈ doc.path n, ∀ handler ∈ doc.handlers m,
      (handler.action.program behaviour).LeavesAlone doc) (host : σ) :
    ∃ host', Settles behaviour { document := doc, host } (.click n (.done ()))
      { document := doc, host := host' } := by
  -- Along the path, and at each node along the handlers that are still to be called.
  have along (path : List NodeId) (onPath : ∀ m ∈ path, ∀ handler ∈ doc.handlers m,
      (handler.action.program behaviour).LeavesAlone doc) (pending : List (Handler (Action ν)))
      (onNode : ∀ handler ∈ pending, (handler.action.program behaviour).LeavesAlone doc)
      (stopped : Bool) (host : σ) : ∃ host', Steps behaviour
        { world := { document := doc, host }
          stack := [.clicking pending path stopped, .running none (.done ())] }
        { world := { document := doc, host := host' }, stack := [] } := by
    induction path generalizing pending stopped host with
    | nil =>
        induction pending generalizing stopped host with
        | nil => exact ⟨host, .head rfl (.head rfl .refl)⟩
        | cons handler pending ih =>
            obtain ⟨stopped', between, steps⟩ := (onNode handler List.mem_cons_self).returns
              behaviour handler.serial pending [] [.running none (.done ())] stopped host
            obtain ⟨host', rest⟩ :=
              ih (fun other member => onNode other (List.mem_cons_of_mem _ member)) stopped' between
            exact ⟨host', .head rfl (steps.trans rest)⟩
    | cons m path ihPath =>
        induction pending generalizing stopped host with
        | nil =>
            cases stopped with
            | true => exact ⟨host, .head rfl (.head rfl .refl)⟩
            | false =>
                obtain ⟨host', rest⟩ := ihPath
                  (fun other member => onPath other (List.mem_cons_of_mem _ member))
                  (doc.handlers m) (onPath m List.mem_cons_self) false host
                exact ⟨host', .head rfl rest⟩
        | cons handler pending ih =>
            obtain ⟨stopped', between, steps⟩ := (onNode handler List.mem_cons_self).returns
              behaviour handler.serial pending (m :: path) [.running none (.done ())] stopped host
            obtain ⟨host', rest⟩ :=
              ih (fun other member => onNode other (List.mem_cons_of_mem _ member)) stopped' between
            exact ⟨host', .head rfl (steps.trans rest)⟩
  obtain ⟨host', steps⟩ := along (doc.path n) alone [] (by simp) false host
  exact ⟨host', .head rfl steps⟩

end ReportCards
