import ReportCards.Proofs.Click.Reentrant

namespace ReportCards
open Document

variable {ν σ α β : Type} {behaviour : Behaviour ν σ}

/-! ## Programs that stop -/

namespace Program

inductive WillStop : Program ν σ α → Prop
  | stop (next : Program ν σ α) : WillStop (.stop next)
  | observe {next : World ν σ → Program ν σ α} (each : ∀ world, WillStop (next world)) :
      WillStop (.observe next)
  | setHost {host : σ} {next : Program ν σ α} (rest : WillStop next) : WillStop (.setHost host next)
  | perform {β : Type} {operation : Operation ν β} {next : Except Error β → Program ν σ α}
      (each : ∀ result, WillStop (next result)) : WillStop (.perform operation next)
  | click {n : NodeId} {next : Program ν σ α} (rest : WillStop next) : WillStop (.click n next)

theorem WillStop.after {next : α → Program ν σ β} (stops : ∀ result, (next result).WillStop)
    (program : Program ν σ α) : (program.bind next).WillStop := by
  induction program with
  | done result => exact stops result
  | observe look ih => exact .observe ih
  | setHost host rest ih => exact .setHost ih
  | perform operation rest ih => exact .perform ih
  | click n rest ih => exact .click ih
  | stop rest => exact .stop _

end Program

theorem Action.willStop_turn (behaviour : Behaviour ν σ) (pager : Pager ν) (count : UInt64)
    (target : Target) : ((Action.turn pager count target).program behaviour).WillStop := by
  apply Program.WillStop.observe
  intro world
  cases target.index? world.document with
  | none => exact .stop _
  | some index => exact .after (fun _ => .stop _) _

/-! ## Clicks that are held -/

namespace Machine

variable {machine next begun : Machine ν σ} {n : NodeId} {ahead path : List NodeId}
  {inner below : List (Frame ν σ)} {pending : List (Handler (Action ν))} {stopped : Bool}
  {visits : List (Visit ν σ)}

theorem inner_of_step {top : Frame ν σ} (layered : IsLayered machine.stack)
    (stack : machine.stack = top :: (inner ++ .clicking pending ahead stopped :: below))
    (move : machine.step behaviour = some next) :
    ∃ inner' stopped', next.stack = inner' ++ .clicking pending ahead stopped' :: below ∧
      (stopped = true → stopped' = true) ∧
      ∀ who program, inner.getLast? = some (.running who program) →
        inner'.getLast? = some (.running who program) := by
  rcases stack_of_step stack move with ⟨-, upper, stack', -⟩ | ⟨who, rest, rfl, stack'⟩
  · refine ⟨upper ++ inner, stopped, by rw [stack', List.append_assoc], id, fun who program last => ?_⟩
    rw [List.getLast?_append, last, Option.some_or]
  · cases inner with
    | nil => exact ⟨[.running who rest], true, stack', fun _ => rfl, nofun⟩
    | cons second inner =>
        rw [stack, IsLayered, List.map_cons, List.cons_append, List.map_cons,
          List.isChain_cons_cons] at layered
        cases second with
        | running => exact absurd layered.1 (by simp [Frame.isClick])
        | clicking pending' ahead' stopped' =>
            refine ⟨.running who rest :: .clicking pending' ahead' true :: inner, stopped, stack', id,
              fun other program last => ?_⟩
            cases inner with
            | nil => cases last
            | cons third inner => exact last

structure Stops (behaviour : Behaviour ν σ) (below : List (Frame ν σ)) (handler : Handler (Action ν)) :
    Prop where
  free : handler.serial ∉ below.filterMap Frame.handler?
  stops : (handler.action.program behaviour).WillStop

inductive Secured (behaviour : Behaviour ν σ) (below inner : List (Frame ν σ))
    (pending : List (Handler (Action ν))) : Bool → Prop
  | stopped : Secured behaviour below inner pending true
  | pending {handler : Handler (Action ν)} {stopped : Bool} (member : handler ∈ pending)
      (stops : Stops behaviour below handler) : Secured behaviour below inner pending stopped
  | running {who : Option Nat} {program : Program ν σ Unit} {stopped : Bool}
      (last : inner.getLast? = some (.running who program)) (stops : program.WillStop) :
      Secured behaviour below inner pending stopped

/-- The click above `below` is about to reach the node, or it has reached it and will not leave it. -/
inductive IsHeld (behaviour : Behaviour ν σ) (n : NodeId) (ahead : List NodeId)
    (below : List (Frame ν σ)) (machine : Machine ν σ) : Prop
  | begun {handler : Handler (Action ν)} (member : handler ∈ machine.world.document.handlers n)
      (stops : Stops behaviour below handler)
      (stack : machine.stack = .clicking [] (n :: ahead) false :: below)
  | reached (inner : List (Frame ν σ)) {pending : List (Handler (Action ν))} {stopped : Bool}
      (secured : Secured behaviour below inner pending stopped)
      (stack : machine.stack = inner ++ .clicking pending ahead stopped :: below)

theorem isHeld_of_step_stopping {who : Option Nat} {program : Program ν σ Unit} (stops : program.WillStop)
    (stack : machine.stack = .running who program :: .clicking pending ahead stopped :: below)
    (move : machine.step behaviour = some next) : IsHeld behaviour n ahead below next := by
  obtain ⟨world, frames⟩ := machine
  cases stack
  cases stops with
  | stop goOn =>
      cases move
      exact .reached [.running who goOn] .stopped rfl
  | observe each =>
      cases move
      exact .reached [_] (.running rfl (each world)) rfl
  | setHost rest =>
      cases move
      exact .reached [_] (.running rfl rest) rfl
  | perform each =>
      cases move
      exact .reached [_] (.running rfl (each _)) rfl
  | click rest =>
      cases move
      exact .reached [_, _] (.running rfl rest) rfl

theorem isHeld_of_step_inside {top : Frame ν σ} (layered : IsLayered machine.stack)
    (secured : Secured behaviour below (top :: inner) pending stopped)
    (stack : machine.stack = top :: (inner ++ .clicking pending ahead stopped :: below))
    (move : machine.step behaviour = some next) : IsHeld behaviour n ahead below next := by
  obtain ⟨inner', stopped', stack', marked, kept⟩ := inner_of_step layered stack move
  cases secured with
  | stopped =>
      rw [marked rfl] at stack'
      exact .reached inner' .stopped stack'
  | pending member stops => exact .reached inner' (.pending member stops) stack'
  | @running who program _ last stops =>
      cases inner with
      | nil =>
          cases last
          exact isHeld_of_step_stopping stops stack move
      | cons second inner => exact .reached inner' (.running (kept who program last) stops) stack'

theorem isHeld_of_step_consider {handler : Handler (Action ν)}
    (secured : Secured behaviour below [] (handler :: pending) stopped)
    (stack : machine.stack = .clicking (handler :: pending) ahead stopped :: below)
    (move : machine.step behaviour = some next) : IsHeld behaviour n ahead below next := by
  obtain ⟨world, frames⟩ := machine
  cases stack
  rw [step_consider] at move
  cases move
  by_cases busy : handler.serial ∈ below.filterMap Frame.handler?
  · have secured' : Secured behaviour below [] pending stopped := by
      cases secured with
      | stopped => exact .stopped
      | pending member stops =>
          rcases List.mem_cons.1 member with rfl | later
          · exact absurd busy stops.free
          · exact .pending later stops
      | running last => cases last
    exact .reached [] secured' (if_pos busy)
  · have secured' : Secured behaviour below
        [.running handler.serial (handler.action.program behaviour)] pending stopped := by
      cases secured with
      | stopped => exact .stopped
      | pending member stops =>
          rcases List.mem_cons.1 member with rfl | later
          · exact .running rfl stops.stops
          · exact .pending later stops
      | running last => cases last
    exact .reached [_] secured' (if_neg busy)

theorem IsHeld.step (held : IsHeld behaviour n ahead below machine) (layered : IsLayered machine.stack)
    (move : machine.step behaviour = some next) :
    IsHeld behaviour n ahead below next ∨
      next.stack = below ∧ machine.stack = .clicking [] ahead true :: below := by
  cases held with
  | begun member stops stack =>
      obtain ⟨world, frames⟩ := machine
      cases stack
      cases move
      exact .inl (.reached [] (.pending member stops) rfl)
  | @reached inner pending stopped secured stack =>
      cases inner with
      | cons top inner => exact .inl (isHeld_of_step_inside layered secured stack move)
      | nil =>
          cases pending with
          | cons handler pending => exact .inl (isHeld_of_step_consider secured stack move)
          | nil =>
              cases secured with
              | pending member => cases member
              | running last => cases last
              | stopped =>
                  obtain ⟨world, frames⟩ := machine
                  cases stack
                  cases ahead <;> (cases move; exact .inr ⟨rfl, rfl⟩)

theorem IsHeld.length_lt (held : IsHeld behaviour n ahead below machine) :
    below.length < machine.stack.length := by
  cases held with
  | begun _ _ stack => simp [stack]
  | reached inner _ stack =>
      rw [stack, List.length_append, List.length_cons]
      omega

theorem IsUnderway.length_lt (underway : IsUnderway behaviour path below machine visits) :
    below.length < machine.stack.length := by
  obtain ⟨-, inner, pending, rest, stopped, stack, -⟩ := underway
  rw [stack, List.length_append, List.length_cons]
  omega

/-! ## What a held click visits -/

theorem frame_unique {inner inner' : List (Frame ν σ)} {frame frame' : Frame ν σ}
    (same : inner ++ frame :: below = inner' ++ frame' :: below) : inner = inner' ∧ frame = frame' := by
  obtain ⟨inners, rest⟩ := List.append_inj' same rfl
  exact ⟨inners, (List.cons.inj rest).1⟩

theorem IsHeld.nodes_eq (held : IsHeld behaviour n ahead below machine)
    (underway : IsUnderway behaviour (n :: ahead) below machine visits) :
    ∀ visit ∈ visits, visit.node = n := by
  obtain ⟨-, inner, pending, rest, stopped, stack, agrees, -⟩ := underway
  have nodes := agrees.nodes
  suffices reached : (visits.map Visit.node).reverse ⊆ [n] by
    intro visit member
    exact List.mem_singleton.1 (reached (List.mem_reverse.2 (List.mem_map_of_mem member)))
  cases held with
  | begun _ _ stack' =>
      obtain ⟨-, frame⟩ := frame_unique (stack.symm.trans (stack'.trans (List.nil_append _).symm))
      cases frame
      rw [List.append_left_eq_self.1 nodes]
      exact List.nil_subset _
  | reached inner' _ stack' =>
      obtain ⟨-, frame⟩ := frame_unique (stack.symm.trans stack')
      cases frame
      rw [List.append_cancel_right (nodes.trans List.singleton_append.symm)]
      exact List.Subset.refl _

theorem visits_of_stopped (underway : IsUnderway behaviour (n :: ahead) below machine visits)
    (stack : machine.stack = .clicking [] ahead true :: below) :
    ∃ visit, visits = [visit] ∧ visit.node = n ∧ visit.stopped = true := by
  obtain ⟨-, inner, pending, rest, stopped, stack', agrees, -⟩ := underway
  obtain ⟨-, frame⟩ := frame_unique (stack'.symm.trans (stack.trans (List.nil_append _).symm))
  cases frame
  have reversed := List.append_cancel_right (agrees.nodes.trans List.singleton_append.symm)
  have nodes : visits.map Visit.node = [n] := by simpa using congrArg List.reverse reversed
  obtain ⟨visit, rfl, node⟩ := List.map_eq_singleton_iff.1 nodes
  exact ⟨visit, rfl, node, (agrees.current visit rfl).2⟩

theorem isHeld_or_over_after (reachable : begun.Reachable behaviour)
    (stack : begun.stack = .clicking [] (n :: ahead) false :: below) (distinct : (n :: ahead).Nodup)
    {handler : Handler (Action ν)} (member : handler ∈ begun.world.document.handlers n)
    (stops : Stops behaviour below handler) (steps : Nat)
    (notOver : ∀ earlier < steps, below.length < (begun.run behaviour earlier).stack.length) :
    (IsHeld behaviour n ahead below (begun.run behaviour steps) ∧
        IsUnderway behaviour (n :: ahead) below (begun.run behaviour steps)
          (begun.visitsAfter behaviour below.length steps)) ∨
      (begun.run behaviour steps).stack = below ∧
        ∃ visit, begun.visitsAfter behaviour below.length steps = [visit] ∧ visit.node = n ∧
          visit.stopped = true := by
  induction steps with
  | zero =>
      have underway : IsUnderway behaviour (n :: ahead) below begun [] :=
        ⟨.begin _, [], [], n :: ahead, false, stack, .begin _ _, fun none => absurd rfl none⟩
      exact .inl ⟨.begun member stops stack, underway⟩
  | succ steps ih =>
      rcases ih fun earlier less => notOver earlier (Nat.lt_succ_of_lt less) with ⟨held, underway⟩ | ⟨ended, -⟩
      · have busy : (begun.run behaviour steps).stack ≠ [] :=
          List.ne_nil_of_length_pos (Nat.zero_lt_of_lt held.length_lt)
        obtain ⟨next, move⟩ := exists_step behaviour busy
        have next_eq : begun.run behaviour (steps + 1) = next := by rw [run_succ, move, Option.getD_some]
        have reached := reachable.run steps
        rw [visitsAfter, next_eq]
        rcases held.step reached.isLayered move, underway.step reached distinct move with
          ⟨held' | ⟨ended, stopped⟩, underway' | ⟨ended', same, -⟩⟩
        · exact .inl ⟨held', underway'⟩
        · have longer := held'.length_lt
          rw [ended'] at longer
          exact absurd longer (Nat.lt_irrefl _)
        · have longer := underway'.length_lt
          rw [ended] at longer
          exact absurd longer (Nat.lt_irrefl _)
        · rw [same]
          exact .inr ⟨ended, visits_of_stopped underway stopped⟩
      · have more := notOver steps (Nat.lt_succ_self steps)
        rw [ended] at more
        exact absurd more (Nat.lt_irrefl _)

/-- A click on a node with a handler that stops it, and that is not running already, visits no other node.
When it is over, it was stopped there. -/
theorem click_visits_one (reachable : machine.Reachable behaviour) {who : Option Nat}
    {goOn : Program ν σ Unit} {rest : List (Frame ν σ)}
    (clicks : machine.stack = .running who (.click n goOn) :: rest) {handler : Handler (Action ν)}
    (member : handler ∈ machine.world.document.handlers n) (free : handler.serial ∉ machine.runningHandlers)
    (stops : (handler.action.program behaviour).WillStop) :
    ∃ begun, machine.step behaviour = some begun ∧
      ∀ steps, (∀ earlier < steps, machine.stack.length < (begun.run behaviour earlier).stack.length) →
        (∀ visit ∈ begun.visitsAfter behaviour machine.stack.length steps, visit.node = n) ∧
          (machine.stack.length < (begun.run behaviour steps).stack.length ∨
            (begun.run behaviour steps).stack = .running who goOn :: rest ∧
              ∃ visit, begun.visitsAfter behaviour machine.stack.length steps = [visit] ∧
                visit.stopped = true) := by
  obtain ⟨world, frames⟩ := machine
  cases clicks
  have forest := reachable.document.isForest
  refine ⟨_, rfl, fun steps notOver => ?_⟩
  have begun : Reachable behaviour ⟨world, clickOn world.document n :: .running who goOn :: rest⟩ :=
    reachable.step rfl
  rcases isHeld_or_over_after begun rfl (forest.nodup_path n) member ⟨free, stops⟩ steps notOver with
    ⟨held, underway⟩ | ⟨ended, visit, single, node, stopped⟩
  · exact ⟨held.nodes_eq underway, .inl held.length_lt⟩
  · refine ⟨fun other recorded => ?_, .inr ⟨ended, visit, single, stopped⟩⟩
    have same : other = visit := List.mem_singleton.1 (single ▸ recorded)
    rw [same, node]

end Machine
end ReportCards
