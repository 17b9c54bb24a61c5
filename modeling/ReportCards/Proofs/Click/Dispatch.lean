import ReportCards.Proofs.Click.Stack

/-!
# What a click does on its way

While a click is under way, its frame stands on the stack above those of the program that clicked, and
whatever runs inside of it stands above that. `visitsAfter` is the record of such a click: the nodes that
it has reached, the handlers that it has come to there, and whether it was stopped. Whatever the handlers
do, the record satisfies `Faithful` at all times, and `Complete` when the click is over.
-/
namespace ReportCards
open Document

variable {ν σ : Type} {behaviour : Behaviour ν σ}

structure Visit (ν σ : Type) where
  node : NodeId
  registered : List (Handler (Action ν))
  /-- The handlers that the click has come to, in order, each with the program that was started for it
  unless it was skipped. -/
  considered : List (Handler (Action ν) × Option (Program ν σ Unit)) := []
  stopped : Bool := false

def Visit.IsDone (visit : Visit ν σ) : Prop :=
  visit.considered.map Prod.fst = visit.registered

namespace Machine

def onClickFrame (depth : Nat) (machine : Machine ν σ) : Option (Program ν σ Unit) :=
  match machine.stack with
  | .running _ program :: under => if under.length = depth + 1 then some program else none
  | _ => none

/-- The record of a click, the latest visit first, after one more step of the machine. It is the click
whose frame has `depth` frames below it. A program stops this click if it stands right on that frame. -/
def record (depth : Nat) (before after : Machine ν σ) (visits : List (Visit ν σ)) : List (Visit ν σ) :=
  match before.stack with
  | .clicking [] (n :: _) _ :: below =>
      if below.length = depth ∧ after.stack.length = depth + 1 then
        { node := n, registered := before.world.document.handlers n } :: visits
      else visits
  | .clicking (handler :: _) _ _ :: below =>
      if below.length = depth then
        visits.modifyHead fun visit =>
          { visit with considered := visit.considered ++ [(handler, after.onClickFrame depth)] }
      else visits
  | .running _ (.stop _) :: below =>
      if below.length = depth + 1 then
        visits.modifyHead fun visit => { visit with stopped := true }
      else visits
  | _ => visits

def visitsAfter (behaviour : Behaviour ν σ) (depth : Nat) (begun : Machine ν σ) :
    (steps : Nat) → List (Visit ν σ)
  | 0 => []
  | steps + 1 =>
      record depth (begun.run behaviour steps) (begun.run behaviour (steps + 1))
        (begun.visitsAfter behaviour depth steps)

/-- What holds when the click is over: it was stopped at the last node, or that is the root. -/
structure Complete (path : List NodeId) (visits : List (Visit ν σ)) : Prop where
  allDone : ∀ visit ∈ visits, visit.IsDone
  ends : (visits.map Visit.node).reverse = path ∨ ∃ visit ∈ visits.head?, visit.stopped = true

structure Agrees (behaviour : Behaviour ν σ) (path : List NodeId) (busy : List Nat)
    (visits : List (Visit ν σ)) (pending : List (Handler (Action ν))) (ahead : List NodeId)
    (stopped : Bool) : Prop where
  nodes : (visits.map Visit.node).reverse ++ ahead = path
  current : ∀ visit ∈ visits.head?,
    visit.considered.map Prod.fst ++ pending = visit.registered ∧ visit.stopped = stopped
  called : ∀ visit ∈ visits, ∀ handler program, (handler, program) ∈ visit.considered →
    program = if handler.serial ∈ busy then none else some (handler.action.program behaviour)
  passed : ∀ visit ∈ visits.tail, visit.IsDone ∧ visit.stopped = false
  fresh : visits = [] → pending = [] ∧ stopped = false

namespace Agrees

variable {path ahead : List NodeId} {busy : List Nat} {visits : List (Visit ν σ)}
  {pending : List (Handler (Action ν))} {stopped : Bool}

theorem complete (agrees : Agrees behaviour path busy visits [] ahead stopped)
    (atEnd : ahead = [] ∨ stopped = true) : Complete path visits where
  allDone visit member := by
    cases visits with
    | nil => cases member
    | cons latest earlier =>
        rcases List.mem_cons.1 member with rfl | before
        · have all := (agrees.current visit rfl).1
          rwa [List.append_nil] at all
        · exact (agrees.passed visit before).1
  ends := by
    rcases atEnd with rfl | rfl
    · exact .inl (by simpa using agrees.nodes)
    · cases visits with
      | nil => cases (agrees.fresh rfl).2
      | cons latest earlier => exact .inr ⟨latest, rfl, (agrees.current latest rfl).2⟩

theorem begin (path : List NodeId) (busy : List Nat) :
    Agrees behaviour path busy ([] : List (Visit ν σ)) [] path false where
  nodes := rfl
  current := by simp
  called := by simp
  passed := by simp
  fresh _ := ⟨rfl, rfl⟩

theorem reach {n : NodeId} (agrees : Agrees behaviour path busy visits [] (n :: ahead) false)
    (handlers : List (Handler (Action ν))) :
    Agrees behaviour path busy ({ node := n, registered := handlers } :: visits) handlers ahead
      false where
  nodes := by simpa using agrees.nodes
  current := by simp
  called visit member handler program considered := by
    rcases List.mem_cons.1 member with rfl | before
    · cases considered
    · exact agrees.called visit before handler program considered
  passed visit before := by
    cases visits with
    | nil => cases before
    | cons latest earlier =>
        rcases List.mem_cons.1 before with rfl | before
        · have last := agrees.current visit rfl
          rw [List.append_nil] at last
          exact last
        · exact agrees.passed visit before
  fresh none := nomatch none

theorem consider {handler : Handler (Action ν)}
    (agrees : Agrees behaviour path busy visits (handler :: pending) ahead stopped)
    {program : Option (Program ν σ Unit)}
    (called : program =
      if handler.serial ∈ busy then none else some (handler.action.program behaviour)) :
    Agrees behaviour path busy
      (visits.modifyHead fun visit =>
        { visit with considered := visit.considered ++ [(handler, program)] })
      pending ahead stopped := by
  cases visits with
  | nil => cases (agrees.fresh rfl).1
  | cons latest earlier =>
      obtain ⟨remaining, stopped_eq⟩ := agrees.current latest rfl
      refine ⟨agrees.nodes, ?_, ?_, agrees.passed, fun none => nomatch none⟩
      · intro visit first
        cases first
        exact ⟨by simpa using remaining, stopped_eq⟩
      · intro visit member handler program considered
        rcases List.mem_cons.1 member with rfl | before
        · rcases List.mem_append.1 considered with old | new
          · exact agrees.called latest List.mem_cons_self handler program old
          · cases List.mem_singleton.1 new
            exact called
        · exact agrees.called visit (List.mem_cons_of_mem _ before) handler program considered

theorem stop (agrees : Agrees behaviour path busy visits pending ahead stopped) (begun : visits ≠ []) :
    Agrees behaviour path busy (visits.modifyHead fun visit => { visit with stopped := true }) pending
      ahead true := by
  cases visits with
  | nil => exact absurd rfl begun
  | cons latest earlier =>
      refine ⟨agrees.nodes, ?_, ?_, agrees.passed, fun none => nomatch none⟩
      · intro visit first
        cases first
        exact ⟨(agrees.current latest rfl).1, rfl⟩
      · intro visit member handler program considered
        rcases List.mem_cons.1 member with rfl | before
        · exact agrees.called latest List.mem_cons_self handler program considered
        · exact agrees.called visit (List.mem_cons_of_mem _ before) handler program considered

theorem node_notMem {n : NodeId} (agrees : Agrees behaviour path busy visits pending (n :: ahead) stopped)
    (distinct : path.Nodup) : n ∉ visits.map Visit.node := by
  rw [← agrees.nodes] at distinct
  intro visited
  exact (List.nodup_append.1 distinct).2.2 n (List.mem_reverse.2 visited) n List.mem_cons_self rfl

end Agrees

structure Accounted (doc : Document (Action ν)) (visits : List (Visit ν σ)) : Prop where
  once : ((visits.flatMap Visit.registered).map Handler.serial).Nodup
  reached : ∀ visit ∈ visits, ∃ earlier : Document (Action ν), earlier.IsNumbered ∧
    doc.Succeeds earlier ∧ visit.registered = earlier.handlers visit.node

namespace Accounted

variable {doc after : Document (Action ν)} {visits : List (Visit ν σ)}

theorem begin (doc : Document (Action ν)) : Accounted doc ([] : List (Visit ν σ)) where
  once := .nil
  reached := List.forall_mem_nil _

theorem later (accounted : Accounted doc visits) (later : after.Succeeds doc) :
    Accounted after visits where
  once := accounted.once
  reached visit member := by
    obtain ⟨earlier, numbered, succeeds, registered⟩ := accounted.reached visit member
    exact ⟨earlier, numbered, later.trans succeeds, registered⟩

theorem modifyHead (accounted : Accounted doc visits) {change : Visit ν σ → Visit ν σ}
    (keeps : ∀ visit, (change visit).node = visit.node ∧ (change visit).registered = visit.registered) :
    Accounted doc (visits.modifyHead change) := by
  cases visits with
  | nil => exact accounted
  | cons latest earlier =>
      obtain ⟨node, registered⟩ := keeps latest
      obtain ⟨once, reached⟩ := accounted
      rw [List.flatMap_cons] at once
      rw [List.forall_mem_cons] at reached
      constructor
      · rwa [List.modifyHead_cons, List.flatMap_cons, registered]
      · rwa [List.modifyHead_cons, List.forall_mem_cons, registered, node]

theorem reach (accounted : Accounted doc visits) (numbered : doc.IsNumbered) {n : NodeId}
    (new : n ∉ visits.map Visit.node) :
    Accounted doc ({ node := n, registered := doc.handlers n } :: visits) where
  once := by
    rw [List.flatMap_cons, List.map_append]
    refine List.nodup_append.2 ⟨numbered.nodup n, accounted.once, ?_⟩
    intro serial here serial' before same
    obtain ⟨current, now, rfl⟩ := List.mem_map.1 here
    obtain ⟨handler, inRecord, rfl⟩ := List.mem_map.1 before
    obtain ⟨visit, member, isRegistered⟩ := List.mem_flatMap.1 inRecord
    obtain ⟨earlier, numbered', succeeds, registered⟩ := accounted.reached visit member
    rw [registered] at isRegistered
    have visited := (succeeds.eq_of_serial_eq numbered' isRegistered now same).1
    exact new (List.mem_map.2 ⟨visit, member, visited.symm⟩)
  reached := List.forall_mem_cons.2 ⟨⟨doc, numbered, .refl doc, rfl⟩, accounted.reached⟩

end Accounted

variable {machine next : Machine ν σ}

/-! ## Clicks under way -/

def IsUnderway (behaviour : Behaviour ν σ) (path : List NodeId) (below : List (Frame ν σ))
    (machine : Machine ν σ) (visits : List (Visit ν σ)) : Prop :=
  Accounted machine.world.document visits ∧
    ∃ inner pending ahead stopped,
      machine.stack = inner ++ .clicking pending ahead stopped :: below ∧
        Agrees behaviour path (below.filterMap Frame.handler?) visits pending ahead stopped ∧
        (inner ≠ [] → visits ≠ [])

theorem record_of_deeper {depth : Nat} {top : Frame ν σ} {under : List (Frame ν σ)}
    (stack : machine.stack = top :: under) (deeper : depth < under.length)
    (noStop : (∀ who rest, top ≠ .running who (.stop rest)) ∨ depth + 1 < under.length)
    (visits : List (Visit ν σ)) : record depth machine next visits = visits := by
  have notHere : under.length ≠ depth := Nat.ne_of_gt deeper
  unfold record
  rw [stack]
  split
  · rename_i same
    cases same
    exact if_neg fun both => notHere both.1
  · rename_i same
    cases same
    exact if_neg notHere
  · rename_i same
    cases same
    rcases noStop with none | deepest
    · exact absurd rfl (none _ _)
    · exact if_neg (Nat.ne_of_gt deepest)
  · rfl

variable {path ahead : List NodeId} {below : List (Frame ν σ)} {visits : List (Visit ν σ)}
  {pending : List (Handler (Action ν))} {stopped : Bool}

theorem record_consider {handler : Handler (Action ν)}
    (stack : machine.stack = .clicking (handler :: pending) ahead stopped :: below) :
    record below.length machine next visits = visits.modifyHead fun visit =>
      { visit with
        considered := visit.considered ++ [(handler, next.onClickFrame below.length)] } := by
  unfold record
  rw [stack]
  exact if_pos rfl

theorem record_stop {who : Option Nat} {goOn : Program ν σ Unit}
    (stack : machine.stack =
      .running who (.stop goOn) :: .clicking pending ahead stopped :: below) :
    record below.length machine next visits =
      visits.modifyHead fun visit => { visit with stopped := true } := by
  unfold record
  rw [stack]
  exact if_pos rfl

theorem isUnderway_of_step_inside {top : Frame ν σ} {inner : List (Frame ν σ)}
    (layered : IsLayered machine.stack)
    (stack : machine.stack = top :: (inner ++ .clicking pending ahead stopped :: below))
    (agrees : Agrees behaviour path (below.filterMap Frame.handler?) visits pending ahead stopped)
    (accounted : Accounted machine.world.document visits) (begun : visits ≠ [])
    (move : machine.step behaviour = some next) :
    IsUnderway behaviour path below next (record below.length machine next visits) := by
  have accounted' : Accounted next.world.document visits :=
    accounted.later (succeeds_of_changes (numberedChanges_of_step move))
  have deeper : below.length < (inner ++ .clicking pending ahead stopped :: below).length := by
    simp only [List.length_append, List.length_cons]
    omega
  rcases stack_of_step stack move with ⟨noStop, upper, stack', -⟩ | ⟨who, rest, rfl, stack'⟩
  · rw [record_of_deeper stack deeper (.inl noStop)]
    exact ⟨accounted', upper ++ inner, pending, ahead, stopped, by rw [stack', List.append_assoc],
      agrees, fun _ => begun⟩
  · cases inner with
    | nil =>
        rw [record_stop stack]
        refine ⟨accounted'.modifyHead fun _ => ⟨rfl, rfl⟩, [.running who rest], pending, ahead, true,
          stack', agrees.stop begun, fun _ => ?_⟩
        simpa using begun
    | cons second inner =>
        have deepest : below.length + 1 <
            (second :: inner ++ .clicking pending ahead stopped :: below).length := by
          simp only [List.length_append, List.length_cons]
          omega
        rw [record_of_deeper stack deeper (.inr deepest)]
        rw [stack, IsLayered, List.map_cons, List.cons_append, List.map_cons,
          List.isChain_cons_cons] at layered
        cases second with
        | running => exact absurd layered.1 (by simp [Frame.isClick])
        | clicking pending' ahead' stopped' =>
            exact ⟨accounted', .running who rest :: .clicking pending' ahead' true :: inner, pending,
              ahead, stopped, stack', agrees, fun _ => begun⟩

theorem isUnderway_of_step_consider {handler : Handler (Action ν)}
    (stack : machine.stack = .clicking (handler :: pending) ahead stopped :: below)
    (agrees : Agrees behaviour path (below.filterMap Frame.handler?) visits (handler :: pending) ahead
      stopped)
    (accounted : Accounted machine.world.document visits) (move : machine.step behaviour = some next) :
    IsUnderway behaviour path below next (record below.length machine next visits) := by
  have begun : visits ≠ [] := fun none => nomatch (agrees.fresh none).1
  have begun' (change : Visit ν σ → Visit ν σ) : visits.modifyHead change ≠ [] :=
    mt List.modifyHead_eq_nil_iff.1 begun
  rw [record_consider stack]
  obtain ⟨world, frames⟩ := machine
  cases stack
  simp only [step] at move
  split at move
  · rename_i running
    cases move
    have busy : handler.serial ∈ below.filterMap Frame.handler? := by
      simpa [runningHandlers, Frame.handler?] using running
    refine ⟨accounted.modifyHead fun _ => ⟨rfl, rfl⟩, [], pending, ahead, stopped, rfl,
      agrees.consider ?_, fun none => absurd rfl none⟩
    rw [if_pos busy]
    rfl
  · rename_i free
    cases move
    have notBusy : handler.serial ∉ below.filterMap Frame.handler? := by
      simpa [runningHandlers, Frame.handler?] using free
    refine ⟨accounted.modifyHead fun _ => ⟨rfl, rfl⟩,
      [.running handler.serial (handler.action.program behaviour)], pending, ahead, stopped, rfl,
      agrees.consider ?_, fun _ => begun' _⟩
    rw [if_neg notBusy]
    exact if_pos rfl

theorem isUnderway_or_over_of_step_reach
    (stack : machine.stack = .clicking [] ahead stopped :: below)
    (agrees : Agrees behaviour path (below.filterMap Frame.handler?) visits [] ahead stopped)
    (accounted : Accounted machine.world.document visits)
    (numbered : machine.world.document.IsNumbered) (distinct : path.Nodup)
    (move : machine.step behaviour = some next) :
    IsUnderway behaviour path below next (record below.length machine next visits) ∨
      next.stack = below ∧ record below.length machine next visits = visits ∧
        Complete path visits := by
  obtain ⟨world, frames⟩ := machine
  cases stack
  cases ahead with
  | nil =>
      cases move
      exact .inr ⟨rfl, rfl, agrees.complete (.inl rfl)⟩
  | cons n ahead =>
      cases stopped with
      | true =>
          cases move
          refine .inr ⟨rfl, if_neg ?_, agrees.complete (.inr rfl)⟩
          simp
      | false =>
          cases move
          have recorded : record below.length
              { world, stack := .clicking [] (n :: ahead) false :: below }
              { world, stack := .clicking (world.document.handlers n) ahead false :: below } visits =
              { node := n, registered := world.document.handlers n } :: visits :=
            if_pos ⟨rfl, rfl⟩
          rw [recorded]
          exact .inl ⟨accounted.reach numbered (agrees.node_notMem distinct), [], _, _, _, rfl,
            agrees.reach _, fun none => absurd rfl none⟩

theorem IsUnderway.step (underway : IsUnderway behaviour path below machine visits)
    (reachable : machine.Reachable behaviour) (distinct : path.Nodup)
    (move : machine.step behaviour = some next) :
    IsUnderway behaviour path below next (record below.length machine next visits) ∨
      next.stack = below ∧ record below.length machine next visits = visits ∧
        Complete path visits := by
  obtain ⟨accounted, inner, pending, ahead, stopped, stack, agrees, begun⟩ := underway
  cases inner with
  | nil =>
      cases pending with
      | nil =>
          exact isUnderway_or_over_of_step_reach stack agrees accounted reachable.isNumbered distinct
            move
      | cons handler pending =>
          exact .inl (isUnderway_of_step_consider stack agrees accounted move)
  | cons top inner =>
      exact .inl (isUnderway_of_step_inside reachable.isLayered stack agrees accounted
        (begun (List.cons_ne_nil _ _)) move)

end Machine
end ReportCards
