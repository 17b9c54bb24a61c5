import Mathlib.Data.List.Chain
import ReportCards.Proofs.Click.Reachable

namespace ReportCards

variable {ν σ : Type} {behaviour : Behaviour ν σ}

namespace Machine

variable {machine next : Machine ν σ}

theorem exists_step (behaviour : Behaviour ν σ) (busy : machine.stack ≠ []) :
    ∃ next, machine.step behaviour = some next := by
  obtain ⟨world, stack⟩ := machine
  unfold step
  cases stack with
  | nil => exact absurd rfl busy
  | cons top under =>
      cases top with
      | running who program => cases program <;> exact ⟨_, rfl⟩
      | clicking pending ahead stopped =>
          cases pending with
          | nil =>
              cases ahead with
              | nil => exact ⟨_, rfl⟩
              | cons n ahead => cases stopped <;> exact ⟨_, rfl⟩
          | cons handler pending =>
              simp only
              split <;> exact ⟨_, rfl⟩

theorem run_succ (behaviour : Behaviour ν σ) (machine : Machine ν σ) (steps : Nat) :
    machine.run behaviour (steps + 1) =
      ((machine.run behaviour steps).step behaviour).getD (machine.run behaviour steps) := by
  induction steps generalizing machine with
  | zero =>
      unfold run
      cases move : machine.step behaviour <;> rfl
  | succ steps ih =>
      rw [run]
      cases move : machine.step behaviour with
      | none => simp [run, move]
      | some next =>
          simp only
          rw [ih, run, move]

end Machine

def Frame.isClick : Frame ν σ → Bool
  | running .. => false
  | clicking .. => true

/-- No program stands right on another one: between two there is the click that called the upper one. -/
def IsLayered (stack : List (Frame ν σ)) : Prop :=
  (stack.map Frame.isClick).IsChain fun upper lower => upper = true ∨ lower = true

theorem map_isClick_stopInnermost (stack : List (Frame ν σ)) :
    (stopInnermost stack).map Frame.isClick = stack.map Frame.isClick := by
  induction stack with
  | nil => rfl
  | cons top under ih =>
      cases top with
      | running who program => rw [stopInnermost, List.map_cons, List.map_cons, ih]
      | clicking pending ahead stopped => rfl

namespace Machine

variable {machine next : Machine ν σ}

theorem stack_of_step {top : Frame ν σ} {under : List (Frame ν σ)}
    (stack : machine.stack = top :: under) (move : machine.step behaviour = some next) :
    ((∀ who rest, top ≠ .running who (.stop rest)) ∧
        ∃ upper, next.stack = upper ++ under ∧
          upper.map Frame.isClick <:+ [!top.isClick, top.isClick]) ∨
      ∃ who rest, top = .running who (.stop rest) ∧
        next.stack = .running who rest :: stopInnermost under := by
  have nothing (kind : Bool) : [] <:+ [!kind, kind] := List.nil_suffix
  have same (kind : Bool) : [kind] <:+ [!kind, kind] := List.suffix_cons _ _
  have both (kind : Bool) : [!kind, kind] <:+ [!kind, kind] := List.suffix_rfl
  obtain ⟨world, frames⟩ := machine
  simp only at stack
  subst stack
  unfold step at move
  cases top with
  | running who program =>
      cases program with
      | done => cases move; exact .inl ⟨nofun, [], rfl, nothing _⟩
      | observe => cases move; exact .inl ⟨nofun, [_], rfl, same _⟩
      | setHost => cases move; exact .inl ⟨nofun, [_], rfl, same _⟩
      | perform => cases move; exact .inl ⟨nofun, [_], rfl, same _⟩
      | click => cases move; exact .inl ⟨nofun, [_, _], rfl, both false⟩
      | stop => cases move; exact .inr ⟨_, _, rfl, rfl⟩
  | clicking pending ahead stopped =>
      refine .inl ⟨nofun, ?_⟩
      cases pending with
      | nil =>
          cases ahead with
          | nil => cases move; exact ⟨[], rfl, nothing _⟩
          | cons n ahead =>
              cases stopped with
              | true => cases move; exact ⟨[], rfl, nothing _⟩
              | false => cases move; exact ⟨[_], rfl, same _⟩
      | cons handler pending =>
          simp only at move
          split at move
          · cases move; exact ⟨[_], rfl, same _⟩
          · cases move; exact ⟨[_, _], rfl, both true⟩

theorem isLayered_of_step (layered : IsLayered machine.stack)
    (move : machine.step behaviour = some next) : IsLayered next.stack := by
  cases stack : machine.stack with
  | nil =>
      obtain ⟨world, frames⟩ := machine
      cases stack
      cases move
  | cons top under =>
      rw [stack, IsLayered, List.map_cons] at layered
      rcases stack_of_step stack move with ⟨-, upper, stack', front, kinds⟩ | ⟨who, rest, rfl, stack'⟩
      · have longer : ([!top.isClick, top.isClick] ++ under.map Frame.isClick).IsChain
            fun upper lower => upper = true ∨ lower = true :=
          .cons_cons (by cases top.isClick <;> simp) layered
        rw [IsLayered, stack', List.map_append]
        exact longer.suffix ⟨front, by rw [← List.append_assoc, kinds]⟩
      · rw [IsLayered, stack', List.map_cons, map_isClick_stopInnermost]
        exact layered

theorem Reachable.isLayered (reachable : machine.Reachable behaviour) : IsLayered machine.stack := by
  induction reachable with
  | first host program => exact .singleton _
  | step _ move ih => exact isLayered_of_step ih move
  | restart _ host program => exact .singleton _

end Machine
end ReportCards
