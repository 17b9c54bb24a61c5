import ReportCards.Click.Operation

/-!
# Programs

A program is what runs when a handler is called: it looks at the world, changes the document by
operations, keeps notes in the state of the surrounding program, clicks nodes and may stop the click
that called it. It decides each step by what it has seen so far.

`Action.program` gives the program of every handler, once a `Behaviour` gives the programs of the
codes that the surrounding program registered itself.
-/
namespace ReportCards

structure World (ν σ : Type) where
  document : Document (Action ν)
  host : σ

inductive Program (ν σ α : Type) : Type 1 where
  | done (result : α)
  | observe (next : World ν σ → Program ν σ α)
  | setHost (host : σ) (next : Program ν σ α)
  | perform {β : Type} (operation : Operation ν β) (next : Except Error β → Program ν σ α)
  | click (n : NodeId) (next : Program ν σ α)
  | stop (next : Program ν σ α)

namespace Program

variable {ν σ α β : Type}

def bind : Program ν σ α → (α → Program ν σ β) → Program ν σ β
  | done result, next => next result
  | observe look, next => observe fun world => (look world).bind next
  | setHost host rest, next => setHost host (rest.bind next)
  | perform operation rest, next => perform operation fun result => (rest result).bind next
  | click n rest, next => click n (rest.bind next)
  | stop rest, next => stop (rest.bind next)

instance : Monad (Program ν σ) where
  pure := done
  bind := bind

instance : LawfulMonad (Program ν σ) :=
  LawfulMonad.mk' (Program ν σ)
    (fun program => by
      show program.bind done = program
      induction program <;> simp_all [bind])
    (fun _ _ => rfl)
    (fun program first second => by
      show (program.bind first).bind second = program.bind fun result => (first result).bind second
      induction program <;> simp_all [bind])

def withoutStop : Program ν σ α → Program ν σ α
  | done result => done result
  | observe look => observe fun world => (look world).withoutStop
  | setHost host rest => setHost host rest.withoutStop
  | perform operation rest => perform operation fun result => (rest result).withoutStop
  | click n rest => click n rest.withoutStop
  | stop rest => rest.withoutStop

def look : Program ν σ (World ν σ) :=
  observe done

def run (operation : Operation ν β) : Program ν σ (Except Error β) :=
  perform operation done

end Program

structure Behaviour (ν σ : Type) where
  onClick : ν → Program ν σ Unit
  onChange : ν → UInt64 → Program ν σ Unit

namespace Behaviour

variable {ν σ : Type}

/-- Tell a listener that a page was selected. A listener is not part of the click, so it cannot
stop it. -/
def notify (behaviour : Behaviour ν σ) (listener : Listener ν) (index : UInt64) :
    Program ν σ Unit :=
  match listener with
  | .table table => .perform (.showTablePage table index) fun _ => .done ()
  | .custom code => (behaviour.onChange code index).withoutStop

def select (behaviour : Behaviour ν σ) (pager : Pager ν) (count index : UInt64) :
    Program ν σ Unit :=
  .perform (.renderPager pager count index) fun
    | .error _ => .done ()
    | .ok _ => behaviour.notify pager.listener index

end Behaviour

def Target.index? {κ : Type} (doc : Document κ) : Target → Option UInt64
  | previous list =>
      (Pager.activeIndex doc list).bind fun index => if 0 < index then some (index - 1) else none
  | page index => some index
  | next list pageCount =>
      (Pager.activeIndex doc list).bind fun index =>
        if index + 1 < pageCount then some (index + 1) else none

/-- The program of a click handler. A handle of a control stops the click whether or not it leads
to a page. -/
def Action.program {ν σ : Type} (behaviour : Behaviour ν σ) : Action ν → Program ν σ Unit
  | custom code => behaviour.onClick code
  | turn pager count target =>
      .observe fun world =>
        match target.index? world.document with
        | some index => (behaviour.select pager count index).bind fun _ => .stop (.done ())
        | none => .stop (.done ())

end ReportCards
