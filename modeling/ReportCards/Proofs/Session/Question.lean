import ReportCards.Proofs.Session.Play

namespace ReportCards
open Machine

namespace Attempt

variable {α β : Type}

/-! ## Attempts that leave the document alone -/

/-- Whatever else is going on, the attempt ends, and only the session has changed. -/
class Asks (attempt : Attempt α) : Prop where
  answers : ∀ world : World Reaction Session, ∃ result host,
    ∀ (handler : Option Nat) (next : Except StepError α → Program Reaction Session Unit)
      (rest : List (Frame Reaction Session)),
      Steps Session.behaviour { world, stack := .running handler (attempt.run.bind next) :: rest }
        { world := { world with host }, stack := .running handler (next result) :: rest }

instance (value : α) : Asks (pure value : Attempt α) :=
  ⟨fun world => ⟨.ok value, world.host, fun _ _ _ => .refl⟩⟩

instance (error : StepError) : Asks (throw error : Attempt α) :=
  ⟨fun world => ⟨.error error, world.host, fun _ _ _ => .refl⟩⟩

instance : Asks look :=
  ⟨fun world => ⟨.ok world, world.host, fun _ _ _ => .head rfl .refl⟩⟩

instance (session : Session) : Asks (setSession session) :=
  ⟨fun _ => ⟨.ok (), session, fun _ _ _ => .head rfl .refl⟩⟩

theorem run_bind_bind (attempt : Attempt α) (next : α → Attempt β)
    (goOn : Except StepError β → Program Reaction Session Unit) :
    (attempt >>= next).run.bind goOn = attempt.run.bind fun
      | .ok value => (next value).run.bind goOn
      | .error error => goOn (.error error) := by
  have both := bind_assoc attempt.run (ExceptT.bindCont next) goOn
  refine both.trans (congrArg attempt.run.bind (funext fun result => ?_))
  cases result <;> rfl

theorem Asks.bind {attempt : Attempt α} {next : α → Attempt β} (first : Asks attempt)
    (second : ∀ value, Asks (next value)) : Asks (attempt >>= next) where
  answers world := by
    obtain ⟨result, host, toResult⟩ := first.answers world
    simp only [run_bind_bind]
    cases result with
    | error error => exact ⟨.error error, host, fun handler goOn rest => toResult handler _ rest⟩
    | ok value =>
        obtain ⟨result, host', toNext⟩ := (second value).answers { world with host }
        exact ⟨result, host', fun handler goOn rest =>
          (toResult handler _ rest).trans (toNext handler goOn rest)⟩

instance (attempt : Attempt α) (next : α → Attempt β) [first : Asks attempt]
    [second : ∀ value, Asks (next value)] : Asks (attempt >>= next) :=
  first.bind second

instance (items : List α) (attempt : α → Attempt β) [∀ item, Asks (attempt item)] :
    Asks (items.mapM attempt) := by
  induction items with
  | nil =>
      rw [List.mapM_nil]
      infer_instance
  | cons item items ih =>
      rw [List.mapM_cons]
      infer_instance

instance (item : Option α) (attempt : α → Attempt β) [∀ item, Asks (attempt item)] :
    Asks (item.mapM attempt) := by
  cases item with
  | none => exact inferInstanceAs (Asks (pure none))
  | some item => exact inferInstanceAs (Asks (attempt item >>= fun value => pure (some value)))

instance : Asks document := by
  unfold document
  infer_instance

instance : Asks session := by
  unfold session
  infer_instance

instance (name : String) : Asks (node name) := by
  refine Asks.bind inferInstance fun session => ?_
  cases session.nodes.lookup name <;> infer_instance

instance (name : String) : Asks (report name) := by
  refine Asks.bind inferInstance fun session => ?_
  cases session.reports.lookup name <;> infer_instance

instance (name : Option String) (n : NodeId) : Asks (give name n) := by
  unfold give
  cases name <;> infer_instance

instance (n : NodeId) : Asks (place n) := by
  unfold place
  infer_instance

instance (n : NodeId) : Asks (Attempt.outerHtml n) := by
  unfold Attempt.outerHtml
  infer_instance

instance (n : NodeId) : Asks (summary n) := by
  unfold summary
  infer_instance

instance (name : String) (index : Nat) (nodes : List NodeId) : Asks (giveAll name index nodes) := by
  induction nodes generalizing index with
  | nil =>
      unfold giveAll
      infer_instance
  | cons n rest ih =>
      unfold giveAll
      infer_instance

end Attempt

/-! ## Questions -/

def Step.isQuestion : Step → Bool
  | outerHtml _ | innerHtml _ | text _ | describe _ | getAttribute _ _ | hasClass _ _ | children _
  | parent _ _ | inspect _ | contains _ _ | same _ _ | selectFirst _ _ _ | selectAll _ _ _
  | countHandlers _ | reportSummary _ => true
  | _ => false

open Attempt in
theorem Step.asks {step : Step} (question : step.isQuestion = true) : Asks step.attempt := by
  cases step with
  | outerHtml | innerHtml | text | describe | getAttribute | hasClass | children | inspect
  | contains | same | countHandlers | reportSummary =>
      unfold attempt
      infer_instance
  | parent name found =>
      refine Asks.bind inferInstance fun doc => .bind inferInstance fun n => ?_
      cases doc.parent n <;> infer_instance
  | selectFirst name selector found =>
      refine Asks.bind inferInstance fun doc => .bind inferInstance fun n => ?_
      rcases doc.selectFirst n selector with error | ⟨⟨⟩ | first⟩ <;> infer_instance
  | selectAll name selector found =>
      refine Asks.bind inferInstance fun doc => .bind inferInstance fun n => ?_
      cases doc.selectAll n selector with
      | error error => infer_instance
      | ok nodes => cases found <;> infer_instance
  | _ => cases question

namespace Session

theorem note_completes (entry : LogEntry) (world : World Reaction Session) :
    (note entry).Completes behaviour world
      { world with host := { world.host with log := world.host.log.push entry } } :=
  fun _ _ _ => .head rfl (.head rfl .refl)

/-- A question ends with an answer. What it leaves of the document is what giving up leaves. -/
theorem playStep_question {step : Step} (question : step.isQuestion = true)
    {world : World Reaction Session} (forest : world.document.IsForest) :
    ∃ (session : Session) (after : Document (Action Reaction)) (result : Except StepError Answer),
      session.GivesUp world.document after ∧
        (playStep step).Completes behaviour world
          { document := after, host := { session with log := session.log.push (.answer result) } } := by
  obtain ⟨result, session, answers⟩ := (Step.asks question).answers world
  let asked : World Reaction Session := { world with host := session }
  have forest' : asked.document.IsForest := forest
  obtain ⟨after, gaveUp, givesUp⟩ := giveUp_completes forest'
  have noted := gaveUp.bind (note_completes (.answer result) _)
  refine ⟨session, after, result, givesUp, fun handler next rest => ?_⟩
  have whole : (playStep step).bind next = step.attempt.run.bind fun result =>
      (giveUp.bind fun _ => note (.answer result)).bind next :=
    bind_assoc step.attempt.run (fun result => giveUp.bind fun _ => note (.answer result)) next
  rw [whole]
  exact (answers handler _ rest).trans (noted handler next rest)

end Session
end ReportCards
