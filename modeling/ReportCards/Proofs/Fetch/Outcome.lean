import ReportCards.Fetch

namespace ReportCards

variable {m : Type → Type} [Monad m]

abbrev Reply := Except TransportFault Response

def Reply.outcome (reply : Reply) (format : BodyFormat) : Except FetchError Body :=
  match reply with
  | .error fault => .error (.ofTransport fault)
  | .ok response => response.outcome format

def Response.bodyAs (response : Response) : BodyFormat → Body
  | .raw => .text (Text.Utf8.decodeLossy response.body)
  | .json => .json ((Json.ofBytes? response.body).getD .null)

def Response.HasBody (response : Response) (format : BodyFormat) : Prop :=
  format = .raw ∨ ∃ value, Json.ofBytes? response.body = some value

/-! ## Outcomes -/

namespace Response

variable {response : Response} {format : BodyFormat}

theorem outcome_of_other (other : response.status ≠ 200) :
    response.outcome format = .error (.status response.status (response.bodyAs format)) := by
  have failure : response.isSuccess = false := by simp [isSuccess, other]
  cases format with
  | raw => simp [outcome, readBody, failure, bodyAs]; rfl
  | json =>
      cases body : Json.ofBytes? response.body with
      | none => simp [outcome, readBody, failure, bodyAs, body]; rfl
      | some value => simp [outcome, readBody, failure, bodyAs, body]; rfl

theorem outcome_of_body (success : response.status = 200) (body : response.HasBody format) :
    response.outcome format = .ok (response.bodyAs format) := by
  have success : response.isSuccess = true := by simp [isSuccess, success]
  cases format with
  | raw => simp [outcome, readBody, success, bodyAs]
  | json =>
      obtain ⟨value, found⟩ := body.resolve_left (by decide)
      simp [outcome, readBody, success, bodyAs, found]

theorem outcome_of_no_body (success : response.status = 200) (none : ¬ response.HasBody format) :
    response.outcome format = .error .decode := by
  have success : response.isSuccess = true := by simp [isSuccess, success]
  cases format with
  | raw => exact absurd (.inl rfl) none
  | json =>
      have found : Json.ofBytes? response.body = Option.none := by
        rw [Option.eq_none_iff_forall_ne_some]
        exact fun value found => none (.inr ⟨value, found⟩)
      simp [outcome, readBody, success, found]

end Response

namespace Reply

variable {reply : Reply} {format : BodyFormat}

theorem outcome_cases (reply : Reply) (format : BodyFormat) :
    (∃ fault, reply = .error fault ∧ reply.outcome format = .error (.ofTransport fault)) ∨
      ∃ response, reply = .ok response ∧
        (response.status ≠ 200 ∧
            reply.outcome format = .error (.status response.status (response.bodyAs format)) ∨
          response.status = 200 ∧ response.HasBody format ∧
            reply.outcome format = .ok (response.bodyAs format) ∨
          response.status = 200 ∧ ¬ response.HasBody format ∧ reply.outcome format = .error .decode) := by
  cases reply with
  | error fault => exact .inl ⟨fault, rfl, rfl⟩
  | ok response =>
      refine .inr ⟨response, rfl, ?_⟩
      by_cases success : response.status = 200
      · by_cases body : response.HasBody format
        · exact .inr (.inl ⟨success, body, response.outcome_of_body success body⟩)
        · exact .inr (.inr ⟨success, body, response.outcome_of_no_body success body⟩)
      · exact .inl ⟨success, response.outcome_of_other success⟩

theorem outcome_eq_ok_iff (body : Body) : reply.outcome format = .ok body ↔
    ∃ response, reply = .ok response ∧ response.status = 200 ∧ response.HasBody format ∧
      body = response.bodyAs format := by
  rcases outcome_cases reply format with
    ⟨fault, rfl, outcome⟩ | ⟨response, rfl, ⟨other, outcome⟩ | ⟨success, has, outcome⟩ | ⟨-, none, outcome⟩⟩
  · simp [outcome]
  · simp [outcome, other]
  · simp [outcome, success, has, eq_comm]
  · simp [outcome, none]

theorem outcome_eq_decode_iff : reply.outcome format = .error .decode ↔
    ∃ response, reply = .ok response ∧ response.status = 200 ∧ ¬ response.HasBody format := by
  rcases outcome_cases reply format with
    ⟨fault, rfl, outcome⟩ | ⟨response, rfl, ⟨other, outcome⟩ | ⟨success, has, outcome⟩ | ⟨success, none, outcome⟩⟩
  · cases fault <;> simp [outcome, FetchError.ofTransport]
  · simp [outcome, other]
  · simp [outcome, has]
  · simp [outcome, success, none]

theorem outcome_json (reply : Reply) :
    ((reply.outcome .json).map Body.value).map Body.json = reply.outcome .json := by
  cases outcome : reply.outcome .json with
  | error error => rfl
  | ok body =>
      obtain ⟨response, -, -, -, rfl⟩ := (outcome_eq_ok_iff body).1 outcome
      rfl

end Reply

/-! ## Requests and callbacks -/

inductive FetchEvent where
  | requested (url : String)
  | handedOver (outcome : Except FetchError Body)

abbrev Traced (m : Type → Type) := StateT (List FetchEvent) m

def Transport.traced (get : Transport m) : Transport (Traced m) := fun url => do
  modify (· ++ [.requested url])
  get url

def tracedCallback (callback : Except FetchError Body → m Unit) :
    Except FetchError Body → Traced m Unit := fun outcome => do
  modify (· ++ [.handedOver outcome])
  callback outcome

/-- Whoever finishes has waited until every task that was handed to the scheduler has run, once. -/
structure Scheduler.RunsAll (scheduler : Scheduler m) (finish : m Unit → m Unit) : Prop where
  spawn : ∀ task, finish (scheduler.spawn task) = task
  spawnLocal : ∀ task, finish (scheduler.spawnLocal task) = task

section

variable [LawfulMonad m] (get : Transport m) (url : String) (format : BodyFormat)

theorem fetch_eq : fetch get url format = (fun reply => Reply.outcome reply format) <$> get url := by
  rw [fetch, map_eq_pure_bind]
  congr 1
  funext reply
  cases reply <;> rfl

theorem run_traced (events : List FetchEvent) : (get.traced url).run events =
    (fun reply => (reply, events ++ [.requested url])) <$> get url := by
  simp [Transport.traced]

theorem run_fetch (events : List FetchEvent) : (fetch get.traced url format).run events =
    (fun reply => (Reply.outcome reply format, events ++ [.requested url])) <$> get url := by
  simp [fetch_eq, run_traced]

theorem run_fetchJson (events : List FetchEvent) : (fetchJson get.traced url).run events =
    (fun reply => ((Reply.outcome reply .json).map Body.value, events ++ [.requested url])) <$>
      get url := by
  simp [fetchJson, run_fetch]

theorem fetchJson_eq : Except.map Body.json <$> fetchJson get url = fetch get url .json := by
  simp [fetchJson, fetch_eq, Reply.outcome_json]

theorem run_fetch_callback (callback : Except FetchError Body → m Unit) (events : List FetchEvent) :
    (fetch get.traced url format >>= tracedCallback callback).run events = (do
      let outcome ← fetch get url format
      callback outcome
      return ((), events ++ [.requested url, .handedOver outcome])) := by
  simp [fetch_eq, run_traced, tracedCallback]

/-- Every way to fetch makes one request and comes to the same outcome, which the reply determines; a
callback is called once, with that outcome. -/
theorem fetch_outcome {scheduler : Scheduler (Traced m)} {finish : Traced m Unit → Traced m Unit}
    (runs : scheduler.RunsAll finish) (callback : Except FetchError Body → m Unit)
    (events : List FetchEvent) :
    -- One request is made, and nothing but the reply to it counts.
    (fetch get.traced url format).run events =
      (fun reply => (Reply.outcome reply format, events ++ [.requested url])) <$> get url ∧
    (fetchJson get.traced url).run events =
      (fun reply => ((Reply.outcome reply .json).map Body.value, events ++ [.requested url])) <$>
        get url ∧
    Except.map Body.json <$> fetchJson get url = fetch get url .json ∧
    (∀ reply text, Reply.outcome reply .json ≠ .ok (.text text)) ∧
    -- What each reply comes to.
    (∀ reply body, Reply.outcome reply format = .ok body ↔
      ∃ response, reply = .ok response ∧ response.status = 200 ∧ response.HasBody format ∧
        body = response.bodyAs format) ∧
    (∀ response : Response, response.status ≠ 200 →
      Reply.outcome (.ok response) format =
        .error (.status response.status (response.bodyAs format))) ∧
    (∀ reply, Reply.outcome reply format = .error .decode ↔
      ∃ response, reply = .ok response ∧ response.status = 200 ∧ ¬ response.HasBody format) ∧
    Reply.outcome (.error .timeout) format = .error .timeout ∧
    (∀ detail, Reply.outcome (.error (.failed detail)) format = .error (.transport detail)) ∧
    -- A callback is called once, with the outcome of the direct call.
    let called (format : BodyFormat) : m (Unit × List FetchEvent) := do
      let outcome ← fetch get url format
      callback outcome
      return ((), events ++ [.requested url, .handedOver outcome])
    (finish (fetchThen scheduler get.traced url format (tracedCallback callback))).run events =
      called format ∧
    (finish (fetchJsonThen scheduler get.traced url (tracedCallback callback))).run events =
      called .json ∧
    (finish (fetchLocalThen scheduler get.traced url format (tracedCallback callback))).run events =
      called format ∧
    (finish (fetchJsonLocalThen scheduler get.traced url (tracedCallback callback))).run events =
      called .json := by
  have direct := run_fetch_callback get url
  refine ⟨run_fetch get url format events, run_fetchJson get url events, fetchJson_eq get url, ?_,
    fun reply => Reply.outcome_eq_ok_iff, fun response => response.outcome_of_other,
    fun reply => Reply.outcome_eq_decode_iff, rfl, fun detail => rfl, ?_, ?_, ?_, ?_⟩
  · intro reply text outcome
    obtain ⟨response, -, -, -, isJson⟩ := (Reply.outcome_eq_ok_iff _).1 outcome
    cases isJson
  · rw [fetchThen, runs.spawn]
    exact direct format callback events
  · rw [fetchJsonThen, fetchThen, runs.spawn]
    exact direct .json callback events
  · rw [fetchLocalThen, runs.spawnLocal]
    exact direct format callback events
  · rw [fetchJsonLocalThen, fetchLocalThen, runs.spawnLocal]
    exact direct .json callback events

end

theorem fetch_outcome_unavailable :
    let get : Transport Id := fun _ => .ok { status := 503, body := [0x6F, 0x6F, 0x70, 0x73] }
    let scheduler : Scheduler (Traced Id) := { spawn := id, spawnLocal := id }
    scheduler.RunsAll id ∧
      (id (fetchJsonLocalThen scheduler get.traced "http://host/" (tracedCallback fun _ => ()))).run [] =
        ((), [.requested "http://host/", .handedOver (.error (.status 503 (.json .null)))]) := by
  intro get scheduler
  have runs : scheduler.RunsAll id := ⟨fun _ => rfl, fun _ => rfl⟩
  obtain ⟨-, -, -, -, -, other, -, -, -, -, -, -, called⟩ :=
    fetch_outcome get "http://host/" .json runs (fun _ => ()) []
  have noJson : Json.ofBytes? [0x6F, 0x6F, 0x70, 0x73] = none := by rfl
  have outcome := other { status := 503, body := [0x6F, 0x6F, 0x70, 0x73] } (by decide)
  rw [Response.bodyAs, noJson] at outcome
  refine ⟨runs, called.trans ?_⟩
  exact congrArg (fun outcome =>
    ((), [FetchEvent.requested "http://host/", FetchEvent.handedOver outcome])) outcome

end ReportCards
