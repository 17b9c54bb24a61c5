import ReportCards.CommandLine.Run
import ReportCards.Proofs.CommandLine.Page
import ReportCards.Proofs.Fetch.Outcome
import ReportCards.Proofs.Records.Reading

namespace ReportCards
open Document Edit

/-! ## Stages -/

theorem run_liftM_bind {m : Type → Type} [Monad m] [LawfulMonad m] {ε α β : Type} (first : m α)
    (next : α → ExceptT ε m β) :
    ((liftM first : ExceptT ε m α) >>= next).run = first >>= fun value => (next value).run := by
  rw [ExceptT.run_bind]
  simp

theorem id_bind {α β : Type} (first : Id α) (next : α → Id β) : first >>= next = next first :=
  rfl

theorem run_bind_eq_ok_iff {ε α β : Type} {first : ExceptT ε Id α} {next : α → ExceptT ε Id β}
    {result : β} : (first >>= next).run = Except.ok result ↔
      ∃ value, first.run = Except.ok value ∧ (next value).run = Except.ok result := by
  rw [ExceptT.run_bind, id_bind]
  cases first.run with
  | error fault =>
      constructor
      · intro run; cases run
      · rintro ⟨_, run, -⟩; cases run
  | ok value =>
      constructor
      · intro run; exact ⟨value, rfl, run⟩
      · rintro ⟨_, run, run'⟩; cases run; exact run'

theorem mapError_eq_ok_iff {ε ε' α : Type} {first : Except ε α} {named : ε → ε'} {result : α} :
    first.mapError named = .ok result ↔ first = .ok result := by
  cases first <;> simp [Except.mapError]

theorem elim_error_eq_ok_iff {ε α : Type} {found : Option α} {fault : ε} {result : α} :
    found.elim (Except.error fault) Except.ok = .ok result ↔ found = some result := by
  cases found <;> simp

structure Settings.Denotes (text : String) (settings : Settings) : Prop where
  parses : ∃ document, Toml.read text = some document ∧ Settings.ofToml document = .ok settings
  pageSize_ne : settings.sizing.pageSize ≠ 0
  maxHandles_ne : settings.sizing.maxHandles ≠ 0

theorem Settings.read_eq_ok_iff {text : String} {settings : Settings} :
    Settings.read text = .ok settings ↔ Settings.Denotes text settings := by
  unfold Settings.read
  constructor
  · intro read
    split at read
    · cases read
    · rename_i document parsed
      split at read
      · cases read
      · rename_i found understood
        cases valid : found.sizing.validate with
        | error fault => rw [valid] at read; cases read
        | ok =>
            rw [valid] at read
            cases read
            obtain ⟨pageSize, maxHandles⟩ := (Sizing.validate_eq_ok_iff _).1 valid
            exact ⟨⟨document, parsed, understood⟩, pageSize, maxHandles⟩
  · rintro ⟨⟨document, parsed, understood⟩, pageSize, maxHandles⟩
    have valid := (Sizing.validate_eq_ok_iff _).2 ⟨pageSize, maxHandles⟩
    simp only [parsed, understood, valid]
    rfl

theorem Reply.map_value_eq_ok_iff {reply : Reply} {value : Json} :
    (reply.outcome .json).map Body.value = .ok value ↔
      ∃ response, reply = .ok response ∧ response.status = 200 ∧
        Json.ofBytes? response.body = some value := by
  constructor
  · intro mapped
    cases outcome : reply.outcome .json with
    | error error => rw [outcome] at mapped; cases mapped
    | ok body =>
        rw [outcome] at mapped
        cases mapped
        obtain ⟨response, rfl, success, has, rfl⟩ := (outcome_eq_ok_iff body).1 outcome
        obtain ⟨value, json⟩ := has.resolve_left (by decide)
        refine ⟨response, rfl, success, ?_⟩
        rw [Response.bodyAs, json]
        rfl
  · rintro ⟨response, rfl, success, json⟩
    have outcome : Reply.outcome (.ok response) .json = .ok (response.bodyAs .json) :=
      response.outcome_of_body success (.inr ⟨value, json⟩)
    rw [outcome, Response.bodyAs, json]
    rfl

namespace Environment

variable {env : Environment Id} {path : Option String} {settings : Settings} {source : String}
  {value : Json}

/-- The settings of a run. A file that was named must denote some; the one at the platform's own place does
not count if it denotes none. -/
inductive Configures (env : Environment Id) : Option String → Settings → Prop
  | named {path text : String} {settings : Settings} (readable : env.textAt path = .ok text)
      (denotes : Settings.Denotes text settings) : Configures env (some path) settings
  | platform {text : String} {settings : Settings} (present : env.platformSettings = some text)
      (denotes : Settings.Denotes text settings) : Configures env none settings
  | ignored {text : String} (present : env.platformSettings = some text)
      (broken : ∀ settings, ¬ Settings.Denotes text settings) : Configures env none {}
  | absent (absent : env.platformSettings = none) : Configures env none {}

inductive Supplies (env : Environment Id) (settings : RequestSettings) (source : String) : Json → Prop
  | file {text : String} {value : Json} (isFile : isUrl source = false)
      (readable : env.textAt source = .ok text) (json : Json.read text = some value) :
      Supplies env settings source value
  | reply {response : Response} {value : Json} (isFetched : isUrl source = true)
      (agent : settings.userAgent.all isUserAgent = true)
      (replied : env.transport settings source = .ok response) (success : response.status = 200)
      (json : Json.ofBytes? response.body = some value) : Supplies env settings source value

theorem loadSettings_named (path : String) : (env.loadSettings (some path)).run =
    Except.bind (Except.mapError (RunFailure.error ∘ Error.file) (env.textAt path)) fun text =>
      (Settings.read text).mapError RunFailure.error := by
  unfold loadSettings
  simp only [run_liftM_bind, id_bind]
  cases env.textAt path with
  | error fault => rfl
  | ok text =>
      dsimp only [Except.mapError, Except.bind]
      cases Settings.read text <;> rfl

theorem loadSettings_platform : (env.loadSettings none).run =
    Except.ok ((env.platformSettings.bind fun text => (Settings.read text).toOption).getD {}) := by
  unfold loadSettings
  simp only [run_liftM_bind, id_bind]
  cases env.platformSettings with
  | none => rfl
  | some text =>
      dsimp only [Option.bind_some]
      cases Settings.read text <;> rfl

theorem loadSource_file (isFile : isUrl source = false) (requests : RequestSettings) :
    (env.loadSource requests source).run =
      Except.bind (Except.mapError (RunFailure.unreadable source) (env.textAt source)) fun text =>
        (Json.read text).elim (Except.error (RunFailure.invalidJson source)) Except.ok := by
  unfold loadSource
  rw [isFile]
  simp only [run_liftM_bind, id_bind, Bool.false_eq_true, if_false]
  cases env.textAt source with
  | error fault => rfl
  | ok text =>
      dsimp only [Except.mapError, Except.bind]
      cases Json.read text <;> rfl

theorem loadSource_url (isFetched : isUrl source = true) (requests : RequestSettings) :
    (env.loadSource requests source).run =
      if requests.userAgent.all isUserAgent then
        ((Reply.outcome (env.transport requests source) .json).map Body.value).mapError
          (RunFailure.fetch source)
      else Except.error (.client (.transport "the user agent cannot be sent")) := by
  have fetched : fetchJson (env.transport requests) source =
      (Reply.outcome (env.transport requests source) .json).map Body.value := by
    rw [fetchJson, fetch_eq]
    rfl
  unfold loadSource
  rw [isFetched]
  cases agent : requests.userAgent.all isUserAgent with
  | false => rfl
  | true =>
      simp only [run_liftM_bind, ExceptT.run_bind_lift, id_bind, if_true, fetched]
      cases (Reply.outcome (env.transport requests source) .json).map Body.value <;> rfl

theorem loadSettings_eq_ok_iff :
    (env.loadSettings path).run = Except.ok settings ↔ env.Configures path settings := by
  cases path with
  | some path =>
      rw [loadSettings_named, bind_eq_ok_iff]
      simp only [mapError_eq_ok_iff, Settings.read_eq_ok_iff]
      constructor
      · rintro ⟨text, readable, denotes⟩
        exact .named readable denotes
      · rintro ⟨readable, denotes⟩
        exact ⟨_, readable, denotes⟩
  | none =>
      rw [loadSettings_platform]
      constructor
      · intro loaded
        cases loaded
        cases present : env.platformSettings with
        | none => exact .absent present
        | some text =>
            rw [Option.bind_some]
            cases denoted : Settings.read text with
            | ok settings => exact .platform present (Settings.read_eq_ok_iff.1 denoted)
            | error error =>
                apply Configures.ignored present
                intro settings denotes
                rw [Settings.read_eq_ok_iff.2 denotes] at denoted
                cases denoted
      · intro configures
        cases configures with
        | platform present denotes =>
            rw [present, Option.bind_some, Settings.read_eq_ok_iff.2 denotes]
            rfl
        | @ignored text present broken =>
            rw [present, Option.bind_some]
            cases denoted : Settings.read text with
            | error error => rfl
            | ok settings => exact absurd (Settings.read_eq_ok_iff.1 denoted) (broken settings)
        | absent nothing =>
            rw [nothing]
            rfl

theorem loadSource_eq_ok_iff {requests : RequestSettings} :
    (env.loadSource requests source).run = Except.ok value ↔ env.Supplies requests source value := by
  cases fetched : isUrl source with
  | false =>
      rw [loadSource_file fetched, bind_eq_ok_iff]
      simp only [mapError_eq_ok_iff, elim_error_eq_ok_iff]
      constructor
      · rintro ⟨text, readable, json⟩
        exact .file fetched readable json
      · intro supplies
        cases supplies with
        | file _ readable json => exact ⟨_, readable, json⟩
        | reply isFetched => rw [fetched] at isFetched; cases isFetched
  | true =>
      rw [loadSource_url fetched]
      constructor
      · intro loaded
        cases agent : requests.userAgent.all isUserAgent with
        | false => rw [agent] at loaded; cases loaded
        | true =>
            rw [if_pos agent] at loaded
            obtain ⟨response, replied, success, json⟩ :=
              Reply.map_value_eq_ok_iff.1 (mapError_eq_ok_iff.1 loaded)
            exact .reply fetched agent replied success json
      · intro supplies
        cases supplies with
        | file isFile => rw [fetched] at isFile; cases isFile
        | reply _ agent replied success json =>
            rw [if_pos agent]
            exact mapError_eq_ok_iff.2 (Reply.map_value_eq_ok_iff.2 ⟨_, replied, success, json⟩)

/-! ## Runs -/

structure Prepares (env : Environment Id) (path : Option String) (request : RenderRequest)
    (settings : Settings) (records : Records) : Prop where
  configures : env.Configures path settings
  supplies : ∃ value, env.Supplies settings.requests request.source value ∧
    Records.ofJson value request.columns = .ok records

theorem Configures.denotes_or_default (configures : env.Configures path settings) :
    (∃ text, Settings.Denotes text settings) ∨ settings = {} := by
  cases configures with
  | named _ denotes | platform _ denotes => exact .inl ⟨_, denotes⟩
  | ignored | absent => exact .inr rfl

theorem Configures.sizes_ne (configures : env.Configures path settings) :
    settings.sizing.pageSize ≠ 0 ∧ settings.sizing.maxHandles ≠ 0 := by
  rcases configures.denotes_or_default with ⟨text, denotes⟩ | rfl
  · exact ⟨denotes.pageSize_ne, denotes.maxHandles_ne⟩
  · decide

theorem Configures.valid (configures : env.Configures path settings) :
    settings.sizing.validate = .ok () :=
  (Sizing.validate_eq_ok_iff _).2 configures.sizes_ne

theorem Configures.eq_default (configures : env.Configures none settings)
    (broken : ∀ text found, env.platformSettings = some text → ¬ Settings.Denotes text found) :
    settings = {} := by
  cases configures with
  | platform present denotes => exact absurd denotes (broken _ _ present)
  | ignored | absent => rfl

theorem exists_configures (env : Environment Id) : ∃ settings, env.Configures none settings :=
  ⟨_, loadSettings_eq_ok_iff.1 loadSettings_platform⟩

theorem render_eq_ok_iff (valid : settings.sizing.validate = .ok ()) {request : RenderRequest}
    {text : String} : (env.render settings request).run = Except.ok text ↔
      ∃ records, (∃ value, env.Supplies settings.requests request.source value ∧
          Records.ofJson value request.columns = .ok records) ∧
        text = pageText settings.sizing request records := by
  unfold render
  rw [run_bind_eq_ok_iff]
  simp only [loadSource_eq_ok_iff]
  constructor
  · rintro ⟨value, supplies, rendered⟩
    cases found : Records.ofJson value request.columns with
    | error error => rw [found] at rendered; cases rendered
    | ok records =>
        rw [found] at rendered
        simp only [run_liftM_bind, id_bind, pageMarkup_eq_ok valid] at rendered
        exact ⟨records, ⟨value, supplies, found⟩, (Except.ok.inj rendered).symm⟩
  · rintro ⟨records, ⟨value, supplies, found⟩, rfl⟩
    refine ⟨value, supplies, ?_⟩
    rw [found]
    simp only [run_liftM_bind, id_bind, pageMarkup_eq_ok valid]
    rfl

section

variable {given : Variables} {arguments : List String} {request : RenderRequest}

theorem run_eq_ok_iff (quiet : given.debugLog = none)
    (proper : Arguments.read given.settings arguments = some (.run path (.render request))) {text : String} :
    (env.run given arguments).run = Except.ok text ↔
      ∃ settings records, env.Prepares path request settings records ∧
        text = pageText settings.sizing request records ++ "\n" := by
  unfold run
  rw [quiet, proper]
  change (do
    let page ← (do
      let settings ← env.loadSettings path
      env.render settings request)
    return page ++ "\n" : ExceptT RunFailure Id String).run = _ ↔ _
  simp only [run_bind_eq_ok_iff, loadSettings_eq_ok_iff]
  constructor
  · rintro ⟨page, ⟨settings, configures, rendered⟩, printed⟩
    obtain ⟨records, supplies, rfl⟩ := (render_eq_ok_iff configures.valid).1 rendered
    exact ⟨settings, records, ⟨configures, supplies⟩, (Except.ok.inj printed).symm⟩
  · rintro ⟨settings, records, prepares, rfl⟩
    refine ⟨_, ⟨settings, prepares.configures, ?_⟩, rfl⟩
    exact (render_eq_ok_iff prepares.configures.valid).2 ⟨records, prepares.supplies, rfl⟩

theorem run_of_prepares (quiet : given.debugLog = none)
    (proper : Arguments.read given.settings arguments = some (.run path (.render request))) {records : Records}
    (prepares : env.Prepares path request settings records) :
    (env.run given arguments).run = Except.ok (pageText settings.sizing request records ++ "\n") :=
  (run_eq_ok_iff quiet proper).2 ⟨settings, records, prepares, rfl⟩

theorem run_past_end (quiet : given.debugLog = none)
    (proper : Arguments.read given.settings arguments = some (.run path (.render request)))
    {others : List String} {page : UInt64}
    (proper' : Arguments.read given.settings others = some (.run path (.render { request with page })))
    {records : Records} (prepares : env.Prepares path request settings records)
    (past : settings.sizing.lastPage records.count ≤ request.page)
    (past' : settings.sizing.lastPage records.count ≤ page) :
    (env.run given others).run = (env.run given arguments).run := by
  have prepares' : env.Prepares path { request with page } settings records :=
    ⟨prepares.configures, prepares.supplies⟩
  rw [run_of_prepares quiet proper prepares, run_of_prepares quiet proper' prepares',
    pageText_past_end past past']

end

end Environment

namespace RunOutcome

variable {outcome : RunOutcome}

theorem exitCode_eq_zero_iff : outcome.exitCode = 0 ↔ ∃ text, outcome = .ok text := by
  cases outcome with
  | ok text => simp [exitCode]
  | error failure =>
      have nonzero : failure.exitCode ≠ 0 := by
        cases failure <;> simp [RunFailure.exitCode]
      simp [exitCode, nonzero]

theorem output_of_exitCode_ne (failed : outcome.exitCode ≠ 0) : outcome.output = "" := by
  cases outcome with
  | ok text => exact absurd rfl failed
  | error failure => rfl

end RunOutcome

/-- A call of `render` ends with code zero if it has settings, a value and records, and with another code
and without a text in all other cases. What it prints is the markup of the row, at the wanted page or at the
last one. Its settings can always be used, and without a named file they are always there. -/
theorem render_outcome (env : Environment Id) {given : Variables} {arguments : List String}
    {path : Option String} {request : RenderRequest} (quiet : given.debugLog = none)
    (proper : Arguments.read given.settings arguments = some (.run path (.render request))) :
    let outcome : RunOutcome := (env.run given arguments).run
    (outcome.exitCode = 0 ↔ ∃ settings records, env.Prepares path request settings records) ∧
    (outcome.exitCode ≠ 0 → outcome.output = "") ∧
    (∀ settings records, env.Prepares path request settings records →
      let page := settings.sizing.clamp records.count request.page
      (∃ row doc, (buildPage settings.sizing { request with page } records).run {} = .ok row doc ∧
        outcome.output = doc.outerHtml row ++ "\n") ∧
      outcome.output = pageText settings.sizing request records ++ "\n" ∧
      ∀ others page', Arguments.read given.settings others =
          some (.run path (.render { request with page := page' })) →
        settings.sizing.lastPage records.count ≤ request.page →
        settings.sizing.lastPage records.count ≤ page' → (env.run given others).run = outcome) ∧
    (∀ settings, env.Configures path settings →
      settings.sizing.pageSize ≠ 0 ∧ settings.sizing.maxHandles ≠ 0 ∧
        settings.sizing.validate = .ok ()) ∧
    (∃ settings, env.Configures none settings) ∧
    ∀ settings, env.Configures none settings →
      (∀ text found, env.platformSettings = some text → ¬ Settings.Denotes text found) →
        settings.sizing = {} := by
  intro outcome
  refine ⟨?_, RunOutcome.output_of_exitCode_ne, ?_, ?_, env.exists_configures, ?_⟩
  · simp only [RunOutcome.exitCode_eq_zero_iff, outcome, Environment.run_eq_ok_iff quiet proper]
    constructor
    · rintro ⟨text, settings, records, prepares, -⟩
      exact ⟨settings, records, prepares⟩
    · rintro ⟨settings, records, prepares⟩
      exact ⟨_, settings, records, prepares, rfl⟩
  · intro settings records prepares page
    have ended : outcome = .ok (pageText settings.sizing request records ++ "\n") :=
      Environment.run_of_prepares quiet proper prepares
    have printed : outcome.output = pageText settings.sizing request records ++ "\n" := by
      rw [ended, RunOutcome.output]
    obtain ⟨row, doc, run, shown⟩ := exists_outerHtml_eq prepares.configures.valid request records
    refine ⟨⟨row, doc, run, ?_⟩, printed, ?_⟩
    · rw [printed, shown]
    · intro others page' proper' past past'
      exact Environment.run_past_end quiet proper proper' prepares past past'
  · intro settings configures
    exact ⟨configures.sizes_ne.1, configures.sizes_ne.2, configures.valid⟩
  · intro settings configures broken
    rw [configures.eq_default broken]

def folder : Environment Id where
  textAt path :=
    if path = "rows.json" then .ok "[\"a\",\"b\",\"c\",\"d\",\"e\",\"f\"]" else .error .notFound
  platformSettings := some "[pagination"
  transport _ _ := .error .timeout
  openLog _ := .ok ()
  note _ := ()

def pastTheEnd : RenderRequest :=
  { source := "rows.json", page := 7 }

def sixTexts : Records :=
  { columns := ["value"], rows := [["a"], ["b"], ["c"], ["d"], ["e"], ["f"]] }

theorem render_outcome_folder :
    let outcome : RunOutcome := (folder.run {} ["render", "rows.json", "--page", "7"]).run
    Arguments.read none ["render", "rows.json", "--page", "7"] = some (.run none (.render pastTheEnd)) ∧
      outcome.exitCode = 0 ∧
      ∃ row doc, (buildPage {} { pastTheEnd with page := 1 } sixTexts).run {} = .ok row doc ∧
        outcome.output = doc.outerHtml row ++ "\n" := by
  intro outcome
  have proper : Arguments.read none ["render", "rows.json", "--page", "7"] =
      some (.run none (.render pastTheEnd)) := by decide +kernel
  have broken : Toml.read "[pagination" = none := by rfl
  have json : Json.read "[\"a\",\"b\",\"c\",\"d\",\"e\",\"f\"]" =
      some (.array [.string "a", .string "b", .string "c", .string "d", .string "e", .string "f"]) := by cbv
  have prepares : folder.Prepares none pastTheEnd {} sixTexts := by
    refine ⟨.ignored rfl ?_, _, .file (by decide) rfl json, rfl⟩
    rintro settings ⟨⟨document, parses, -⟩, -, -⟩
    rw [broken] at parses
    cases parses
  obtain ⟨ends, -, printed, -⟩ := render_outcome folder (rfl : ({} : Variables).debugLog = none) proper
  obtain ⟨page, -⟩ := printed {} sixTexts prepares
  exact ⟨proper, ends.2 ⟨_, _, prepares⟩, page⟩

end ReportCards
