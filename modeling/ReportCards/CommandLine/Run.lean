import ReportCards.CommandLine.Output
import ReportCards.Fetch
import ReportCards.Settings

/-!
# Running a command

A run takes the arguments and whatever the environment answers, and ends with the text to print or
with a failure; there is no text without success. The environment is a record of functions in some
monad.

A settings file that was named must be there and make sense. The one at the platform's own place is
used only if it does. A window whose sum is too large is not computed: the run breaks off.
-/
namespace ReportCards

inductive RunFailure where
  | usage
  | log (fault : FileFault)
  | error (error : Error)
  | client (error : FetchError)
  | fetch (source : String) (error : FetchError)
  | unreadable (source : String) (fault : FileFault)
  | invalidJson (source : String)
  | overflow

namespace RunFailure

def message : RunFailure → String
  | usage => "the arguments are not understood"
  | log fault => fault.message
  | .error cause => cause.message
  | .client cause => cause.message
  | fetch source _ => "Failed to fetch " ++ source
  | unreadable source fault => "Failed to read file " ++ source ++ ": " ++ fault.message
  | invalidJson source => "Invalid JSON in " ++ source
  | overflow => "attempt to add with overflow"

def cause? : RunFailure → Option String
  | .error (.file fault) => some fault.message
  | .fetch _ cause => some cause.message
  | _ => none

def exitCode : RunFailure → UInt32
  | usage => 2
  | overflow => 101
  | _ => 1

end RunFailure

abbrev RunOutcome := Except RunFailure String

namespace RunOutcome

def output : RunOutcome → String
  | .ok text => text
  | .error _ => ""

def exitCode : RunOutcome → UInt32
  | .ok _ => 0
  | .error failure => failure.exitCode

end RunOutcome

structure Variables where
  settings : Option String := none
  debugLog : Option String := none

inductive RunEvent where
  | readingSettings (path : String)
  | requesting (url : String)
  | rendering (id : String)
deriving DecidableEq, Repr

structure Environment (m : Type → Type) where
  textAt : String → m (Except FileFault String)
  platformSettings : m (Option String)
  transport : RequestSettings → Transport m
  openLog : String → m (Except FileFault Unit)
  note : RunEvent → m Unit

def isUserAgent (text : String) : Bool :=
  text.toList.all fun c => c = '\t' || (0x20 ≤ c.toNat && c.toNat ≠ 0x7F)

/-- Whether a source is to be fetched; every other source is a file. -/
def isUrl (source : String) : Bool :=
  let startsWith (start : String) : Bool := (Text.dropStart? start.toList source.toList).isSome
  startsWith "http://" || startsWith "https://"

namespace Environment

variable {m : Type → Type} [Monad m] (env : Environment m)

def loadSettings (path : Option String) : ExceptT RunFailure m Settings := do
  match path with
  | some path =>
      env.note (.readingSettings path)
      match ← env.textAt path with
      | .error fault => throw (.error (.file fault))
      | .ok text =>
          match Settings.read text with
          | .error error => throw (.error error)
          | .ok settings => return settings
  | none =>
      match ← env.platformSettings with
      | none => return {}
      | some text =>
          match Settings.read text with
          | .error _ => return {}
          | .ok settings => return settings

def loadSource (settings : RequestSettings) (source : String) : ExceptT RunFailure m Json := do
  if isUrl source then
    if settings.userAgent.all isUserAgent then
      env.note (.requesting source)
      match ← ExceptT.lift (fetchJson (env.transport settings) source) with
      | .error error => throw (.fetch source error)
      | .ok value => return value
    else throw (.client (.transport "the user agent cannot be sent"))
  else
    match ← env.textAt source with
    | .error fault => throw (.unreadable source fault)
    | .ok text =>
        match Json.read text with
        | none => throw (.invalidJson source)
        | some value => return value

def render (settings : Settings) (request : RenderRequest) : ExceptT RunFailure m String := do
  let value ← env.loadSource settings.requests request.source
  match Records.ofJson value request.columns with
  | .error error => throw (.error error)
  | .ok records =>
      env.note (.rendering request.id)
      match pageMarkup settings.sizing request records with
      | .error error => throw (.error error)
      | .ok markup => return markup

def runInvocation : Invocation → ExceptT RunFailure m String
  | .version => return "dashboard " ++ version
  | .run path command => do
      let settings ← env.loadSettings path
      match command with
      | .render request => env.render settings request
      | .window request =>
          let pageCount := settings.sizing.pageCount request.count
          if PageWindow.SumFits settings.sizing pageCount request.index then
            return (windowSummary settings.sizing request).write
          else throw .overflow

def run (given : Variables) (arguments : List String) : ExceptT RunFailure m String := do
  match given.debugLog with
  | none => pure ()
  | some path =>
      match ← env.openLog path with
      | .error fault => throw (.log fault)
      | .ok () => pure ()
  match Arguments.read given.settings arguments with
  | none => throw .usage
  | some invocation => return (← env.runInvocation invocation) ++ "\n"

end Environment
end ReportCards
