import ReportCards.Paging.Sizing
import ReportCards.Toml.Reader

namespace ReportCards

structure RequestSettings where
  timeoutSeconds : UInt64 := 30
  userAgent : Option String := none
deriving DecidableEq, Repr

def RequestSettings.timeout (settings : RequestSettings) : Option UInt64 :=
  if settings.timeoutSeconds = 0 then none else some settings.timeoutSeconds

structure Settings where
  sizing : Sizing := {}
  requests : RequestSettings := {}
deriving DecidableEq, Repr

namespace Settings

def field? (content : Toml) (position : Nat) (key : String) : Except SettingsFault (Option Toml) :=
  match content with
  | .table fields => .ok (fields.lookup key)
  | .array items => .ok items[position]?
  | .moment _ => .ok none
  | _ => .error (.wrongType key)

/-- The word of a setting. TOML integers are signed, so half of the words can be written. -/
def word (content : Toml) (position : Nat) (key : String) (default : UInt64) :
    Except SettingsFault UInt64 := do
  match ← field? content position key with
  | none => return default
  | some (.integer n) =>
      if 0 ≤ n ∧ n < UInt64.size then return UInt64.ofNat n.toNat else throw (.wrongType key)
  | some _ => throw (.wrongType key)

def text? (content : Toml) (position : Nat) (key : String) :
    Except SettingsFault (Option String) := do
  match ← field? content position key with
  | none => return none
  | some (.string value) => return some value
  | some _ => throw (.wrongType key)

def sizingOf (content : Toml) : Except SettingsFault Sizing := do
  let default : Sizing := {}
  let pageSize ← word content 0 "page_size" default.pageSize
  let maxHandles ← word content 1 "max_handles" default.maxHandles
  return { pageSize, maxHandles }

def requestsOf (content : Toml) : Except SettingsFault RequestSettings := do
  let default : RequestSettings := {}
  let timeoutSeconds ← word content 0 "timeout_secs" default.timeoutSeconds
  let userAgent ← text? content 1 "user_agent"
  return { timeoutSeconds, userAgent }

def ofToml (document : Toml) : Except SettingsFault Settings := do
  let content (key : String) : Except SettingsFault Toml :=
    match document with
    | .table fields => .ok ((fields.lookup key).getD (.table []))
    | _ => .error .malformed
  let sizing ← sizingOf (← content "pagination")
  let requests ← requestsOf (← content "http")
  return { sizing, requests }

def read (text : String) : Except Error Settings :=
  match Toml.read text with
  | none => .error (.settings .malformed)
  | some document =>
      match ofToml document with
      | .error fault => .error (.settings fault)
      | .ok settings => do
          settings.sizing.validate
          return settings

end Settings
end ReportCards
