import ReportCards.Json.Reader
import ReportCards.Text.Utf8

namespace ReportCards

inductive BodyFormat where
  | raw
  | json
deriving DecidableEq, Repr, Inhabited

structure Response where
  status : UInt16
  body : List UInt8
deriving DecidableEq, Repr

inductive TransportFault where
  | timeout
  | failed (detail : String)
deriving DecidableEq, Repr

inductive Body where
  | text (value : String)
  | json (value : Json)

namespace Body

def text? : Body → Option String
  | text value => some value
  | json _ => none

def json? : Body → Option Json
  | text _ => none
  | json value => some value

end Body

inductive FetchError where
  | status (code : UInt16) (body : Body)
  | transport (detail : String)
  | timeout
  /-- The reply should be JSON and is not. What the library that reads JSON says about the fault is left
  out, so the message ends before it. -/
  | decode

namespace FetchError

def message : FetchError → String
  | status code _ => "HTTP status " ++ Decimal.ofNat code.toNat
  | transport detail => "Transport error: " ++ detail
  | timeout => "Request timed out"
  | decode => "Invalid JSON response"

def status? : FetchError → Option UInt16
  | status code _ => some code
  | _ => none

def body? : FetchError → Option Body
  | status _ body => some body
  | _ => none

def ofTransport : TransportFault → FetchError
  | .timeout => timeout
  | .failed detail => transport detail

end FetchError

def Response.isSuccess (response : Response) : Bool :=
  response.status = 200

def Json.ofBytes? (bytes : List UInt8) : Option Json :=
  (Text.Utf8.decode? bytes).bind Json.read

def Response.readBody (response : Response) (format : BodyFormat) : Except FetchError Body :=
  match format with
  | .raw => .ok (.text (Text.Utf8.decodeLossy response.body))
  | .json =>
      match Json.ofBytes? response.body with
      | some value => .ok (.json value)
      | none => if response.isSuccess then .error .decode else .ok (.json .null)

def Response.outcome (response : Response) (format : BodyFormat) : Except FetchError Body := do
  let body ← response.readBody format
  if response.isSuccess then return body else throw (.status response.status body)

def Body.value : Body → Json
  | json value => value
  | text value => .string value

abbrev Transport (m : Type → Type) := String → m (Except TransportFault Response)

section

variable {m : Type → Type} [Monad m]

def fetch (get : Transport m) (url : String) (format : BodyFormat) :
    m (Except FetchError Body) := do
  match ← get url with
  | .error fault => return .error (.ofTransport fault)
  | .ok response => return response.outcome format

def fetchJson (get : Transport m) (url : String) : m (Except FetchError Json) := do
  return (← fetch get url .json).map Body.value

structure Scheduler (m : Type → Type) where
  spawn : m Unit → m Unit
  spawnLocal : m Unit → m Unit

variable (scheduler : Scheduler m)

def fetchThen (get : Transport m) (url : String) (format : BodyFormat)
    (callback : Except FetchError Body → m Unit) : m Unit :=
  scheduler.spawn (fetch get url format >>= callback)

def fetchJsonThen (get : Transport m) (url : String)
    (callback : Except FetchError Body → m Unit) : m Unit :=
  fetchThen scheduler get url .json callback

def fetchLocalThen (get : Transport m) (url : String) (format : BodyFormat)
    (callback : Except FetchError Body → m Unit) : m Unit :=
  scheduler.spawnLocal (fetch get url format >>= callback)

def fetchJsonLocalThen (get : Transport m) (url : String)
    (callback : Except FetchError Body → m Unit) : m Unit :=
  fetchLocalThen scheduler get url .json callback

end

end ReportCards
