import Bonding.Session.Basic
import Bonding.Json.Parse
import Bonding.Metrics.Protobuf
import Bonding.Web.Accept
import Bonding.Web.Target
import Bonding.Web.Cors
import Bonding.Web.Headers

/-!
The HTTP API of a session. A request is routed by its clean path, and a path that is not clean is
redirected to its clean form. A known path asked with another method is refused with 405 outside
`/api` and on its last route, and is not found under `/api` otherwise; an unknown path is 404. Contract failures answer `{"error": true, "message"}` with a status chosen by
the class of the failure, and a document that holds an instant outside the years a record can
hold is sent as a status with no body. Calls made here run, are recorded and counted like any
other call. Every answer goes through the cross-origin policy of the API, and a preflight is
answered by the policy alone.
-/

namespace Bonding

def Fault.httpStatus (f : Fault) : Nat :=
  match f.sentinel? with
  | some .notInstantiated => 503
  | some .unauthorized => 403
  | some .unknownMessage | some .noPosition | some .noWarmupEntry | some .priceNotFound => 404
  | some .arithmetic => 422
  | _ => 400

def Committed.document (c : Committed) : Json := .obj [("trace_id", .str c.trace),
  ("height", .ofNat c.height), ("time", .str c.time.rfc3339Nano),
  ("events", .arr (c.events.map Event.toObjectJson))]

namespace Web

/-- A request: its method, target, headers and body. -/
structure Request where
  method : String
  target : Target
  headers : Headers
  body : String
  deriving Repr, Inhabited

def Request.header? (r : Request) (name : String) : Option String := r.headers.get? name

/-- What a response carries. -/
inductive Payload where
  /-- a JSON document -/
  | document (j : Json)
  /-- plain text -/
  | text (s : String)
  /-- bytes that need not be text -/
  | bytes (bs : List UInt8)
  /-- nothing -/
  | empty
  deriving Repr, Inhabited

/-- A response: its status, content type, cross-origin headers and payload. -/
structure Response where
  status : Nat
  contentType : String
  allowOrigin : Option String
  allowMethods : Option String
  payload : Payload
  deriving Repr, Inhabited

def jsonType : String := "application/json"

def textType : String := "text/plain; charset=utf-8"


namespace Response

def bare (status : Nat) : Response := ⟨status, "", none, none, .empty⟩

def json (status : Nat) (doc : Json) (times : List Instant) : Response :=
  ⟨status, jsonType, none, none, if times.all Instant.inJsonRange then .document doc else .empty⟩

def error (status : Nat) (message : String) : Response :=
  json status (.obj [("error", .bool true), ("message", .str message)]) []

def text (status : Nat) (body : String) : Response := ⟨status, textType, none, none, .text body⟩

def notFound : Response := text 404 "404 page not found\n"

end Response

def failure (f : Fault) : Result Response :=
  match f with
  | .panic v => .error (.panic v)
  | f => .ok (Response.error (f.httpStatus) f.message)

/-- The routes of the API. -/
inductive Route where
  | health
  | metrics
  | query (contract query : ByteText)
  | balance (address denom : String)
  | execute
  | transfer
  | receipts
  | epochs
  | summary
  deriving Repr, Inhabited

/-- The route of a clean path and the method it answers; the metrics route exists only when the
session keeps metrics. The names in a query path are kept as bytes. -/
def Route.ofPath? (withMetrics : Bool) (t : Target) : Option (Route × String) :=
  let text (bs : List Nat) : String := (ByteText.mk bs).text
  match t.segments.map text, t.segments with
  | ["", "api", "query", _, _], [_, _, _, c, q] =>
    if c.isEmpty || q.isEmpty then none else some (.query ⟨c⟩ ⟨q⟩, "GET")
  | segs, _ =>
  match segs with
  | ["", "health"] => some (.health, "GET")
  | ["", "metrics"] => if withMetrics then some (.metrics, "GET") else none
  | ["", "api", "health"] => some (.health, "GET")
  | ["", "api", "balance", a, d] => if a.isEmpty || d.isEmpty then none else some (.balance a d, "GET")
  | ["", "api", "execute"] => some (.execute, "POST")
  | ["", "api", "transfer"] => some (.transfer, "POST")
  | ["", "api", "receipts"] => some (.receipts, "GET")
  | ["", "api", "epochs"] => some (.epochs, "GET")
  | ["", "api", "summary"] => some (.summary, "GET")
  | _ => none

/-- The body of an execute call. -/
structure ExecuteRequest where
  sender : String := ""
  contract : String := ""
  funds : Coins := []
  msg : Option Json := none
  deriving Repr, Inhabited

def ExecuteRequest.decoder : Json.Decoder ExecuteRequest := Json.record "web.ExecuteRequest" [
  Json.field "sender" Json.text (·.sender) fun r v => { r with sender := v },
  Json.field "contract" Json.text (·.contract) fun r v => { r with contract := v },
  Json.field "funds" Coins.decoder (·.funds) fun r v => { r with funds := v },
  Json.field "msg" (fun _ j => pure (some j)) (·.msg) fun r v => { r with msg := v }]

/-- The body of a transfer. -/
structure TransferRequest where
  src : String := ""
  dst : String := ""
  coins : Coins := []
  deriving Repr, Inhabited

def TransferRequest.decoder : Json.Decoder TransferRequest := Json.record "web.TransferRequest" [
  Json.field "from" Json.text (·.src) fun r v => { r with src := v },
  Json.field "to" Json.text (·.dst) fun r v => { r with dst := v },
  Json.field "coins" Coins.decoder (·.coins) fun r v => { r with coins := v }]

def maxBodyBytes : Nat := 1048576

/-- The first document of a body, which must end within the body limit; what follows it is
not read. -/
def bodyDocument? (body : String) : Option Json :=
  match Json.parsePrefix body.toList with
  | some (j, rest) =>
    if body.utf8ByteSize - (String.ofList rest).utf8ByteSize ≤ maxBodyBytes then some j else none
  | none => none

def decodeBody {α : Type} (d : Json.Decoder α) (zero : α) (body : String) : Option α :=
  (bodyDocument? body).bind fun j => (Json.decodeWith d zero j).toOption

def decimalInt? (s : String) : Option Int :=
  match s.toList with
  | '-' :: ds => (Json.digitsValue? ds).map fun n => -(n : Int)
  | '+' :: ds => (Json.digitsValue? ds).map fun n => (n : Int)
  | ds => (Json.digitsValue? ds).map fun n => (n : Int)

def limitParam (params : List (String × String)) : Nat :=
  match decimalInt? (param params "limit") with
  | some n => if 1 ≤ n ∧ n ≤ 100 then n.toNat else 20
  | none => 20

end Web

namespace Session

open Web

def recorderHealthy (s : Session) : Bool :=
  match s.history with
  | some h => match h.ping with
    | .ok _ => true
    | .error _ => false
  | none => true

/-- The health of the session: degraded, with 503, when the history does not answer or nothing is
instantiated. -/
def healthResponse (s : Session) : Web.Response :=
  let ok := s.recorderHealthy && s.chain.instantiated
  Web.Response.json (if ok then 200 else 503) (.obj [("status", .str (if ok then "OK" else "DEGRADED")),
    ("host", .obj [("instantiated", .bool s.chain.instantiated), ("height", .ofNat s.chain.height),
      ("recorder_healthy", .bool s.recorderHealthy)])]) []

/-- A query with its parameters from the query string; a `value` must read as an amount. -/
def queryResponse (s : Session) (contract q : ByteText) (params : List (String × String)) : Result Web.Response :=
  let raw := param params "value"
  let value? : Option (Option Int) := if raw.isEmpty then some none else (Int256.ofText? raw).map some
  match value? with
  | none => .ok (Web.Response.error 400 "Invalid value")
  | some value =>
    let req : QueryRequest := ⟨contract, q, param params "address", param params "denom",
      param params "base", param params "quote", value⟩
    match s.query req with
    | .ok a => .ok (Web.Response.json 200 a.json a.times)
    | .error f => failure f

def balanceResponse (s : Session) (address denom : String) : Result Web.Response :=
  match s.chain.balance address denom with
  | .error f => failure f
  | .ok amount =>
    match Convert.amount (some amount) (Denom.displayExponent denom) with
    | .ok x => .ok (Web.Response.json 200 (.obj [("address", .str address), ("coin", coinJson denom amount),
        ("display", .num x.toJsonText)]) [])
    | .error _ => .ok (Web.Response.error 500 "Failed to convert balance")

def callResponse (r : Result Committed) : Web.Response :=
  match r with
  | .ok c => Web.Response.json 200 c.document [c.time]
  | .error f => Web.Response.error (f.httpStatus) f.message

/-- Executes the message of a body. -/
def executeResponse (s : Session) (body : String) : Session × Web.Response :=
  match decodeBody ExecuteRequest.decoder {} body with
  | none => (s, Web.Response.error 400 "Invalid request body")
  | some req =>
    match ExecuteMsg.decode req.contract req.msg with
    | .error f => (s, Web.Response.error (f.httpStatus) f.message)
    | .ok msg =>
      let (s, r) := s.execute req.sender req.funds msg
      (s, callResponse r)

def transferResponse (s : Session) (body : String) : Session × Web.Response :=
  match decodeBody TransferRequest.decoder {} body with
  | none => (s, Web.Response.error 400 "Invalid request body")
  | some req =>
    let (s, r) := s.transfer req.src req.dst req.coins
    (s, callResponse r)

/-- A page of the latest receipts. -/
def receiptsResponse (s : Session) (params : List (String × String)) : Web.Response :=
  let limit := limitParam params
  let page (rs : List Receipt) := Web.Response.json 200 (.obj [("receipts", .arr (rs.map Receipt.toJson)),
    ("count", .ofNat rs.length), ("limit", .ofNat limit)]) (rs.map (·.time))
  match s.history with
  | none => page []
  | some h => match h.recentReceipts limit with
    | .ok rs => page rs
    | .error _ => Web.Response.error 500 "Failed to retrieve receipts"

/-- A page of the latest epochs. -/
def epochsResponse (s : Session) (params : List (String × String)) : Web.Response :=
  let limit := limitParam params
  let page (es : List EpochRecord) := Web.Response.json 200 (.obj [("epochs", .arr (es.map EpochRecord.toJson)),
    ("count", .ofNat es.length), ("limit", .ofNat limit)]) (es.flatMap fun e => [e.start, e.stop])
  match s.history with
  | none => page []
  | some h => match h.recentEpochs limit with
    | .ok es => page es
    | .error _ => Web.Response.error 500 "Failed to retrieve epochs"

def summaryResponse (s : Session) : Web.Response :=
  let answer (m : Summary) := Web.Response.json 200 m.toJson m.lastCallTime.toList
  match s.history with
  | none => answer {}
  | some h => match h.summary with
    | .ok m => answer m
    | .error _ => Web.Response.error 500 "Failed to retrieve summary"

def metricsResponse (m : Metrics) (accept : String) : Web.Response :=
  let e := Web.negotiate accept
  let payload := match e.format with
    | .text => .text (String.join (m.exposition.map (· ++ "\n")))
    | .delimited => .bytes (Metrics.delimited m.families)
    | .protoText => .text (Metrics.textForm m.families)
    | .compactText => .text (Metrics.compactForm m.families)
  ⟨200, e.contentType, none, none, payload⟩

/-- Runs a route. -/
def route (s : Session) (r : Route) (t : Target) (body accept : String) : Session × Result Web.Response :=
  let params := queryParams t.query
  match r with
  | .health => (s, .ok s.healthResponse)
  | .metrics => (s, .ok (match s.metrics with
    | some m => metricsResponse m accept
    | none => Web.Response.notFound))
  | .query c q => (s, s.queryResponse c q params)
  | .balance a d => (s, s.balanceResponse a d)
  | .execute => let (s, r) := s.executeResponse body; (s, .ok r)
  | .transfer => let (s, r) := s.transferResponse body; (s, .ok r)
  | .receipts => (s, .ok (s.receiptsResponse params))
  | .epochs => (s, .ok (s.epochsResponse params))
  | .summary => (s, .ok s.summaryResponse)

/-- Whether a path of a route, asked with another method, is refused as not allowed. Routes are
tried in order, and a later route under `/api` forgets a method refused by an earlier one: so
only the routes outside `/api` and the last route under it refuse; the others are not found. -/
def refusesOtherMethods (path : String) : Bool :=
  !path.startsWith "/api" || path == "/api/summary"

/-- Routes a request by its clean path and method. -/
def dispatch (s : Session) (req : Request) : Session × Result Web.Response :=
  let t := req.target
  if cleanPath t.path != t.path then (s, .ok (Web.Response.bare 301))
  else match Route.ofPath? s.metrics.isSome t with
    | none => (s, .ok Web.Response.notFound)
    | some (r, method) =>
      if req.method != method then
        (s, .ok (if refusesOtherMethods t.path then Web.Response.bare 405 else Web.Response.notFound))
      else s.route r t req.body ((req.header? "Accept").getD "")

/-- Serves one request under the API's cross-origin policy. A preflight is answered 204 by the
policy alone; it admits the requested method and headers for a non-empty origin. Any other
request is routed, and one with an origin and an admitted method is told that every origin is
admitted. An empty method is `GET`. Only the panic of a query fails. -/
def serve (s : Session) (req : Request) : Session × Result Web.Response :=
  let req := if req.method.isEmpty then { req with method := "GET" } else req
  let policy := CorsPolicy.api
  let origin := (req.header? "Origin").getD ""
  let asked := (req.header? "Access-Control-Request-Method").getD ""
  if req.method == "OPTIONS" && !asked.isEmpty then
    let admitted := !origin.isEmpty && policy.allowsMethod asked &&
      ((req.header? "Access-Control-Request-Headers").map policy.acceptsHeaders).getD true
    let r := Web.Response.bare 204
    (s, .ok (if admitted then { r with allowOrigin := some "*", allowMethods := some asked } else r))
  else
    let (s, r) := s.dispatch req
    let admitted := !origin.isEmpty && policy.allowsMethod req.method
    (s, r.map fun r => if admitted then { r with allowOrigin := some "*" } else r)

end Session

end Bonding
