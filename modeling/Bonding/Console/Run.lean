import Bonding.Console.Scenario
import Bonding.Console.Probe
import Bonding.Console.Http
import Bonding.Console.Setup
import Bonding.Console.Storage
import Bonding.Console.Runs
import Bonding.Console.Shape

/-!
The console: one request in, one answer out. A request names its operation in `op`; a scenario
runs its steps on a fresh session, every other operation answers on its own. A request or a step
that does not have its shape is undecodable before anything else.
-/

namespace Bonding

namespace Console

/-- Moves a session's clock by a number of seconds, which may be negative. The fixture's clock
moves forward by a span, which wraps as a nanosecond count of 64 bits does; otherwise the clock
moves by whole seconds, counted in a signed 64-bit word. -/
def advanceClock (s : Session) (seconds : Int) : Instant :=
  if s.fixture && seconds ≥ 0 then s.clock.add (Duration.wrap (seconds * 1000000000))
  else s.clock.shiftSeconds seconds

/-- Runs one step of a scenario. -/
def runStep (s : Session) (j : Json) : Except Abort (Session × Json) :=
  if !j.isObj || !hasShape stepShape j then .ok (s, Reply.undecodable) else
  match j.read "do" Json.text "" with
  | none => .ok (s, Reply.undecodable)
  | some name =>
    match name with
    | "instantiate" => .ok <| match genesisOf j with
      | some g => instantiateStep s g
      | none => (s, Reply.undecodable)
    | "execute" => .ok (executeStep s j)
    | "transfer" => .ok (transferStep s j)
    | "query" => .ok <| match j.read "query" QueryRequest.decoder {} with
      | some req => (s, answerReply (s.query req))
      | none => (s, Reply.undecodable)
    | "advance" => .ok <| match j.read "seconds" Json.signedWord64 0 with
      | some n =>
        let s := { s with clock := advanceClock s n }
        (s, Reply.ok (.obj [("time", .str s.clock.rfc3339Nano)]))
      | none => (s, Reply.undecodable)
    | "set_time" => .ok <| match j.read "time" Json.text "" with
      | some text => match Instant.parse? text with
        | some t => ({ s with clock := t.utc }, Reply.ok (.obj [("time", .str t.utc.rfc3339Nano)]))
        | none => (s, Reply.undecodable)
      | none => (s, Reply.undecodable)
    | "status" => .ok (s, Reply.ok (.obj [("height", .ofNat s.chain.height),
        ("instantiated", .bool s.chain.instantiated)]))
    | "snapshot" => .ok <| match j.readTexts "addresses", j.readTexts "denoms" with
      | some addrs, some denoms => (s, Reply.ofResult (s.snapshot addrs denoms))
      | _, _ => (s, Reply.undecodable)
    | "metrics" => .ok (s, metricsReply s)
    | "http" => .ok (httpStep s j)
    | "keeper" => .ok (keeperStep s j)
    | n => match historyStep s j n with
      | some r => .ok r
      | none => match fixtureStep s j n with
        | some r => r
        | none => .ok (s, Reply.plain ("unknown step " ++ quoteLiteral n))

def runSteps (s : Session) : List Json → Except Abort (List Json)
  | [] => .ok []
  | j :: rest => do
    let (s, a) ← runStep s j
    pure (a :: (← runSteps s rest))

def knownBackends : List String := ["goleveldb", "pebbledb", "memdb", "", "memdb-direct"]

/-- The scenario's session before its first step, or the answer that ends it at once. -/
def openSession (req : Json) : Except Json Session := do
  let start ← match req.member? "start" with
    | none | some .null | some (.str "") => pure (Instant.ofCivil 2024 1 1 0 0 0 0)
    | some (.str t) => match Instant.parse? t with
      | some t => pure t.utc
      | none => throw Reply.undecodable
    | some _ => throw Reply.undecodable
  let history ← match req.member? "recorder" with
    | some (.str "sqlite") => pure (some {})
    | some (.str "none") | some (.str "") => pure none
    | some (.str other) => throw (Reply.plain ("unknown recorder " ++ other))
    | _ => pure none
  let metrics := match req.member? "metrics" with
    | some (.bool true) => some {}
    | _ => none
  let fixture := match req.member? "harness" with
    | some (.str "testutil") => true
    | _ => false
  if !fixture then
    match req.member? "backend" with
    | none | some .null => pure ()
    | some (.str b) =>
      if !knownBackends.contains b then
        throw (Reply.plain (Backend.unknownMessage b "bondstake" "$TMP"))
    | some _ => pure ()
  let s : Session := { origin := start, clock := start, history, metrics, fixture }
  if fixture then
    match s.instantiate Genesis.fixture with
    | (s, .ok ()) => pure s
    | (_, .error _) => throw (.obj [("error", .str "TestFailed")])
  else pure s

/-- Runs a scenario. -/
def scenario (req : Json) : Json :=
  match openSession req with
  | .error a => a
  | .ok s =>
    match req.member? "steps" with
    | some (.arr steps) => match runSteps s steps with
      | .ok answers => .obj [("steps", .arr answers)]
      | .error .fixtureFailed => .obj [("error", .str "TestFailed")]
    | none | some .null => .obj [("steps", .arr [])]
    | some _ => Reply.undecodable

/-- Answers one request. -/
def handle (req : Json) : Json :=
  if !req.isObj || !hasShape requestShape req then Reply.undecodable else
  match req.read "op" Json.text "" with
  | none => Reply.undecodable
  | some op =>
    if !hasShape (operationShape op) req then Reply.undecodable else
    match op with
    | "scenario" => scenario req
    | "acc_address" | "module_address" => Probe.address req
    | "decode_execute" => Probe.decodeExecute req
    | "current_price" => Probe.currentPrice req
    | "decay_amount" => Probe.decay req
    | "vesting" => Probe.vesting req
    | "quote_fresh" => Probe.quoteFresh req
    | "one_coin" => Probe.oneCoinOf req
    | "display" => Probe.display req
    | "int_to_float" => Probe.intToFloat req
    | "dec_to_float" => Probe.decToFloat req
    | "parse_genesis" => parseGenesis req
    | "load_genesis" => loadGenesis req
    | "load_config" => loadSettings req
    | "logger" => logLines req
    | "open_store" => openStore req
    | "open_postgres" => openPostgres req
    | "sqlite" => sqliteHistory req
    | "process" => runPrograms req
    | other => Reply.plain ("unknown op " ++ quoteLiteral other)

end Console

end Bonding
