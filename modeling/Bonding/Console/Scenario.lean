import Bonding.Session.Basic
import Bonding.Keeper
import Bonding.Genesis.Yaml
import Bonding.Console.Reply

/-!
Scenarios: a session run step by step, each step a request object naming what to do in `do`.
Steps drive the clock, apply a genesis, execute messages, transfer coins, query and look at the
committed state and the history. Every step has its own answer; a step that does not decode
answers `Decode` and the scenario goes on. Under the test fixture a failed fixture check aborts
the whole scenario.
-/

namespace Bonding

/-- Why a whole scenario stops. -/
inductive Abort where
  /-- a check of the test fixture failed -/
  | fixtureFailed
  deriving Repr, DecidableEq

namespace Console

def callReply (r : Result Committed) : Json :=
  match r with
  | .ok c => Reply.ok c.toJson
  | .error f => Reply.failure f

def answerReply (r : Result Answer) : Json :=
  match r with
  | .ok a => Reply.encoded a.json a.times
  | .error f => Reply.failure f

/-- The genesis a step names. YAML text, when the step has it, wins, even when it is empty
(which reads as the empty genesis); then the deployment default for an admin and treasury; then
a document. A step that names none applies the empty genesis. -/
def genesisOf (j : Json) : Option Genesis :=
  match j.member? "genesis_yaml" with
  | some (.str text) => (Genesis.ofYaml text).toOption
  | _ =>
    match j.member? "default_genesis" with
    | some (.obj ms) => do
      let d := Json.obj ms
      let admin ← d.read "admin" Json.text ""
      let treasury ← d.read "treasury" Json.text ""
      pure (Genesis.deployment admin treasury)
    | _ =>
      match j.member? "genesis" with
      | some g => (Genesis.decode g).toOption
      | none => some {}

def instantiateStep (s : Session) (g : Genesis) : Session × Json :=
  match s.instantiate g with
  | (s, .ok ()) => (s, Reply.ok (.obj [("height", .ofNat s.chain.height)]))
  | (s, .error f) => (s, Reply.failure f)

/-- Executes a message from a step `{"sender", "contract", "funds", "msg"}`. -/
def executeStep (s : Session) (j : Json) : Session × Json :=
  match j.read "sender" Json.text "", j.read "contract" Json.text "", j.read "funds" Coins.decoder [] with
  | some sender, some contract, some funds =>
    match j.member? "msg" with
    | none | some .null => (s, Reply.failure (.wrap .unknownMessage "empty message"))
    | some raw =>
      match ExecuteMsg.decode contract (some raw) with
      | .error f => (s, Reply.failure f)
      | .ok msg =>
        let (s, r) := s.execute sender funds msg
        let s := match r with
          | .ok c => { s with lastTrace := some c.trace }
          | .error _ => s
        (s, callReply r)
  | _, _, _ => (s, Reply.undecodable)

/-- Transfers coins from a step `{"from", "to", "coins"}`. -/
def transferStep (s : Session) (j : Json) : Session × Json :=
  match j.read "from" Json.text "", j.read "to" Json.text "", j.read "coins" Coins.decoder [] with
  | some src, some dst, some coins =>
    let (s, r) := s.transfer src dst coins
    let s := match r with
      | .ok c => { s with lastTrace := some c.trace }
      | .error _ => s
    (s, callReply r)
  | _, _, _ => (s, Reply.undecodable)

def metricsReply (s : Session) : Json :=
  match s.metrics with
  | none => Reply.plain "no metrics"
  | some m => Reply.ok (.obj ((m.series.mergeSort fun a b => decide (a.1 ≤ b.1)).map fun (k, v) =>
      (k, .num v.toJsonText)))

/-- The answer of a history read: the document of its value, unless an instant in the value cannot
be written as JSON. -/
def historyReply {α : Type} (r : Except String α) (f : α → Json) (times : α → List Instant) : Json :=
  match r with
  | .ok v => Reply.encoded (f v) (times v)
  | .error e => Reply.plain e

def withHistory (s : Session) (k : History → Session × Json) : Session × Json :=
  match s.history with
  | none => (s, Reply.plain "no sqlite recorder")
  | some h => k h

def limitOf (j : Json) : Option Int := j.read "limit" Json.machineInt 0

/-- The history steps. -/
def historyStep (s : Session) (j : Json) : String → Option (Session × Json)
  | "receipts" => some <| match limitOf j with
    | none => (s, Reply.undecodable)
    | some n => match s.history with
      | none => (s, Reply.ok (.arr []))
      | some h => (s, historyReply (h.recentReceipts n) (fun rs => .arr (rs.map Receipt.view)) fun _ => [])
  | "epochs" => some <| match limitOf j with
    | none => (s, Reply.undecodable)
    | some n => match s.history with
      | none => (s, Reply.ok (.arr []))
      | some h => (s, historyReply (h.recentEpochs n) (fun es => .arr (es.map EpochRecord.toJson))
        (·.flatMap fun e => [e.start, e.stop]))
  | "summary" => some <| match s.history with
    | none => (s, Reply.ok ({} : Summary).toJson)
    | some h => (s, historyReply h.summary Summary.toJson (·.lastCallTime.toList))
  | "ping" => some <| match s.history with
    | none => (s, Reply.ok (.str "ok"))
    | some h => (s, historyReply h.ping (fun _ => .str "ok") fun _ => [])
  | "record_genesis" => some <| match s.history with
    | none => (s, Reply.ok (.ofNat 0))
    | some h => match h.recordGenesis Genesis.fixture with
      | .ok (h, v) => ({ s with history := some h }, Reply.ok (.ofNat v))
      | .error e => (s, Reply.plain e)
  | "latest_genesis" => some <| withHistory s fun h =>
    (s, historyReply h.latestGenesis (fun (v, g) => .obj [("version", .ofNat v), ("genesis", g.toJson)]) fun _ => [])
  | "receipt_by_trace" => some <| withHistory s fun h =>
    match j.read "trace" Json.text "" with
    | none => (s, Reply.undecodable)
    | some t =>
      let asked := if t == "last" then s.lastTrace.getD "" else t
      match h.receiptByTrace asked with
      | .ok r => (s, Reply.ok r.view)
      | .error e =>
        let shown := if t == "last" && s.lastTrace.isSome then "receipt <last> not found" else e
        (s, Reply.plain (if e.startsWith "receipt " then shown else e))
  | "reset_history" => some <| withHistory s fun h =>
    match h.reset with
    | .ok h => ({ s with history := some h }, Reply.ok (.str "ok"))
    | .error e => (s, Reply.plain e)
  | "close_recorder" => some <| withHistory s fun h =>
    ({ s with history := some { h with closed := true } }, Reply.ok (.str "ok"))
  | _ => none

/-- Runs the keeper step `{"sender", "spec"?, "start"?}`: a keeper with the schedule of a non-empty
spec, run once. -/
def keeperStep (s : Session) (j : Json) : Session × Json :=
  match j.read "sender" Json.text "", j.read "spec" Json.text "", j.read "start" Json.truth false with
  | some sender, some spec, some _ =>
    let k := Keeper.ofSender sender
    match (if spec.isEmpty then .ok k else k.register spec) with
    | .error f => (s, Reply.failure f)
    | .ok k =>
      let (s, r) := k.run s
      (s, Reply.ofResult (r.map fun sent => .obj [("sent", .bool sent)]))
  | _, _, _ => (s, Reply.undecodable)

def fixtureAccounts : Json := .obj (["admin", "treasury", "feeder", "alice", "bob", "carol"].map fun n =>
  (n, .str (Genesis.fixtureAccount n)))

/-- The coins of one amount of a denomination as the fixture builds them; a bad denomination or
a negative amount panics. -/
def fixtureCoins (denom : String) (amount : Int) : Result Coins :=
  if let some f := Denom.fault? denom then .error (.panic f)
  else if amount < 0 then .error (.panic ("negative coin amount: " ++ Int256.render amount))
  else .ok (if amount = 0 then [] else [Coin.of denom amount])

/-- The steps of the test fixture. -/
def fixtureStep (s : Session) (j : Json) : String → Option (Except Abort (Session × Json))
  | "tu_addresses" => some (.ok (s, Reply.ok fixtureAccounts))
  | "tu_coins" => some <| .ok <| match j.read "denom" Json.text "", j.read "amount" Json.signedWord64 0 with
    | some d, some a => (s, Reply.ofResult ((fixtureCoins d a).map Coins.toJson))
    | _, _ => (s, Reply.undecodable)
  | "tu_balance" => some <|
    if !s.fixture then .ok (s, Reply.plain "not in the testutil harness")
    else match j.read "address" Json.text "", j.read "denom" Json.text "" with
      | some a, some d => match s.chain.world.ledger.balanceOf d a with
        | .ok v => .ok (s, Reply.ok (Int256.toJson v))
        | .error _ => .error .fixtureFailed
      | _, _ => .ok (s, Reply.undecodable)
  | "tu_supply" => some <|
    if !s.fixture then .ok (s, Reply.plain "not in the testutil harness")
    else match j.read "denom" Json.text "" with
      | some d => .ok (s, Reply.ok (Int256.toJson (s.chain.world.ledger.supplyOf d)))
      | none => .ok (s, Reply.undecodable)
  | "tu_context" => some <|
    if !s.fixture then .ok (s, Reply.plain "not in the testutil harness")
    else match j.read "amount" Json.signedWord64 0 with
      | some n =>
        let start := s.origin
        .ok (s, Reply.ok (.obj [("time", .str start.rfc3339Nano),
          ("advanced", .str (start.add (Duration.wrap (n * 1000000000))).rfc3339Nano), ("height", .ofNat 1)]))
      | none => .ok (s, Reply.undecodable)
  | _ => none

end Console

end Bonding
