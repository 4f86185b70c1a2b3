import Bonding.Console.Reply
import Bonding.Json.Decode
import Bonding.Postgres.Connection
import Bonding.Store
import Bonding.Node.Directory

/-!
Requests about where a node keeps its data: opening a state store of a backend and running one
transaction on it, running a fixed sequence of reads and writes on a history kept in an SQLite
file, and connecting to a PostgreSQL server for the history. Directories are shown as `$TMP`.
-/

namespace Bonding

namespace Console

/-- Opens a store of the request's backend, stages `k` = `v`, commits twice, reads `k` back and
closes the store twice, answering each step's failure or `null`. (A discard after the commits
finds the transaction finished and does nothing.) -/
def openStore (j : Json) : Json :=
  match j.read "backend" Json.text "" with
  | none => Reply.undecodable
  | some name =>
    match Backend.ofName? name with
    | none => Reply.plain (Backend.unknownMessage name "bondstake" "$TMP")
    | some backend =>
      let outcome {α : Type} (r : Except String α) : Json := match r with
        | .ok _ => .null
        | .error e => .str e
      let s := Store.empty backend
      let t := Transaction.begin.put ("k", "v")
      let (t, first) := t.commit Store.write s none
      let s := first.toOption.getD s
      let second := (t.commit Store.write s none).2
      let read := match s.get? "k" with
        | some v => Json.str v
        | none => .null
      let closed := s.close
      let again := (closed.toOption.getD s).close
      Reply.ok (.obj [("read", read), ("commit", outcome first), ("second_commit", outcome second),
        ("close", outcome closed), ("second_close", outcome again)])

def Postgres.Config.decoder : Json.Decoder Postgres.Config := Json.record "state.DBConfig" [
  Json.field "Host" Json.text (·.host) fun c v => { c with host := v },
  Json.field "Port" Json.machineInt (·.portNumber) fun c v => { c with portNumber := v },
  Json.field "User" Json.text (·.user) fun c v => { c with user := v },
  Json.field "Password" Json.text (·.password) fun c v => { c with password := v },
  Json.field "DBName" Json.text (·.dbName) fun c v => { c with dbName := v },
  Json.field "SSLMode" Json.text (·.sslMode) fun c v => { c with sslMode := v }]

def openPostgres (j : Json) : Json :=
  match j.read "config" Postgres.Config.decoder ⟨"", 0, "", "", "", ""⟩ with
  | none => Reply.undecodable
  | some c => Reply.plain c.pingFailure

def stepAnswer {α : Type} (r : Except String α) (value : α → Json) : Json :=
  match r with
  | .ok v => .obj [("ok", value v)]
  | .error e => .obj [("error", .str e)]

def changeStep {α : Type} (h : History) (r : Except String (History × α)) (value : α → Json) :
    Json × History :=
  (stepAnswer r fun (_, v) => value v, match r with
    | .ok (h, _) => h
    | .error _ => h)

def writeStep (h : History) (r : Except String History) : Json × History :=
  changeStep h (r.map (·, ())) fun () => .null

/-- The receipts the sequence records: a deposit that succeeds and an unstake that fails a
second later. -/
def sampleReceipts : Receipt × Receipt :=
  let noon := Instant.ofCivil 2024 1 1 12 0 0 0
  (⟨"t1", 1, noon, "s", "bond", "deposit", [⟨"ulp", some 5⟩], true, "",
      [⟨"bond_deposit", [("payout", "5")]⟩]⟩,
    ⟨"t2", 2, noon.addSeconds 1, "s", "staking", "unstake", [], false, "boom", []⟩)

/-- Runs the fixed sequence on a history: reads before anything is recorded, two receipts, an
epoch recorded twice (the second time is ignored), two geneses, reads of all of it, a ping, a
reset and the figures after it. -/
def historySequence (h : History) : List Json :=
  let noon := Instant.ofCivil 2024 1 1 12 0 0 0
  let (t1, t2) := sampleReceipts
  let a1 := stepAnswer h.latestGenesis fun _ => .null
  let a2 := stepAnswer h.summary Summary.toJson
  let (a3, h) := writeStep h (h.recordReceipt t1)
  let (a4, h) := writeStep h (h.recordReceipt t2)
  let epoch : EpochRecord := ⟨2, noon, noon.addSeconds 3600, "30", "0.003", 3⟩
  let (a5, h) := writeStep h (h.recordEpoch epoch)
  let (a6, h) := writeStep h (h.recordEpoch { epoch with minted := "99", height := 9 })
  let (a7, h) := changeStep h (h.recordGenesis Genesis.fixture) Json.ofNat
  let (a8, h) := changeStep h (h.recordGenesis Genesis.fixture) Json.ofNat
  let a9 := stepAnswer h.latestGenesis fun (v, g) =>
    .obj [("version", .ofNat v), ("principal", .str g.bond.config.principal)]
  let a10 := stepAnswer (h.recentReceipts 0) fun rs => .arr (rs.map Receipt.view)
  let a11 := stepAnswer (h.receiptByTrace "t1") Receipt.view
  let a12 := stepAnswer (h.receiptByTrace "nope") Receipt.view
  let a13 := stepAnswer (h.recentEpochs 500) fun es => .arr (es.map EpochRecord.toJson)
  let a14 := stepAnswer h.summary Summary.toJson
  let a15 := stepAnswer h.ping fun _ => .null
  let (a16, h) := writeStep h h.reset
  let a17 := stepAnswer h.summary Summary.toJson
  [a1, a2, a3, a4, a5, a6, a7, a8, a9, a10, a11, a12, a13, a14, a15, a16, a17]

/-- Opens an SQLite history at the request's path, or in a fresh file, in an empty directory,
and runs the fixed sequence on it. -/
def sqliteHistory (j : Json) : Json :=
  match j.readOpt "path" Json.text "" with
  | none => Reply.undecodable
  | some path =>
    match Node.Directory.empty.openHistory (path.getD "$TMP/history.db") with
    | .error e => Reply.plain e
    | .ok (_, h, _) => Reply.ok (.arr (historySequence h))

end Console

end Bonding
