import Bonding.Query
import Bonding.History
import Bonding.Metrics
import Bonding.Number.Convert
import Bonding.Store

/-!
A session: the chain driven by a settable clock, with the history that records every call and
the metrics the host keeps. A call runs at the clock time truncated to whole seconds, as one
transaction of the store that holds the chain: it reads the committed chain through the
transaction, and only when it succeeds is the chain it leaves staged, with the host's record of the
new height, and committed. Whatever its outcome it leaves a receipt at the height it would have had
and is counted; only a call whose commit goes through advances the height and refreshes the gauges.
-/

namespace Bonding

namespace Chain

/-- One write of a call to the store: the host's record of the height and the genesis time, or the
state of one contract. -/
inductive Entry where
  | host (height : Nat) (genesisTime : Option Instant)
  | ledger (l : Ledger)
  | oracle (o : Oracle)
  | staking (s : Staking)
  | bond (b : Bond)

def write (c : Chain) : Entry → Chain
  | .host h g => { c with height := h, genesisTime := g }
  | .ledger l => { c with world := { c.world with ledger := l } }
  | .oracle o => { c with world := { c.world with oracle := o } }
  | .staking s => { c with world := { c.world with staking := s } }
  | .bond b => { c with world := { c.world with bond := b } }

def stage (c : Chain) (t : Transaction Entry) : Transaction Entry :=
  [.ledger c.world.ledger, .oracle c.world.oracle, .staking c.world.staking, .bond c.world.bond,
    .host c.height c.genesisTime].foldl Transaction.put t

end Chain

/-- A running session; `writeFault` is the failure the store meets when it next writes a batch,
if it fails. -/
structure Session where
  origin : Instant
  clock : Instant
  chain : Chain := {}
  history : Option History := none
  metrics : Option Metrics := none
  fixture : Bool := false
  calls : Nat := 0
  lastTrace : Option String := none
  writeFault : Option String := none
  deriving Repr, Inhabited

/-- A committed call: its height, block time, events and trace. -/
structure Committed where
  height : Nat
  time : Instant
  events : List Event
  trace : String
  deriving Repr, Inhabited

def Committed.toJson (c : Committed) : Json := .obj [("height", .ofNat c.height),
  ("time", .str c.time.rfc3339Nano), ("events", .arr (c.events.map Event.toJson))]

namespace Session

def now (s : Session) : Instant := s.clock.truncate

def env (s : Session) : Env := ⟨s.now, s.chain.height⟩

def gauges (s : Session) : Result (Binary64 × Binary64 × Binary64 × Nat) := do
  if !s.chain.instantiated then throw Chain.notInstantiated
  let w := s.chain.world
  let debt ← w.bond.currentDebt s.env
  let price ← w.bond.bondPrice w.staking w.ledger s.env
  let rate ← w.staking.currentRate w.ledger 0 0
  let debtValue ← Convert.amount (some debt) 0
  pure (debtValue, price.toBinary64, rate.toBinary64, w.staking.epoch.number)

def panicOf? : Fault → Option Fault
  | .panic v => some (.panic v)
  | .error _ _ => none

/-- Refreshes the gauges from the committed state. Nothing changes when a figure fails; a figure
that panics gives the panic back, for it unwinds the call that committed. -/
def refreshGauges (s : Session) : Session × Option Fault :=
  match s.metrics with
  | none => (s, none)
  | some m =>
    match s.gauges with
    | .ok (d, p, r, e) => ({ s with metrics := some (m.setProtocol d p r e) }, none)
    | .error f => (s, panicOf? f)

/-- Keeps a receipt and the epochs its rebase events close; a history that refuses stays as it is. -/
def record (s : Session) (r : Receipt) : Session :=
  match s.history with
  | none => s
  | some h =>
    let h := (h.recordReceipt r).toOption.getD h
    let h := r.events.foldl (fun h e =>
      if e.kind != "rebase" then h
      else match EpochRecord.ofEvent? e r.height with
        | some epoch => (h.recordEpoch epoch).toOption.getD h
        | none => h) h
    { s with history := some h }

/-- The chain after committing the chain a call leaves, staged on the transaction `t`, and the
failure of the write if it fails, which leaves the committed chain. -/
def commitChain (s : Session) (t : Transaction Chain.Entry) (c : Chain) : Chain × Option Fault :=
  match ((c.stage t).commit Chain.write s.chain s.writeFault).2 with
  | .ok chain => (chain, none)
  | .error e => (s.chain, some (.plain e))

/-- Runs a call through the host as one transaction: the call reads the committed chain through
it, and on success the chain the call leaves is staged and committed. Records the receipt and
counts the call whatever its outcome; after a commit the gauges refresh. -/
def runCall (s : Session) (sender contract msgType : String) (funds : Coins)
    (body : Chain → Instant → Result (Chain × List Event)) : Session × Result Committed :=
  let height := s.chain.height + 1
  let now := s.now
  let trace := "trace-" ++ toString (s.calls + 1)
  let t : Transaction Chain.Entry := .begin
  let (chain, outcome) : Chain × Result (List Event) :=
    match body (t.view Chain.write s.chain) now with
    | .ok (c, events) =>
      match s.commitChain t c with
      | (chain, none) => (chain, .ok events)
      | (chain, some f) => (chain, .error f)
    | .error f => (s.chain, .error f)
  let receipt : Receipt := match outcome with
    | .ok events => ⟨trace, height, now, sender, contract, msgType, funds, true, "", events⟩
    | .error f => ⟨trace, height, now, sender, contract, msgType, funds, false, f.message, []⟩
  let s := (s.record receipt)
  let s := { s with
    calls := s.calls + 1
    metrics := s.metrics.map (Metrics.observeCall · contract msgType receipt.success) }
  match outcome with
  | .ok events =>
    let s := { s with chain, metrics := s.metrics.map (Metrics.setHeight · height) }
    match s.refreshGauges with
    | (s, some f) => (s, .error f)
    | (s, none) => (s, .ok ⟨height, now, events, trace⟩)
  | .error f => (s, .error f)

def execute (s : Session) (sender : String) (funds : Coins) (msg : ExecuteMsg) : Session × Result Committed :=
  s.runCall sender msg.contract.name msg.typeName funds fun c now => c.execute now sender funds msg

def transfer (s : Session) (src dst : String) (coins : Coins) : Session × Result Committed :=
  s.runCall src "ledger" "send" coins fun c now => c.transfer now src dst coins

/-- Applies a genesis at the block time as one transaction; once it is committed the history
keeps it and the gauges refresh. A panic of the gauges fails the call, though the genesis stays
applied. -/
def instantiate (s : Session) (g : Genesis) : Session × Result Unit :=
  let t : Transaction Chain.Entry := .begin
  match (t.view Chain.write s.chain).instantiate s.now g with
  | .error f => (s, .error f)
  | .ok c =>
    match s.commitChain t c with
    | (chain, some f) => ({ s with chain }, .error f)
    | (chain, none) =>
      let s := { s with chain }
      let history := s.history.map fun h =>
        match h.recordGenesis (Chain.Genesis.prepared g) with
        | .ok (h, _) => h
        | .error _ => h
      match ({ s with history } : Session).refreshGauges with
      | (s, some f) => (s, .error f)
      | (s, none) => (s, .ok ())

def query (s : Session) (req : QueryRequest) : Result Answer := s.chain.query s.now req

/-- The committed state seen from a list of addresses and denominations. -/
def snapshot (s : Session) (addresses denoms : List String) : Result Json := do
  if !s.chain.instantiated then throw Chain.notInstantiated
  let w := s.chain.world
  let accounts ← addresses.mapM fun a => do
    let holdings ← w.ledger.holdings a
    let points ← w.pointsAnswer s.env a
    pure (Json.objOpt [("address", some (.str a)),
      ("balances", some (.arr (holdings.map fun (d, v) => coinJson d v))),
      ("position", (w.bond.positions.get? a).map Position.toJson),
      ("warmup", (w.staking.warmups.get? a).map WarmupEntry.toJson),
      ("points", some points.json)])
  pure (.obj [("accounts", .arr accounts),
    ("supplies", .arr (denoms.map fun d => coinJson d (w.ledger.supplyOf d))),
    ("terms", w.bond.terms.toJson), ("debt", w.bond.debt.toJson), ("adjustment", w.bond.adjustment.toJson),
    ("bond_config", w.bond.config.toJson), ("staking_config", w.staking.config.toJson),
    ("epoch", w.staking.epoch.toJson), ("height", .ofNat s.chain.height)])

end Session

end Bonding
