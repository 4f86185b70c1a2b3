import Bonding.Genesis
import Bonding.Effect
import Bonding.Number.Binary64

/-!
The call history: a receipt for every call, successful or not, a record for every epoch closed by
a rebase, and every genesis applied, versioned. The history is kept apart from the contract state,
which never reads it. Receipts and epochs are read back newest first with a page size clamped to
1..100 (10 otherwise); an epoch number is recorded once. A closed history refuses everything.
-/

namespace Bonding

/-- The outcome of one call as the history keeps it. -/
structure Receipt where
  trace : String
  height : Nat
  time : Instant
  sender : String
  contract : String
  msgType : String
  funds : Coins
  success : Bool
  error : String
  events : List Event
  deriving Repr, Inhabited

namespace Receipt

def view (r : Receipt) : Json := .obj [("height", .ofNat r.height), ("time", .str r.time.rfc3339Nano),
  ("sender", .str r.sender), ("contract", .str r.contract), ("msg_type", .str r.msgType),
  ("funds", Coins.toJson r.funds), ("success", .bool r.success), ("error", .str r.error),
  ("events", .arr (r.events.map Event.toJson))]

def toJson (r : Receipt) : Json := Json.objOpt [("trace_id", some (.str r.trace)),
  ("height", some (.ofNat r.height)), ("time", some (.str r.time.rfc3339Nano)),
  ("sender", some (.str r.sender)), ("contract", some (.str r.contract)),
  ("msg_type", some (.str r.msgType)), ("funds", some (Coins.toJson r.funds)),
  ("success", some (.bool r.success)), ("error", if r.error.isEmpty then none else some (.str r.error)),
  ("events", if r.events.isEmpty then none else some (.arr (r.events.map Event.toObjectJson))),
  ("duration_ms", some (.ofNat 0))]

end Receipt

/-- One executed rebase. -/
structure EpochRecord where
  number : Nat
  start : Instant
  stop : Instant
  minted : String
  apr : String
  height : Nat
  deriving Repr, Inhabited

namespace EpochRecord

def toJson (e : EpochRecord) : Json := .obj [("number", .ofNat e.number), ("start", .str e.start.rfc3339Nano),
  ("end", .str e.stop.rfc3339Nano), ("minted", .str e.minted), ("apr", .str e.apr), ("height", .ofNat e.height)]

def ofEvent? (e : Event) (height : Nat) : Option EpochRecord := do
  let number ← Json.digitsValue? (e.attr "epoch_number").toList
  if number ≥ Nat.pow 2 64 then none
  let start ← Instant.parse? (e.attr "epoch_start")
  let stop ← Instant.parse? (e.attr "epoch_end")
  pure ⟨number, start, stop, e.attr "amount", e.attr "apr", height⟩

end EpochRecord

/-- The calls of one contract. -/
structure ContractTally where
  calls : Nat := 0
  succeeded : Nat := 0
  failed : Nat := 0
  deriving Repr, Inhabited

/-- The figures of a history. -/
structure Summary where
  totalCalls : Nat := 0
  succeeded : Nat := 0
  lastHeight : Nat := 0
  lastCallTime : Option Instant := none
  epochs : Nat := 0
  contracts : List (String × ContractTally) := []
  deriving Repr, Inhabited

namespace Summary

def successRate (s : Summary) : Binary64 :=
  if s.totalCalls = 0 then Binary64.zero
  else (Binary64.ofRatio false s.succeeded s.totalCalls).getD Binary64.zero

def toJson (s : Summary) : Json :=
  let contracts := s.contracts.mergeSort fun a b => decide (a.1 ≤ b.1)
  Json.objOpt [("total_calls", some (.ofNat s.totalCalls)), ("success_rate", some (.num s.successRate.toJsonText)),
    ("last_height", some (.ofNat s.lastHeight)), ("last_call_time", s.lastCallTime.map (.str ·.rfc3339Nano)),
    ("epochs", some (.ofNat s.epochs)),
    ("contracts", some (.obj (contracts.map fun (k, t) => (k, .obj [("calls", .ofNat t.calls),
      ("succeeded", .ofNat t.succeeded), ("failed", .ofNat t.failed)]))))]

end Summary

/-- The stored history. -/
structure History where
  receipts : List Receipt := []
  epochs : List EpochRecord := []
  geneses : List (Nat × Genesis) := []
  closed : Bool := false
  deriving Repr, Inhabited

def clampLimit (limit : Int) : Nat := if limit ≤ 0 ∨ limit > 100 then 10 else limit.toNat

namespace History

def closedText : String := "sql: database is closed"

def checkOpen (h : History) (what : String) : Except String Unit :=
  if h.closed then .error (what ++ closedText) else .ok ()

def recordReceipt (h : History) (r : Receipt) : Except String History := do
  h.checkOpen "failed to save receipt: "
  let funds := r.funds.map fun c => { c with amount := some (c.amount.getD 0) }
  pure { h with receipts := h.receipts ++ [{ r with funds }] }

def recordEpoch (h : History) (e : EpochRecord) : Except String History := do
  h.checkOpen ("failed to save epoch " ++ toString e.number ++ ": ")
  if h.epochs.any (·.number == e.number) then pure h
  else pure { h with epochs := h.epochs ++ [e] }

def recordGenesis (h : History) (g : Genesis) : Except String (History × Nat) := do
  h.checkOpen "failed to begin transaction: "
  let version := (h.geneses.map (·.1)).foldl max 0 + 1
  pure ({ h with geneses := h.geneses ++ [(version, g)] }, version)

def latestGenesis (h : History) : Except String (Nat × Genesis) := do
  h.checkOpen "failed to load genesis: "
  let best := h.geneses.foldl (fun acc (v, g) => match acc with
    | some (w, _) => if v ≥ w then some (v, g) else acc
    | none => some (v, g)) none
  match best with
  | some vg => pure vg
  | none => .error "no genesis recorded"

def recentReceipts (h : History) (limit : Int) : Except String (List Receipt) := do
  h.checkOpen "failed to query recent receipts: "
  pure (h.receipts.reverse.take (clampLimit limit))

def receiptByTrace (h : History) (trace : String) : Except String Receipt := do
  h.checkOpen ""
  match h.receipts.find? (·.trace == trace) with
  | some r => pure r
  | none => .error ("receipt " ++ trace ++ " not found")

/-- The latest epochs, highest number first; numbers are kept as signed 64-bit integers, so a
number of 2^63 or more sorts below every smaller one. -/
def recentEpochs (h : History) (limit : Int) : Except String (List EpochRecord) := do
  h.checkOpen "failed to query recent epochs: "
  let sorted := h.epochs.mergeSort fun a b => decide (signedWord a.number ≥ signedWord b.number)
  pure (sorted.take (clampLimit limit))

/-- The figures of the history. -/
def summary (h : History) : Except String Summary := do
  h.checkOpen "failed to aggregate receipts: "
  let tally := h.receipts.foldl (fun (acc : List (String × ContractTally)) r =>
    let t := ((acc.find? (·.1 == r.contract)).map (·.2)).getD {}
    let t : ContractTally := ⟨t.calls + 1, t.succeeded + (if r.success then 1 else 0),
      t.failed + (if r.success then 0 else 1)⟩
    if acc.any (·.1 == r.contract) then acc.map fun (k, v) => if k == r.contract then (k, t) else (k, v)
    else acc ++ [(r.contract, t)]) []
  let lastTime := h.receipts.foldl (fun acc r => match acc with
    | some t => if t.unix < r.time.unix then some r.time else acc
    | none => some r.time) none
  pure ⟨h.receipts.length, (h.receipts.filter (·.success)).length,
    (h.receipts.map (·.height)).foldl max 0, lastTime, h.epochs.length, tally⟩

def ping (h : History) : Except String Unit := h.checkOpen "database ping failed: "

def reset (h : History) : Except String History := do
  h.checkOpen "failed to drop receipts: "
  pure {}

end History

end Bonding
