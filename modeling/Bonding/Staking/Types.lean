import Bonding.Record
import Bonding.Json.Decode
import Bonding.Crypto.Address
import Bonding.Coin
import Bonding.Text.Quoted

/-!
The records of the staking contract: its configuration (as written and as kept), the running
epoch, the warmup escrow of each staker and the points each address accrues.
-/

namespace Bonding

/-- The staking contract's configuration as written; the epoch yield may be unset. -/
structure StakingConfigInput where
  admin : String := ""
  baseDenom : String := ""
  stakedDenom : String := ""
  epochLength : Nat := 0
  epochApr : Option Dec := none
  nextEpochApr : Option Dec := none
  warmupLength : Nat := 0
  minters : Option (List String) := none
  pointsEnabled : Bool := false
  deriving Repr, DecidableEq, Inhabited

/-- The staking contract's configuration as kept. -/
structure StakingConfig where
  admin : String
  baseDenom : String
  stakedDenom : String
  epochLength : Nat
  epochApr : Dec
  nextEpochApr : Option Dec
  warmupLength : Nat
  minters : List String
  pointsEnabled : Bool
  deriving Repr, DecidableEq, Inhabited

namespace StakingConfigInput

/-- Checks the configuration: two distinct denominations, addresses, a positive epoch length and
non-negative yields. -/
def validate (c : StakingConfigInput) : Result StakingConfig := do
  if let some f := Denom.fault? c.baseDenom then throw (.wrap .invalidInput ("base denom: " ++ f))
  if let some f := Denom.fault? c.stakedDenom then throw (.wrap .invalidInput ("staked denom: " ++ f))
  if c.baseDenom == c.stakedDenom then throw (.wrap .invalidInput "base and staked denoms must differ")
  if let some f := Address.fault? c.admin then throw (.wrap .invalidInput ("admin address: " ++ f))
  if c.epochLength = 0 then throw (.wrap .invalidInput "epoch length must be positive")
  let apr ← match c.epochApr with
    | some a => if a.isNegative then throw (.wrap .invalidInput "epoch apr must be non-negative") else pure a
    | none => throw (.wrap .invalidInput "epoch apr must be non-negative")
  if let some n := c.nextEpochApr then
    if n.isNegative then throw (.wrap .invalidInput "next epoch apr must be non-negative")
  for m in c.minters.getD [] do
    if let some f := Address.fault? m then
      throw (.wrap .invalidInput ("minter " ++ quoteLiteral m ++ ": " ++ f))
  pure ⟨c.admin, c.baseDenom, c.stakedDenom, c.epochLength, apr, c.nextEpochApr, c.warmupLength,
    c.minters.getD [], c.pointsEnabled⟩

def toJson (c : StakingConfigInput) : Json :=
  .obj ([("admin", .str c.admin), ("base_denom", .str c.baseDenom), ("staked_denom", .str c.stakedDenom),
    ("epoch_length", .ofNat c.epochLength), ("epoch_apr", Dec.toJson? c.epochApr)] ++
    (match c.nextEpochApr with
     | some n => [("next_epoch_apr", Dec.toJson n)]
     | none => []) ++
    [("warmup_length", .ofNat c.warmupLength), ("minters", Json.ofList? Json.str c.minters),
     ("points_enabled", .bool c.pointsEnabled)])

/-- Decodes the JSON form. -/
def decoder : Json.Decoder StakingConfigInput := Json.record "types.StakingConfig" [
  Json.field "admin" Json.text (·.admin) fun c v => { c with admin := v },
  Json.field "base_denom" Json.text (·.baseDenom) fun c v => { c with baseDenom := v },
  Json.field "staked_denom" Json.text (·.stakedDenom) fun c v => { c with stakedDenom := v },
  Json.field "epoch_length" Json.word (·.epochLength) fun c v => { c with epochLength := v },
  Json.field "epoch_apr" Json.decimal (·.epochApr) fun c v => { c with epochApr := v },
  Json.field "next_epoch_apr" (fun old j => do
      match j with
      | .null => pure none
      | j => Json.decimal old j) (·.nextEpochApr) fun c v => { c with nextEpochApr := v },
  Json.field "warmup_length" Json.word (·.warmupLength) fun c v => { c with warmupLength := v },
  Json.field "minters" (Json.list Json.text "" "[]string") (·.minters) fun c v => { c with minters := v },
  Json.field "points_enabled" Json.truth (·.pointsEnabled) fun c v => { c with pointsEnabled := v }]

end StakingConfigInput

namespace StakingConfig

def toInput (c : StakingConfig) : StakingConfigInput :=
  ⟨c.admin, c.baseDenom, c.stakedDenom, c.epochLength, some c.epochApr, c.nextEpochApr,
    c.warmupLength, some c.minters, c.pointsEnabled⟩

def toJson (c : StakingConfig) : Json := c.toInput.toJson

def isMinter (c : StakingConfig) (addr : String) : Bool := c.minters.contains addr

end StakingConfig

/-- The running epoch; it is advanced only by a rebase. -/
structure EpochState where
  start : Instant
  stop : Instant
  number : Nat
  deriving Repr, DecidableEq, Inhabited

namespace EpochState

def toJson (e : EpochState) : Json :=
  .obj [("start", e.start.toJson), ("end", e.stop.toJson), ("number", .ofNat e.number)]

def times (e : EpochState) : List Instant := [e.start, e.stop]

end EpochState

/-- Principal waiting in escrow for the warmup to end, and the staked tokens it will mint. -/
structure WarmupEntry where
  principal : Int
  minted : Int
  unlockTime : Instant
  deriving Repr, DecidableEq, Inhabited

namespace WarmupEntry

def toJson (w : WarmupEntry) : Json := .obj [("principal", Int256.toJson w.principal),
  ("minted", Int256.toJson w.minted), ("unlock_time", w.unlockTime.toJson)]

def times (w : WarmupEntry) : List Instant := [w.unlockTime]

end WarmupEntry

/-- Points accrued by an address: staked balance times seconds held. -/
structure StakingPoints where
  total : Int
  lastUpdated : Instant
  jailed : Bool
  deriving Repr, DecidableEq, Inhabited

namespace StakingPoints

def fresh : StakingPoints := ⟨0, Instant.unset, false⟩

def toJson (p : StakingPoints) : Json := .obj [("total", Int256.toJson p.total),
  ("last_updated", p.lastUpdated.toJson), ("jailed", .bool p.jailed)]

def times (p : StakingPoints) : List Instant := [p.lastUpdated]

end StakingPoints

/-- How staking starts: its configuration and the number and optional end of the first epoch. -/
structure StakingGenesis where
  config : StakingConfigInput := {}
  firstEpochNumber : Nat := 0
  firstEpochEnd : Instant := Instant.unset
  deriving Repr, DecidableEq, Inhabited

namespace StakingGenesis

def toJson (g : StakingGenesis) : Json := .obj [("config", g.config.toJson),
  ("first_epoch_number", .ofNat g.firstEpochNumber), ("first_epoch_end", g.firstEpochEnd.toJson)]

def decoder : Json.Decoder StakingGenesis := Json.record "types.StakingGenesis" [
  Json.field "config" StakingConfigInput.decoder (·.config) fun c v => { c with config := v },
  Json.field "first_epoch_number" Json.word (·.firstEpochNumber) fun c v => { c with firstEpochNumber := v },
  Json.field "first_epoch_end" Json.instant (·.firstEpochEnd) fun c v => { c with firstEpochEnd := v }]

end StakingGenesis

end Bonding
