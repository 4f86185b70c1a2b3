import Bonding.Bond.Types
import Bonding.Staking.Types
import Bonding.Oracle.Types

/-!
The genesis: how every contract starts and which balances exist before the first call. Its
validation checks the parts in a fixed order (bond configuration, bond terms, staking
configuration, oracle admin, feeders, balances) and reports the first fault. Two genesis
documents come built in: the deployment default and the fixture the test harness starts from.
-/

namespace Bonding

/-- How the bond contract starts; without an adjustment it starts inactive. -/
structure BondGenesis where
  config : BondConfigInput := {}
  terms : TermsInput := {}
  adjustment : Option AdjustmentInput := none
  deriving Repr, DecidableEq, Inhabited

namespace BondGenesis

def toJson (g : BondGenesis) : Json := Json.objOpt [("config", some g.config.toJson),
  ("terms", some g.terms.toJson), ("adjustment", g.adjustment.map AdjustmentInput.toJson)]

def decoder : Json.Decoder BondGenesis := Json.record "types.BondGenesis" [
  Json.field "config" BondConfigInput.decoder (·.config) fun c v => { c with config := v },
  Json.field "terms" TermsInput.decoder (·.terms) fun c v => { c with terms := v },
  Json.field "adjustment" (Json.optional AdjustmentInput.decoder {}) (·.adjustment)
    fun c v => { c with adjustment := v }]

end BondGenesis

/-- Coins minted to an address at genesis. -/
structure GenesisBalance where
  address : String := ""
  coins : Coins := []
  deriving Repr, Inhabited

namespace GenesisBalance

def toJson (b : GenesisBalance) : Json := .obj [("address", .str b.address), ("coins", Coins.toJson b.coins)]

def decoder : Json.Decoder GenesisBalance := Json.record "types.GenesisBalance" [
  Json.field "address" Json.text (·.address) fun c v => { c with address := v },
  Json.field "coins" Coins.decoder (·.coins) fun c v => { c with coins := v }]

end GenesisBalance

/-- The genesis of the whole protocol. -/
structure Genesis where
  oracle : OracleGenesis := {}
  bond : BondGenesis := {}
  staking : StakingGenesis := {}
  balances : Option (List GenesisBalance) := none
  deriving Repr, Inhabited

namespace Genesis

def toJson (g : Genesis) : Json := .obj [("oracle", g.oracle.toJson), ("bond", g.bond.toJson),
  ("staking", g.staking.toJson), ("balances", Json.ofList? GenesisBalance.toJson g.balances)]

def times (g : Genesis) : List Instant :=
  (g.bond.adjustment.map (·.lastTime)).toList ++ [g.staking.firstEpochEnd]

def decoder : Json.Decoder Genesis := Json.record "types.Genesis" [
  Json.field "oracle" OracleGenesis.decoder (·.oracle) fun c v => { c with oracle := v },
  Json.field "bond" BondGenesis.decoder (·.bond) fun c v => { c with bond := v },
  Json.field "staking" StakingGenesis.decoder (·.staking) fun c v => { c with staking := v },
  Json.field "balances" (Json.list GenesisBalance.decoder {} "[]types.GenesisBalance") (·.balances)
    fun c v => { c with balances := v }]

def decode (j : Json) : Except String Genesis :=
  (Json.decodeWith decoder {} j).mapError (·.message "Genesis")

/-- Checks every part; the first fault found wins. -/
def validate (g : Genesis) : Result Unit := do
  let _ ← g.bond.config.validate
  let _ ← g.bond.terms.validate
  let _ ← g.staking.config.validate
  if g.oracle.config.admin != "" then
    if let some f := Address.fault? g.oracle.config.admin then
      throw (.wrap .invalidInput ("oracle admin address: " ++ f))
  for f in g.oracle.feeders.getD [] do
    if let some e := Address.fault? f.feeder then
      throw (.wrap .invalidInput ("feeder of " ++ f.denom ++ ": " ++ e))
  for b in g.balances.getD [] do
    if let some e := Address.fault? b.address then
      throw (.wrap .invalidInput ("genesis balance address: " ++ e))
    if let some e ← Coins.validate b.coins then
      throw (.wrap .invalidInput ("genesis balance of " ++ b.address ++ ": " ++ e))

/-- The genesis of a fresh deployment: `admin` runs every contract and `treasury` receives bonded
principal and the first payout supply. -/
def deployment (admin treasury : String) : Genesis where
  oracle := { config := ⟨admin, "uusd"⟩ }
  bond := {
    config := ⟨"uusd", "uusdc", admin, treasury, 600, false, some 10000⟩
    terms := ⟨some (Dec.ofInt 50), some Dec.one, some ⟨5 * Int.pow 10 15⟩, some 50000000000, 5 * 24 * 3600⟩ }
  staking := {
    config := {
      admin, baseDenom := "ubond", stakedDenom := "usbond", epochLength := 8 * 3600,
      epochApr := some ⟨3 * Int.pow 10 14⟩, pointsEnabled := true }
    firstEpochNumber := 1 }
  balances := some [⟨treasury, [Coin.of "ubond" 1000000000000]⟩]

def fixtureAccount (name : String) : String := Address.ofName name

/-- The fixture genesis: a funded treasury, three principal holders and a fed oracle. -/
def fixture : Genesis where
  oracle := {
    config := ⟨fixtureAccount "admin", "uusd"⟩
    feeders := some [⟨"ulp", fixtureAccount "feeder"⟩]
    prices := some [⟨"ulp", some ⟨25 * Int.pow 10 17⟩⟩] }
  bond := {
    config := ⟨"uusd", "ulp", fixtureAccount "admin", fixtureAccount "treasury", 600, false, some 1⟩
    terms := ⟨some (Dec.ofInt 1000), some (Dec.ofInt 2), some ⟨2 * Int.pow 10 17⟩, some 500000, 3600⟩ }
  staking := {
    config := {
      admin := fixtureAccount "admin", baseDenom := "uohm", stakedDenom := "usohm",
      epochLength := 28800, epochApr := some ⟨3 * Int.pow 10 15⟩, pointsEnabled := true }
    firstEpochNumber := 1 }
  balances := some [⟨fixtureAccount "treasury", [Coin.of "uohm" 1000000]⟩,
    ⟨fixtureAccount "alice", [Coin.of "ulp" 100000]⟩, ⟨fixtureAccount "bob", [Coin.of "ulp" 100000]⟩,
    ⟨fixtureAccount "carol", [Coin.of "ulp" 100000]⟩]

end Genesis

end Bonding
