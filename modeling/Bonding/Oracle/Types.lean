import Bonding.Record
import Bonding.Number.Decimal
import Bonding.Json.Decode

/-!
The records of the price oracle: its configuration, the last price fed for each denomination,
feeds as written in messages and genesis, and quotes between two denominations. A quote is fresh
when neither leg is older than the trust period.
-/

namespace Bonding

/-- The oracle admin and the asset every price is expressed in. -/
structure OracleConfig where
  admin : String := ""
  baseAsset : String := ""
  deriving Repr, DecidableEq, Inhabited

namespace OracleConfig

def toJson (c : OracleConfig) : Json := .obj [("admin", .str c.admin), ("base_asset", .str c.baseAsset)]

def decoder : Json.Decoder OracleConfig := Json.record "types.OracleConfig" [
  Json.field "admin" Json.text (·.admin) fun c v => { c with admin := v },
  Json.field "base_asset" Json.text (·.baseAsset) fun c v => { c with baseAsset := v }]

end OracleConfig

/-- The last price fed for a denomination, in the base asset. -/
structure PriceEntry where
  price : Dec
  lastUpdated : Instant
  deriving Repr, DecidableEq, Inhabited

/-- One (denomination, price) pair as written; the price may be unset. -/
structure PriceFeed where
  denom : String := ""
  price : Option Dec := none
  deriving Repr, DecidableEq, Inhabited

namespace PriceFeed

def toJson (p : PriceFeed) : Json := .obj [("denom", .str p.denom), ("price", Dec.toJson? p.price)]

def decoder : Json.Decoder PriceFeed := Json.record "types.PriceFeed" [
  Json.field "denom" Json.text (·.denom) fun c v => { c with denom := v },
  Json.field "price" Json.decimal (·.price) fun c v => { c with price := v }]

end PriceFeed

/-- The price of `base` in units of `quote`, with the age of both legs. -/
structure Quote where
  rate : Option Dec := none
  lastUpdatedBase : Instant := Instant.unset
  lastUpdatedQuote : Instant := Instant.unset
  deriving Repr, DecidableEq, Inhabited

namespace Quote

def isFresh (q : Quote) (now : Instant) (trustPeriod : Nat) : Bool :=
  let limit := Duration.ofSeconds trustPeriod
  !(q.lastUpdatedBase.add limit).before now && !(q.lastUpdatedQuote.add limit).before now

def toJson (q : Quote) : Json := .obj [("rate", Dec.toJson? q.rate),
  ("last_updated_base", q.lastUpdatedBase.toJson), ("last_updated_quote", q.lastUpdatedQuote.toJson)]

def decoder : Json.Decoder Quote := Json.record "types.Quote" [
  Json.field "rate" Json.decimal (·.rate) fun c v => { c with rate := v },
  Json.field "last_updated_base" Json.instant (·.lastUpdatedBase) fun c v => { c with lastUpdatedBase := v },
  Json.field "last_updated_quote" Json.instant (·.lastUpdatedQuote) fun c v => { c with lastUpdatedQuote := v }]

end Quote

/-- The registration of the feeder of a denomination. -/
structure FeederGenesis where
  denom : String := ""
  feeder : String := ""
  deriving Repr, DecidableEq, Inhabited

namespace FeederGenesis

def toJson (f : FeederGenesis) : Json := .obj [("denom", .str f.denom), ("feeder", .str f.feeder)]

def decoder : Json.Decoder FeederGenesis := Json.record "types.FeederGenesis" [
  Json.field "denom" Json.text (·.denom) fun c v => { c with denom := v },
  Json.field "feeder" Json.text (·.feeder) fun c v => { c with feeder := v }]

end FeederGenesis

/-- How the oracle starts: its configuration, the feeders and the first prices. -/
structure OracleGenesis where
  config : OracleConfig := {}
  feeders : Option (List FeederGenesis) := none
  prices : Option (List PriceFeed) := none
  deriving Repr, DecidableEq, Inhabited

namespace OracleGenesis

def toJson (g : OracleGenesis) : Json := .obj [("config", g.config.toJson),
  ("feeders", Json.ofList? FeederGenesis.toJson g.feeders), ("prices", Json.ofList? PriceFeed.toJson g.prices)]

def decoder : Json.Decoder OracleGenesis := Json.record "types.OracleGenesis" [
  Json.field "config" OracleConfig.decoder (·.config) fun c v => { c with config := v },
  Json.field "feeders" (Json.list FeederGenesis.decoder {} "[]types.FeederGenesis") (·.feeders)
    fun c v => { c with feeders := v },
  Json.field "prices" (Json.list PriceFeed.decoder {} "[]types.PriceFeed") (·.prices)
    fun c v => { c with prices := v }]

end OracleGenesis

end Bonding
