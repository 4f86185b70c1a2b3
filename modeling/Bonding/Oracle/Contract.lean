import Bonding.Effect
import Bonding.KeyMap

/-!
The price oracle. Registered feeders push prices of their denomination in the base asset; the base
asset itself is always worth one and always fresh. A quote between two denominations divides their
prices. Only the admin registers feeders, and only a denomination's feeder feeds it.
-/

namespace Bonding

/-- The oracle's state: configuration, the feeder of each denomination and the last prices. -/
structure Oracle where
  config : OracleConfig := {}
  feeders : KeyMap String String := KeyMap.empty
  prices : KeyMap String PriceEntry := KeyMap.empty
  deriving Repr, Inhabited

namespace Oracle

def setPrice (o : Oracle) (env : Env) (p : PriceFeed) : Result Oracle := do
  let price ← match p.price with
    | some d => if d.isPositive then pure d else throw (.wrap .invalidInput ("price of " ++ p.denom ++ " must be positive"))
    | none => throw (.wrap .invalidInput ("price of " ++ p.denom ++ " must be positive"))
  Record.checkTimes [env.now]
  pure { o with prices := o.prices.insert p.denom ⟨price, env.now⟩ }

def init (env : Env) (g : OracleGenesis) : Result Oracle := do
  let o : Oracle := { config := g.config }
  let o := (g.feeders.getD []).foldl (fun o f => { o with feeders := o.feeders.insert f.denom f.feeder }) o
  (g.prices.getD []).foldlM (fun o p => o.setPrice env p) o

def registerFeeder (o : Oracle) (sender denom feeder : String) : Result (Oracle × Response) := do
  if sender != o.config.admin then throw (.wrap .unauthorized "only the oracle admin can register feeders")
  if let some f := Denom.fault? denom then throw (.wrap .invalidInput ("denom: " ++ f))
  if let some f := Address.fault? feeder then throw (.wrap .invalidInput ("feeder address: " ++ f))
  pure ({ o with feeders := o.feeders.insert denom feeder },
    .ofEvent "register_feeder" [("denom", denom), ("feeder", feeder)])

/-- Stores new prices; every denomination must be fed by its own feeder. -/
def feedPrice (o : Oracle) (env : Env) (sender : String) (prices : List PriceFeed) :
    Result (Oracle × Response) := do
  if prices.isEmpty then throw (.wrap .invalidInput "no prices")
  prices.foldlM (fun (o, r) p => do
    if o.feeders.get? p.denom != some sender then
      throw (.wrap .unauthorized (sender ++ " is not the feeder of " ++ p.denom))
    let o ← o.setPrice env p
    pure (o, { r with events := r.events ++ [⟨"feed_price", [("denom", p.denom),
      ("price", (p.price.getD Dec.zero).render)]⟩] })) (o, {})

def price (o : Oracle) (env : Env) (denom : String) : Result PriceEntry :=
  if denom == o.config.baseAsset then .ok ⟨Dec.one, env.now⟩
  else match o.prices.get? denom with
    | some e => .ok e
    | none => .error (.wrap .priceNotFound denom)

def quote (o : Oracle) (env : Env) (base quote : String) : Result Quote := do
  let b ← o.price env base
  let q ← o.price env quote
  pure ⟨some (← b.price.quo q.price), b.lastUpdated, q.lastUpdated⟩

end Oracle

end Bonding
