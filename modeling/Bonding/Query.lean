import Bonding.Host

/-!
Read-only requests against the committed state at the block time. An answer is a JSON document
together with the instants it holds, since an instant outside the years a record can hold makes
the answer unwritable while the question itself was fine.
-/

namespace Bonding

/-- One query of one contract with the parameters it may use. -/
structure QueryRequest where
  contract : ByteText := ⟨[]⟩
  query : ByteText := ⟨[]⟩
  address : String := ""
  denom : String := ""
  base : String := ""
  quote : String := ""
  value : Option Int := none
  deriving Repr, Inhabited

namespace QueryRequest

def decoder : Json.Decoder QueryRequest := Json.record "types.QueryRequest" [
  Json.field "contract" Json.text (·.contract.text) fun c v => { c with contract := .ofString v },
  Json.field "query" Json.text (·.query.text) fun c v => { c with query := .ofString v },
  Json.field "address" Json.text (·.address) fun c v => { c with address := v },
  Json.field "denom" Json.text (·.denom) fun c v => { c with denom := v },
  Json.field "base" Json.text (·.base) fun c v => { c with base := v },
  Json.field "quote" Json.text (·.quote) fun c v => { c with quote := v },
  Json.field "value" (Json.nullable Json.amount) (·.value) fun c v => { c with value := v }]

end QueryRequest

/-- A query answer: the document and the instants in it. -/
structure Answer where
  json : Json
  times : List Instant := []
  deriving Repr, Inhabited

def Answer.dec (d : Dec) : Answer := ⟨Dec.toJson d, []⟩

def Answer.int (i : Int) : Answer := ⟨Int256.toJson i, []⟩

def coinJson (denom : String) (amount : Int) : Json :=
  .obj [("denom", .str denom), ("amount", Int256.toJson amount)]

namespace World

/-- The ledger's queries; the denomination is checked first. -/
def ledgerQuery (w : World) (req : QueryRequest) : Result Answer := do
  if let some f := Denom.fault? req.denom then throw (.wrap .invalidInput ("denom: " ++ f))
  match req.query.text with
  | "balance" =>
    let a ← w.ledger.balanceOf req.denom req.address
    pure ⟨Json.objOpt [("address", if req.address.isEmpty then none else some (.str req.address)),
      ("coin", some (coinJson req.denom a))], []⟩
  | "supply" => pure ⟨.obj [("coin", coinJson req.denom (w.ledger.supplyOf req.denom))], []⟩
  | _ => throw (.wrap .unknownMessage ("ledger query " ++ req.query.quoted))

def position (w : World) (addr : String) : Result Position :=
  match w.bond.positions.get? addr with
  | some p => .ok p
  | none => .error (.wrap .noPosition ("address " ++ addr))

/-- The bond contract's queries. -/
def bondQuery (w : World) (env : Env) (req : QueryRequest) : Result Answer := do
  let b := w.bond
  match req.query.text with
  | "config" => pure ⟨b.config.toJson, []⟩
  | "terms" => pure ⟨b.terms.toJson, []⟩
  | "adjustment" => pure ⟨b.adjustment.toJson, b.adjustment.times⟩
  | "bond_price" => .dec <$> b.bondPrice w.staking w.ledger env
  | "asset_price" => .dec <$> b.assetPrice w.oracle env
  | "bond_price_in_usd" => do
    let p ← b.bondPrice w.staking w.ledger env
    .dec <$> p.mul (← b.assetPrice w.oracle env)
  | "debt_ratio" => .dec <$> b.debtRatio w.staking w.ledger env
  | "standardized_debt_ratio" => do
    let r ← b.debtRatio w.staking w.ledger env
    .dec <$> r.mul (← b.assetPrice w.oracle env)
  | "current_debt" => .int <$> b.currentDebt env
  | "debt_decay" => .int <$> b.debtDecay env
  | "max_payout" => .int <$> b.maxPayout w.staking w.ledger
  | "payout_for" => do
    let some v := req.value | throw (.wrap .invalidInput "value is required")
    .int <$> payoutAt v (← b.bondPrice w.staking w.ledger env)
  | "percent_vested_for" => do
    let p ← w.position req.address
    pure (.dec (p.percentVested env.now))
  | "pending_payout_for" =>
    match b.positions.get? req.address with
    | some p => .int <$> p.pendingPayout env.now
    | none => pure (.int 0)
  | "bond_info" => do
    let p ← w.position req.address
    let pending ← p.pendingPayout env.now
    pure ⟨p.toJson.withMembers [("percent_vested", Dec.toJson (p.percentVested env.now)),
      ("pending_payout", Int256.toJson pending)], p.times⟩
  | _ => throw (.wrap .unknownMessage ("bond query " ++ req.query.quoted))

def pointsAnswer (w : World) (env : Env) (addr : String) : Result Answer := do
  let s := w.staking
  let p := s.pointsOf addr
  let pending ← if s.config.pointsEnabled then s.pendingPoints w.ledger env addr p 0 else pure 0
  pure ⟨p.toJson.withMembers [("pending", Int256.toJson pending)], p.times⟩

/-- The staking contract's queries. -/
def stakingQuery (w : World) (env : Env) (req : QueryRequest) : Result Answer := do
  let s := w.staking
  match req.query.text with
  | "config" => pure ⟨s.config.toJson, []⟩
  | "exchange_rate" => do
    let (deposited, staked) ← s.poolState w.ledger
    let rate ← exchangeRate deposited staked
    pure ⟨.obj [("rate", Dec.toJson rate), ("pool_balance", Int256.toJson deposited),
      ("staked_supply", Int256.toJson staked)], []⟩
  | "epoch" =>
    let e := s.epoch
    pure ⟨e.toJson.withMembers ([("epoch_apr", Dec.toJson s.config.epochApr)] ++
      (match s.config.nextEpochApr with | some n => [("next_epoch_apr", Dec.toJson n)] | none => []) ++
      [("due", .bool !(env.now.before e.stop))]), e.times⟩
  | "warmup_info" =>
    match s.warmups.get? req.address with
    | some entry => pure ⟨entry.toJson.withMembers [("claimable", .bool !(env.now.before entry.unlockTime))],
        entry.times⟩
    | none => throw (.wrap .noWarmupEntry ("address " ++ req.address))
  | "points" => w.pointsAnswer env req.address
  | _ => throw (.wrap .unknownMessage ("staking query " ++ req.query.quoted))

/-- The oracle's queries. -/
def oracleQuery (w : World) (env : Env) (req : QueryRequest) : Result Answer := do
  let o := w.oracle
  match req.query.text with
  | "config" => pure ⟨o.config.toJson, []⟩
  | "quote" => do
    let q ← o.quote env req.base req.quote
    pure ⟨q.toJson, [q.lastUpdatedBase, q.lastUpdatedQuote]⟩
  | "price" => do
    let e ← o.price env req.denom
    pure ⟨.obj [("denom", .str req.denom), ("price", Dec.toJson e.price), ("last_updated", e.lastUpdated.toJson)],
      [e.lastUpdated]⟩
  | _ => throw (.wrap .unknownMessage ("oracle query " ++ req.query.quoted))

def query (w : World) (env : Env) (req : QueryRequest) : Result Answer :=
  match req.contract.text with
  | "ledger" => w.ledgerQuery req
  | "bond" => w.bondQuery env req
  | "staking" => w.stakingQuery env req
  | "oracle" => w.oracleQuery env req
  | _ => .error (.wrap .unknownMessage ("contract " ++ req.contract.quoted))

def balance (w : World) (addr denom : String) : Result Int := do
  if let some f := Denom.fault? denom then throw (.wrap .invalidInput ("denom: " ++ f))
  w.ledger.balanceOf denom addr

end World

def Chain.query (c : Chain) (now : Instant) (req : QueryRequest) : Result Answer :=
  if !c.instantiated then .error Chain.notInstantiated
  else c.world.query ⟨now, c.height⟩ req

def Chain.balance (c : Chain) (addr denom : String) : Result Int :=
  if !c.instantiated then .error Chain.notInstantiated
  else c.world.balance addr denom

end Bonding
