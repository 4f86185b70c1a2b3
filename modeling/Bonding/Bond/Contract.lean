import Bonding.Oracle.Contract
import Bonding.Staking.Contract

/-!
The bond contract. A deposit buys payout tokens at a price driven by the ratio of outstanding
debt to the payout token supply, `max(control variable * ratio, minimum price)`. The payout vests
linearly over the vesting term and is released by redemptions; the debt decays linearly over the
same term. An adjustment moves the control variable a step toward a target after each buffer.
-/

namespace Bonding

/-- The bond contract's state. -/
structure Bond where
  config : BondConfig := default
  terms : Terms := default
  debt : DebtState := default
  adjustment : Adjustment := default
  positions : KeyMap String Position := KeyMap.empty
  deriving Repr, Inhabited

def decayAmount (debt : DebtState) (vestingTerm : Nat) (now : Instant) : Result Int := do
  if vestingTerm = 0 then throw (.wrap .arithmetic "vesting term is zero")
  let x ← Int256.mul debt.outstandingDebt (debt.lastDecayTime.elapsed now)
  let decay ← Int256.quo x vestingTerm
  pure (min decay debt.outstandingDebt)

def currentPrice (t : Terms) (ratio : Dec) : Result Dec := do
  let p ← t.controlVariable.mul ratio
  pure (if p < t.minimumPrice then t.minimumPrice else p)

def payoutAt (value : Int) (price : Dec) : Result Int := do
  if !price.isPositive then throw (.wrap .arithmetic "bond price is zero")
  pure (← (Dec.ofInt value).quoTruncate price).truncate

namespace Bond

def setDebt (b : Bond) (d : DebtState) : Result Bond := do
  Record.checkTimes d.times
  pure { b with debt := d }

def setAdjustment (b : Bond) (a : Adjustment) : Result Bond := do
  Record.checkTimes a.times
  pure { b with adjustment := a }

def setPosition (b : Bond) (addr : String) (p : Position) : Result Bond := do
  Record.checkTimes p.times
  pure { b with positions := b.positions.insert addr p }

/-- The bond contract after genesis: configuration, terms, adjustment and no debt. -/
def init (env : Env) (config : BondConfigInput) (terms : TermsInput) (adjustment : Option AdjustmentInput) :
    Result Bond := do
  let config := { config with minPayout := config.minPayout.orElse fun _ => some 1 }
  let cfg ← config.validate
  let t ← terms.validate
  let adj := match adjustment with
    | some a => let a := a.toAdjustment
      if a.lastTime.isUnset then { a with lastTime := env.now } else a
    | none => Adjustment.inactive env.now
  let b : Bond := { config := cfg, terms := t }
  let b ← b.setAdjustment adj
  b.setDebt ⟨0, env.now⟩

def debtDecay (b : Bond) (env : Env) : Result Int := decayAmount b.debt b.terms.vestingTerm env.now

def currentDebt (b : Bond) (env : Env) : Result Int := do
  Int256.sub b.debt.outstandingDebt (← b.debtDecay env)

def payoutSupply (s : Staking) (l : Ledger) : Int := l.supplyOf s.config.baseDenom

def debtRatio (b : Bond) (s : Staking) (l : Ledger) (env : Env) : Result Dec := do
  let debt ← b.currentDebt env
  let supply := payoutSupply s l
  if supply ≤ 0 then return Dec.zero
  Dec.quoTruncate (Dec.ofInt debt) (Dec.ofInt supply)

def bondPrice (b : Bond) (s : Staking) (l : Ledger) (env : Env) : Result Dec := do
  currentPrice b.terms (← b.debtRatio s l env)

def assetPrice (b : Bond) (o : Oracle) (env : Env) : Result Dec := do
  let cfg := b.config
  if cfg.usd.isEmpty then throw (.wrap .priceNotFound "no usd denom configured")
  let q ← o.quote env cfg.principal cfg.usd
  if !q.isFresh env.now cfg.oracleTrustPeriod then
    throw (.wrap .stalePrice (cfg.principal ++ "/" ++ cfg.usd))
  pure (q.rate.getD Dec.zero)

def maxPayout (b : Bond) (s : Staking) (l : Ledger) : Result Int := do
  pure (← (Dec.ofInt (payoutSupply s l)).mul b.terms.maxPayout).truncate

/-- Moves the control variable one step toward the target once the buffer has passed; reaching
the target ends the adjustment. -/
def stepAdjustment (b : Bond) (env : Env) : Result Bond := do
  let a := b.adjustment
  if a.rate.isZero || env.now.before (a.lastTime.add (Duration.ofSeconds a.buffer)) then return b
  let t := b.terms
  let (cv, rate) ← if a.add then do
      let cv ← t.controlVariable.add a.rate
      pure (cv, if cv ≥ a.target then Dec.zero else a.rate)
    else do
      let cv ← if t.controlVariable > a.rate then t.controlVariable.sub a.rate else pure Dec.zero
      pure (cv, if cv ≤ a.target then Dec.zero else a.rate)
  let b := { b with terms := { t with controlVariable := cv } }
  b.setAdjustment { a with rate := rate, lastTime := env.now }

/-- Bonds the attached principal for a depositor: the principal goes to the treasury and the
payout is minted to the bond account, where it vests. -/
def deposit (b : Bond) (o : Oracle) (s : Staking) (l : Ledger) (env : Env) (sender : String)
    (funds : Coins) (maxPrice : Option Dec) (depositor : String) : Result (Bond × Response) := do
  let cfg := b.config
  let amount ← oneCoin funds cfg.principal
  let depositor := if depositor.isEmpty then sender else depositor
  if let some f := Address.fault? depositor then throw (.wrap .invalidInput ("depositor address: " ++ f))
  let some maxPrice := maxPrice | throw (.wrap .invalidInput "max price is required")
  let decay ← decayAmount b.debt b.terms.vestingTerm env.now
  let b ← b.setDebt ⟨← Int256.sub b.debt.outstandingDebt decay, env.now⟩
  let terms := b.terms
  if b.debt.outstandingDebt > terms.maxDebt then
    throw (.wrap .maxDebtReached ("debt " ++ Int256.render b.debt.outstandingDebt ++ " exceeds " ++
      Int256.render terms.maxDebt))
  let ratio ← b.debtRatio s l env
  let raw ← terms.controlVariable.mul ratio
  let (b, price) :=
    if raw < terms.minimumPrice then (b, terms.minimumPrice)
    else if cfg.floorRelief && !terms.minimumPrice.isZero then
      ({ b with terms := { b.terms with minimumPrice := Dec.zero } }, raw)
    else (b, raw)
  if maxPrice < price then
    throw (.wrap .slippageExceeded ("price " ++ price.render ++ ", max price " ++ maxPrice.render))
  let pricePaid ← if cfg.usd.isEmpty then pure price else do price.mul (← b.assetPrice o env)
  let payout ← payoutAt amount price
  if payout < cfg.minPayout then
    throw (.wrap .bondTooSmall ("payout " ++ Int256.render payout ++ " is below " ++ Int256.render cfg.minPayout))
  let cap ← b.maxPayout s l
  if payout > cap then
    throw (.wrap .bondTooLarge ("payout " ++ Int256.render payout ++ " exceeds " ++ Int256.render cap))
  let b ← b.setDebt { b.debt with outstandingDebt := ← Int256.add b.debt.outstandingDebt payout }
  let pos := b.positions.getD depositor ⟨0, Dec.zero, 0, default⟩
  let b ← b.setPosition depositor ⟨← Int256.add pos.payout payout, pricePaid, terms.vestingTerm, env.now⟩
  let b ← b.stepAdjustment env
  let expires := signedWord (wordMod (env.now.unix + signedWord terms.vestingTerm))
  pure (b, ⟨[.send bondAccount cfg.treasury [Coin.of cfg.principal amount],
      .execute [] (.mint bondAccount (some payout))],
    [⟨"bond_deposit", [("depositor", depositor), ("amount", Int256.render amount),
      ("payout", Int256.render payout), ("price", price.render), ("price_paid", pricePaid.render),
      ("expires", Int256.render expires)]⟩]⟩)

/-- Releases the vested part of a recipient's position, sent or staked for the recipient. -/
def redeem (b : Bond) (s : Staking) (env : Env) (sender recipient : String) (stake : Bool) :
    Result (Bond × Response) := do
  let recipient := if recipient.isEmpty then sender else recipient
  let some pos := b.positions.get? recipient | throw (.wrap .noPosition ("address " ++ recipient))
  let denom := s.config.baseDenom
  let percent := pos.percentVested env.now
  let (b, delivered, remaining) ← if pos.fullyVested env.now then
      pure ({ b with positions := b.positions.erase recipient }, pos.payout, "0")
    else do
      let delivered ← pos.pendingPayout env.now
      if delivered = 0 then throw (.wrap .nothingToRedeem ("address " ++ recipient))
      let elapsed := pos.lastTime.elapsed env.now
      let left ← Int256.sub pos.payout delivered
      let b ← b.setPosition recipient ⟨left, pos.pricePaid, pos.vestingTimeLeft - elapsed, env.now⟩
      pure (b, delivered, Int256.render left)
  let effects := if delivered > 0 then
      let coins := [Coin.of denom delivered]
      if stake then [Effect.execute coins (.stake recipient)] else [Effect.send bondAccount recipient coins]
    else []
  pure (b, { effects, events := [⟨"bond_redeem", [("recipient", recipient),
    ("payout", Int256.render delivered), ("remaining", remaining), ("percent_vested", percent.render)]⟩] })

def requireAdmin (b : Bond) (sender : String) : Result Unit :=
  if sender != b.config.admin then .error (.wrap .unauthorized "only the bond admin can do this") else .ok ()

def updateTerms (b : Bond) (sender : String) (t : TermsInput) : Result (Bond × Response) := do
  b.requireAdmin sender
  let t ← t.validate
  pure ({ b with terms := t }, .ofEvent "update_terms" [("contract", "bond")])

/-- Changes the fields set in an update. Admin only. -/
def updateConfig (b : Bond) (sender : String) (u : BondConfigUpdate) : Result (Bond × Response) := do
  b.requireAdmin sender
  let c := b.config.toInput
  let c : BondConfigInput := { c with
    usd := u.usd.getD c.usd, principal := u.principal.getD c.principal, admin := u.admin.getD c.admin,
    treasury := u.treasury.getD c.treasury, oracleTrustPeriod := u.oracleTrustPeriod.getD c.oracleTrustPeriod,
    floorRelief := u.floorRelief.getD c.floorRelief,
    minPayout := match u.minPayout with | some m => some m | none => c.minPayout }
  let cfg ← c.validate
  pure ({ b with config := cfg }, .ofEvent "update_config" [("contract", "bond")])

/-- Changes the fields set in an adjustment update; the buffer counts from the update. Admin only. -/
def updateAdjustment (b : Bond) (env : Env) (sender : String) (u : AdjustmentUpdate) :
    Result (Bond × Response) := do
  b.requireAdmin sender
  let a := b.adjustment
  let a := { a with
    add := u.add.getD a.add, rate := u.rate.getD a.rate, target := u.target.getD a.target,
    buffer := u.buffer.getD a.buffer }
  if a.rate.isNegative || a.target.isNegative then
    throw (.wrap .invalidInput "adjustment rate and target must be non-negative")
  pure (← b.setAdjustment { a with lastTime := env.now }, .ofEvent "update_adjustment" [("contract", "bond")])

end Bond

end Bonding
