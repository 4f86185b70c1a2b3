import Bonding.Effect
import Bonding.Ledger

/-!
The staking contract. Stakers deposit the base token into the pool and receive the staked token at
the exchange rate, the pool balance over the staked supply (never below one). With a warmup the
principal waits in escrow until it is claimed. A rebase closes an epoch that is over, grows the
pool by the epoch's yield and opens the next epoch past the block time. Addresses accrue points:
staked balance times seconds held.
-/

namespace Bonding

/-- The staking contract's state. -/
structure Staking where
  config : StakingConfig := default
  epoch : EpochState := default
  warmups : KeyMap String WarmupEntry := KeyMap.empty
  points : KeyMap String StakingPoints := KeyMap.empty
  deriving Repr, Inhabited

/-- The amount of exactly one positive coin of `denom` among the funds of a call. -/
def oneCoin (funds : Coins) (denom : String) : Result Int :=
  match funds with
  | [c] =>
    if c.denom != denom then .error (.wrap .invalidInput ("expected " ++ denom ++ ", got " ++ c.denom))
    else match c.amount with
      | some a => if a > 0 then .ok a else .error (.wrap .invalidInput ("amount of " ++ denom ++ " must be positive"))
      | none => .error (.wrap .invalidInput ("amount of " ++ denom ++ " must be positive"))
  | cs => .error (.wrap .invalidInput ("expected exactly one coin of " ++ denom ++ ", got " ++
      toString cs.length ++ " coins"))

def coinsOf (denom : String) (amount : Int) : Coins := if amount > 0 then [Coin.of denom amount] else []

/-- The exchange rate of a pool holding `deposited` base tokens against `staked` staked tokens:
one when nothing is staked or the pool is not larger, else their quotient truncated. -/
def exchangeRate (deposited staked : Int) : Result Dec :=
  if staked ≤ 0 ∨ deposited ≤ staked then .ok Dec.one
  else Dec.quoTruncate (Dec.ofInt deposited) (Dec.ofInt staked)

/-- The epoch after `e`: it starts where `e` ends, and when it would already be over at `now` its
end moves on by whole epoch lengths past `now`. -/
def EpochState.advance (e : EpochState) (epochLength : Nat) (now : Instant) : EpochState :=
  let length := Duration.ofSeconds epochLength
  let next : EpochState := ⟨e.stop, e.stop.add length, wordMod (e.number + 1)⟩
  if now.before next.stop then next
  else
    let behind := wordMod ((next.stop.elapsed now / epochLength : Nat) + 1)
    let stop := next.stop.add (Duration.ofSeconds (wordMod (behind * epochLength)))
    { next with stop := stop, start := stop.add (Duration.neg length) }

namespace Staking

def setEpoch (s : Staking) (e : EpochState) : Result Staking := do
  Record.checkTimes e.times
  pure { s with epoch := e }

def setWarmup (s : Staking) (addr : String) (w : WarmupEntry) : Result Staking := do
  Record.checkTimes w.times
  pure { s with warmups := s.warmups.insert addr w }

def setPoints (s : Staking) (addr : String) (p : StakingPoints) : Result Staking := do
  Record.checkTimes p.times
  pure { s with points := s.points.insert addr p }

/-- The staking contract after genesis: its configuration and the first epoch, which ends one
epoch length after the block time unless its end is given. -/
def init (env : Env) (g : StakingGenesis) : Result Staking := do
  let cfg ← g.config.validate
  let length := Duration.ofSeconds cfg.epochLength
  let stop := if g.firstEpochEnd.isUnset then env.now.add length else g.firstEpochEnd.utc
  ({ config := cfg } : Staking).setEpoch ⟨stop.add (Duration.neg length), stop, g.firstEpochNumber⟩

def ownsDenom (s : Staking) (denom : String) : Bool :=
  denom == s.config.baseDenom || denom == s.config.stakedDenom

def ownsAccount (addr : String) : Bool := addr == stakingAccount || addr == warmupAccount

def poolState (s : Staking) (l : Ledger) : Result (Int × Int) := do
  pure (← l.balanceOf s.config.baseDenom stakingAccount, l.supplyOf s.config.stakedDenom)

def currentRate (s : Staking) (l : Ledger) (depositExclude stakedExclude : Int) : Result Dec := do
  let (deposited, staked) ← s.poolState l
  exchangeRate (← Int256.sub deposited depositExclude) (← Int256.sub staked stakedExclude)

def pointsOf (s : Staking) (addr : String) : StakingPoints := s.points.getD addr StakingPoints.fresh

/-- Points accrued since the last update: staked balance (plus `held`) times elapsed seconds; none
for a jailed address or one that never accrued. -/
def pendingPoints (s : Staking) (l : Ledger) (env : Env) (addr : String) (p : StakingPoints)
    (held : Int) : Result Int := do
  if p.jailed || p.lastUpdated.isUnset then return 0
  let balance ← Int256.add (← l.balanceOf s.config.stakedDenom addr) held
  Int256.mul balance (p.lastUpdated.elapsed env.now)

/-- Adds the pending points of an address and restarts its clock; nothing when points are off or
the address is jailed. -/
def accruePoints (s : Staking) (l : Ledger) (env : Env) (addr : String) (held : Int) :
    Result Staking := do
  if !s.config.pointsEnabled then return s
  let p := s.pointsOf addr
  if p.jailed then return s
  let pending ← s.pendingPoints l env addr p held
  s.setPoints addr { p with total := ← Int256.add p.total pending, lastUpdated := env.now }

def recipientOf (given sender : String) : Result String :=
  let r := if given.isEmpty then sender else given
  match Address.fault? r with
  | some f => .error (.wrap .invalidInput ("recipient address: " ++ f))
  | none => .ok r

/-- Stakes the attached base tokens for a recipient, directly or through the warmup escrow. The
attached tokens are already in the pool. -/
def stake (s : Staking) (l : Ledger) (env : Env) (sender : String) (funds : Coins) (toAddr : String) :
    Result (Staking × Response) := do
  let cfg := s.config
  let amount ← oneCoin funds cfg.baseDenom
  let toAddr ← recipientOf toAddr sender
  let rate ← s.currentRate l amount 0
  let minted := (← (Dec.ofInt amount).quoTruncate rate).truncate
  if minted ≤ 0 then
    throw (.wrap .invalidInput ("staking " ++ Int256.render amount ++ " at rate " ++ rate.render ++ " mints nothing"))
  let s ← s.accruePoints l env toAddr 0
  let (s, effect) ← if cfg.warmupLength = 0 then
      pure (s, Effect.mint (Coin.of cfg.stakedDenom minted) toAddr)
    else do
      let w := s.warmups.getD toAddr ⟨0, 0, default⟩
      let w : WarmupEntry := ⟨← Int256.add w.principal amount, ← Int256.add w.minted minted,
        env.now.add (Duration.ofSeconds cfg.warmupLength)⟩
      pure (← s.setWarmup toAddr w, Effect.send stakingAccount warmupAccount [Coin.of cfg.baseDenom amount])
  pure (s, { effects := [effect], events := [⟨"stake", [("sender", sender), ("to", toAddr),
    ("amount", Int256.render amount), ("minted", Int256.render minted), ("rate", rate.render)]⟩] })

/-- Settles the warmup entry of the sender: before the unlock time the principal is refunded,
afterwards the staked tokens are minted and the principal joins the pool. -/
def claim (s : Staking) (l : Ledger) (env : Env) (sender recipient : String) :
    Result (Staking × Response) := do
  let cfg := s.config
  let some w := s.warmups.get? sender | throw (.wrap .noWarmupEntry ("address " ++ sender))
  let recipient ← recipientOf recipient sender
  let s := { s with warmups := s.warmups.erase sender }
  let s ← s.accruePoints l env recipient 0
  let principal := coinsOf cfg.baseDenom w.principal
  if env.now.before w.unlockTime then
    return (s, ⟨[.send warmupAccount recipient principal],
      [⟨"claim_refund", [("claimant", sender), ("recipient", recipient),
        ("principal", Int256.render w.principal)]⟩]⟩)
  let mints := if w.minted > 0 then [Effect.mint (Coin.of cfg.stakedDenom w.minted) recipient] else []
  pure (s, ⟨mints ++ [.send warmupAccount stakingAccount principal],
    [⟨"claim", [("claimant", sender), ("recipient", recipient),
      ("principal", Int256.render w.principal), ("minted", Int256.render w.minted)]⟩]⟩)

/-- Burns the attached staked tokens and pays their value in base tokens. -/
def unstake (s : Staking) (l : Ledger) (env : Env) (sender : String) (funds : Coins) (toAddr : String) :
    Result (Staking × Response) := do
  let cfg := s.config
  let amount ← oneCoin funds cfg.stakedDenom
  let toAddr ← recipientOf toAddr sender
  let rate ← s.currentRate l 0 0
  let redeemed := (← (Dec.ofInt amount).mul rate).truncate
  let s ← s.accruePoints l env sender amount
  pure (s, ⟨[.burn stakingAccount (Coin.of cfg.stakedDenom amount),
      .send stakingAccount toAddr (coinsOf cfg.baseDenom redeemed)],
    [⟨"unstake", [("sender", sender), ("to", toAddr), ("amount", Int256.render amount),
      ("redeemed", Int256.render redeemed), ("rate", rate.render)]⟩]⟩)

/-- Mints base tokens for a registered minter. -/
def mint (s : Staking) (sender toAddr : String) (amount : Option Int) : Result Response := do
  let cfg := s.config
  if !cfg.isMinter sender then throw (.wrap .unauthorized (sender ++ " is not a minter"))
  let a ← match amount with
    | some a => if a > 0 then pure a else throw (.wrap .invalidInput "mint amount must be positive")
    | none => throw (.wrap .invalidInput "mint amount must be positive")
  if let some f := Address.fault? toAddr then throw (.wrap .invalidInput ("recipient address: " ++ f))
  pure ⟨[.mint (Coin.of cfg.baseDenom a) toAddr],
    [⟨"mint", [("minter", sender), ("to", toAddr), ("amount", Int256.render a)]⟩]⟩

/-- Closes the running epoch once it is over: the pool grows by the epoch yield, the next epoch
opens and a staged yield takes effect. Before the end nothing happens. -/
def rebase (s : Staking) (l : Ledger) (env : Env) : Result (Staking × Response) := do
  let cfg := s.config
  if env.now.before s.epoch.stop then return (s, {})
  if cfg.epochLength = 0 then throw (.wrap .arithmetic "epoch length is zero")
  let balance ← l.balanceOf cfg.baseDenom stakingAccount
  let apr := cfg.epochApr
  let amount := (← (Dec.ofInt balance).mul apr).truncate
  let next := s.epoch.advance cfg.epochLength env.now
  let s ← s.setEpoch next
  let s := match cfg.nextEpochApr with
    | some n => { s with config := { cfg with epochApr := n, nextEpochApr := none } }
    | none => s
  let effects := if amount > 0 then [Effect.mint (Coin.of cfg.baseDenom amount) stakingAccount] else []
  pure (s, { effects, events := [⟨"rebase", [("epoch_number", toString next.number),
    ("epoch_start", next.start.rfc3339), ("epoch_end", next.stop.rfc3339),
    ("amount", Int256.render amount), ("apr", apr.render)]⟩] })

/-- Changes the fields set in an update; a new epoch yield is staged for the next rebase. Admin only. -/
def updateConfig (s : Staking) (sender : String) (u : StakingConfigUpdate) : Result (Staking × Response) := do
  let cfg := s.config
  if sender != cfg.admin then throw (.wrap .unauthorized "only the staking admin can update the config")
  let c := cfg.toInput
  let c := { c with
    admin := u.admin.getD c.admin
    epochLength := u.epochLength.getD c.epochLength
    nextEpochApr := match u.epochApr with | some a => some a | none => c.nextEpochApr
    warmupLength := u.warmupLength.getD c.warmupLength
    minters := match u.minters with | some m => some m | none => c.minters
    pointsEnabled := u.pointsEnabled.getD c.pointsEnabled }
  let cfg ← c.validate
  pure ({ s with config := cfg }, .ofEvent "update_config" [("contract", "staking")])

def jail (s : Staking) (env : Env) (sender addr : String) (jailed : Bool) : Result (Staking × Response) := do
  if sender != s.config.admin then throw (.wrap .unauthorized "only the staking admin can jail")
  if let some f := Address.fault? addr then throw (.wrap .invalidInput ("address: " ++ f))
  let p := s.pointsOf addr
  let p := { p with total := if jailed then 0 else p.total, jailed := jailed, lastUpdated := env.now }
  pure (← s.setPoints addr p, .ofEvent "jail" [("address", addr), ("jailed", if jailed then "true" else "false")])

end Staking

end Bonding
