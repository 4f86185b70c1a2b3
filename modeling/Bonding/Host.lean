import Bonding.Bond.Contract
import Bonding.Genesis

/-!
The host that runs the contracts. A call runs against the whole state and either every change it
and the effects it emitted made is kept, or none is: a call is a function from a world to a new
world, and a failed call has no new world. Effects run in order after the handler, each checked
against what the emitting contract owns; a call emitted by a contract has the contract's account
as sender and one level more of depth. A panic inside a call becomes an arithmetic error.
-/

namespace Bonding

/-- The state of every contract and the ledger. -/
structure World where
  ledger : Ledger := {}
  oracle : Oracle := {}
  staking : Staking := {}
  bond : Bond := {}
  deriving Repr, Inhabited

def maxCallDepth : Nat := 8

namespace World

/-- Runs the handler of a message. -/
def dispatch (w : World) (env : Env) (sender : String) (funds : Coins) :
    ExecuteMsg → Result (World × Response)
  | .deposit p d => do
    let (b, r) ← w.bond.deposit w.oracle w.staking w.ledger env sender funds p d
    pure ({ w with bond := b }, r)
  | .redeem toAddr stake => do
    let (b, r) ← w.bond.redeem w.staking env sender toAddr stake
    pure ({ w with bond := b }, r)
  | .updateTerms t => do
    let (b, r) ← w.bond.updateTerms sender t
    pure ({ w with bond := b }, r)
  | .updateBondConfig u => do
    let (b, r) ← w.bond.updateConfig sender u
    pure ({ w with bond := b }, r)
  | .updateAdjustment u => do
    let (b, r) ← w.bond.updateAdjustment env sender u
    pure ({ w with bond := b }, r)
  | .stake toAddr => do
    let (s, r) ← w.staking.stake w.ledger env sender funds toAddr
    pure ({ w with staking := s }, r)
  | .unstake toAddr => do
    let (s, r) ← w.staking.unstake w.ledger env sender funds toAddr
    pure ({ w with staking := s }, r)
  | .claim toAddr => do
    let (s, r) ← w.staking.claim w.ledger env sender toAddr
    pure ({ w with staking := s }, r)
  | .rebase => do
    let (s, r) ← w.staking.rebase w.ledger env
    pure ({ w with staking := s }, r)
  | .mint toAddr amount => do
    let r ← w.staking.mint sender toAddr amount
    pure (w, r)
  | .updateStakingConfig u => do
    let (s, r) ← w.staking.updateConfig sender u
    pure ({ w with staking := s }, r)
  | .jail addr jailed => do
    let (s, r) ← w.staking.jail env sender addr jailed
    pure ({ w with staking := s }, r)
  | .registerFeeder denom feeder => do
    let (o, r) ← w.oracle.registerFeeder sender denom feeder
    pure ({ w with oracle := o }, r)
  | .feedPrice prices => do
    let (o, r) ← w.oracle.feedPrice env sender (prices.getD [])
    pure ({ w with oracle := o }, r)

def ownsAccount : ContractName → String → Bool
  | .staking, addr => Staking.ownsAccount addr
  | c, addr => addr == c.account

def ownsDenom (w : World) : ContractName → String → Bool
  | .staking, denom => w.staking.ownsDenom denom
  | _, _ => false

/-- Runs a message with the sender's funds attached, then the effects it emitted, with `levels`
levels of calls left; the events are the handler's followed by those of emitted calls. -/
def execute : (levels : Nat) → World → Env → (sender : String) → Coins → ExecuteMsg →
    Result (World × List Event)
  | 0, _, _, _, _, _ => .error (.wrap .invalidInput ("call depth exceeds " ++ toString maxCallDepth))
  | n + 1, w, env, sender, funds, msg => do
    if let some f := Address.fault? sender then throw (.wrap .invalidInput ("sender address: " ++ f))
    if let some f ← Coins.validate funds then throw (.wrap .invalidInput ("funds: " ++ f))
    let emitter := msg.contract
    let w ← if funds.isZero then pure w
      else do pure { w with ledger := ← w.ledger.send sender emitter.account funds }
    let (w, resp) ← w.dispatch env sender funds msg
    resp.effects.foldlM (fun (w, events) e =>
      Result.context (e.kindName ++ " emitted by " ++ emitter.name) (do
        match e with
        | .send src dst coins =>
          if !ownsAccount emitter src then
            throw (.wrap .unauthorized (emitter.name ++ " cannot spend from " ++ src))
          pure ({ w with ledger := ← w.ledger.send src dst coins }, events)
        | .mint coin toAddr =>
          if !w.ownsDenom emitter coin.denom then
            throw (.wrap .unauthorized (emitter.name ++ " cannot mint " ++ coin.denom))
          pure ({ w with ledger := ← w.ledger.mint coin toAddr }, events)
        | .burn holder coin =>
          if !w.ownsDenom emitter coin.denom || !ownsAccount emitter holder then
            throw (.wrap .unauthorized (emitter.name ++ " cannot burn " ++ coin.denom ++ " held by " ++ holder))
          pure ({ w with ledger := ← w.ledger.burn coin holder }, events)
        | .execute subFunds sub => do
          let (w, more) ← execute n w env emitter.account subFunds sub
          pure (w, events ++ more))) (w, resp.events)

def transfer (w : World) (src dst : String) (coins : Coins) : Result (World × List Event) := do
  if let some f := Address.fault? src then throw (.wrap .invalidInput ("sender address: " ++ f))
  if let some f := Address.fault? dst then throw (.wrap .invalidInput ("recipient address: " ++ f))
  if coins.isEmpty then throw (.wrap .invalidInput "nothing to send")
  let l ← w.ledger.send src dst coins
  pure ({ w with ledger := l },
    [⟨"transfer", [("sender", src), ("recipient", dst), ("amount", Coins.render coins)]⟩])

end World

/-- The chain: the height of the last committed call, the genesis time once instantiated, and the
committed world. -/
structure Chain where
  height : Nat := 0
  genesisTime : Option Instant := none
  world : World := {}
  deriving Repr, Inhabited

namespace Chain

def instantiated (c : Chain) : Bool := c.genesisTime.isSome

def notInstantiated : Fault := .wrap .notInstantiated "contracts"

/-- Runs one call as the next block at `now`: committed with the next height on success; a panic
becomes an arithmetic error. -/
def call (c : Chain) (now : Instant) (body : World → Env → Result (World × List Event)) :
    Result (Chain × List Event) :=
  if !c.instantiated then .error notInstantiated
  else match body c.world ⟨now, c.height + 1⟩ with
    | .ok (w, events) => .ok ({ c with height := c.height + 1, world := w }, events)
    | .error (.panic v) => .error (.wrap .arithmetic v)
    | .error e => .error e

def execute (c : Chain) (now : Instant) (sender : String) (funds : Coins) (msg : ExecuteMsg) :
    Result (Chain × List Event) :=
  c.call now fun w env => w.execute (maxCallDepth + 1) env sender funds msg

def transfer (c : Chain) (now : Instant) (src dst : String) (coins : Coins) : Result (Chain × List Event) :=
  c.call now fun w _ => w.transfer src dst coins

/-- The genesis as instantiation applies it: the bond account becomes a minter and the minimum
payout defaults to one. -/
def Genesis.prepared (g : Genesis) : Genesis :=
  let cfg := g.staking.config
  let minters := cfg.minters.getD []
  let cfg := if minters.contains bondAccount then cfg else { cfg with minters := some (minters ++ [bondAccount]) }
  let bondCfg := g.bond.config
  let bondCfg := { bondCfg with minPayout := bondCfg.minPayout.orElse fun _ => some 1 }
  { g with staking := { g.staking with config := cfg }, bond := { g.bond with config := bondCfg } }

/-- Applies a genesis at `now`: validates it, mints the balances and starts the oracle, staking and
bond, in that order. A second genesis fails. -/
def instantiate (c : Chain) (now : Instant) (g : Genesis) : Result Chain := do
  let g := Genesis.prepared g
  Result.context "invalid genesis" g.validate
  if let some t := c.genesisTime then throw (.plain ("already instantiated at " ++ t.rfc3339))
  let env : Env := ⟨now, c.height⟩
  let mut l := c.world.ledger
  for b in g.balances.getD [] do
    for coin in b.coins do
      l ← Result.context ("genesis balance of " ++ b.address) (l.mint coin b.address)
  let o ← Result.context "oracle genesis" (Oracle.init env g.oracle)
  let s ← Result.context "staking genesis" (Staking.init env g.staking)
  let bd ← Result.context "bond genesis" (Bond.init env g.bond.config g.bond.terms g.bond.adjustment)
  Record.checkTimes [now]
  pure { c with genesisTime := some now, world := ⟨l, o, s, bd⟩ }

end Chain

end Bonding
