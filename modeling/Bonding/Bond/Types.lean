import Bonding.Record
import Bonding.Json.Decode
import Bonding.Crypto.Address
import Bonding.Coin

/-!
The records of the bond contract. Configuration, terms and adjustment come in two forms: the
input form of messages and genesis, whose amounts and decimals may be unset, and the checked form
the contract keeps. A position is the payout a depositor has bought and not yet redeemed; it vests
linearly over the time left.
-/

namespace Bonding

/-- The bond contract's configuration as written; the minimum payout may be unset. -/
structure BondConfigInput where
  usd : String := ""
  principal : String := ""
  admin : String := ""
  treasury : String := ""
  oracleTrustPeriod : Nat := 0
  floorRelief : Bool := false
  minPayout : Option Int := none
  deriving Repr, DecidableEq, Inhabited

/-- The bond contract's configuration as kept. -/
structure BondConfig where
  usd : String
  principal : String
  admin : String
  treasury : String
  oracleTrustPeriod : Nat
  floorRelief : Bool
  minPayout : Int
  deriving Repr, DecidableEq, Inhabited

namespace BondConfigInput

/-- Checks the configuration: denominations, addresses and a positive minimum payout. -/
def validate (c : BondConfigInput) : Result BondConfig := do
  if let some f := Denom.fault? c.principal then throw (.wrap .invalidInput ("principal denom: " ++ f))
  if c.usd != "" then
    if let some f := Denom.fault? c.usd then throw (.wrap .invalidInput ("usd denom: " ++ f))
  if let some f := Address.fault? c.admin then throw (.wrap .invalidInput ("admin address: " ++ f))
  if let some f := Address.fault? c.treasury then throw (.wrap .invalidInput ("treasury address: " ++ f))
  match c.minPayout with
  | some m =>
    if m > 0 then
      pure ⟨c.usd, c.principal, c.admin, c.treasury, c.oracleTrustPeriod, c.floorRelief, m⟩
    else throw (.wrap .invalidInput "min payout must be positive")
  | none => throw (.wrap .invalidInput "min payout must be positive")

def toJson (c : BondConfigInput) : Json := .obj [("usd", .str c.usd), ("principal", .str c.principal),
  ("admin", .str c.admin), ("treasury", .str c.treasury), ("oracle_trust_period", .ofNat c.oracleTrustPeriod),
  ("floor_relief", .bool c.floorRelief), ("min_payout", Int256.toJson? c.minPayout)]

def decoder : Json.Decoder BondConfigInput := Json.record "types.BondConfig" [
  Json.field "usd" Json.text (·.usd) fun c v => { c with usd := v },
  Json.field "principal" Json.text (·.principal) fun c v => { c with principal := v },
  Json.field "admin" Json.text (·.admin) fun c v => { c with admin := v },
  Json.field "treasury" Json.text (·.treasury) fun c v => { c with treasury := v },
  Json.field "oracle_trust_period" Json.word (·.oracleTrustPeriod) fun c v => { c with oracleTrustPeriod := v },
  Json.field "floor_relief" Json.truth (·.floorRelief) fun c v => { c with floorRelief := v },
  Json.field "min_payout" Json.amount (·.minPayout) fun c v => { c with minPayout := v }]

end BondConfigInput

namespace BondConfig

def toInput (c : BondConfig) : BondConfigInput :=
  ⟨c.usd, c.principal, c.admin, c.treasury, c.oracleTrustPeriod, c.floorRelief, some c.minPayout⟩

def toJson (c : BondConfig) : Json := c.toInput.toJson

end BondConfig

/-- Bond pricing and capacity as written; amounts and decimals may be unset. -/
structure TermsInput where
  controlVariable : Option Dec := none
  minimumPrice : Option Dec := none
  maxPayout : Option Dec := none
  maxDebt : Option Int := none
  vestingTerm : Nat := 0
  deriving Repr, DecidableEq, Inhabited

/-- Bond pricing and capacity as kept. -/
structure Terms where
  controlVariable : Dec
  minimumPrice : Dec
  maxPayout : Dec
  maxDebt : Int
  vestingTerm : Nat
  deriving Repr, DecidableEq, Inhabited

def requireNonNegative (what : String) : Option Dec → Result Dec
  | some d => if d.isNegative then .error (.wrap .invalidInput (what ++ " must be non-negative")) else .ok d
  | none => .error (.wrap .invalidInput (what ++ " must be non-negative"))

namespace TermsInput

/-- Checks the terms: non-negative values and a positive vesting term. -/
def validate (t : TermsInput) : Result Terms := do
  let cv ← requireNonNegative "control variable" t.controlVariable
  let mp ← requireNonNegative "minimum price" t.minimumPrice
  let mx ← requireNonNegative "max payout" t.maxPayout
  let md ← match t.maxDebt with
    | some d => if d < 0 then throw (.wrap .invalidInput "max debt must be non-negative") else pure d
    | none => throw (.wrap .invalidInput "max debt must be non-negative")
  if t.vestingTerm = 0 then throw (.wrap .invalidInput "vesting term must be positive")
  pure ⟨cv, mp, mx, md, t.vestingTerm⟩

def toJson (t : TermsInput) : Json := .obj [("control_variable", Dec.toJson? t.controlVariable),
  ("minimum_price", Dec.toJson? t.minimumPrice), ("max_payout", Dec.toJson? t.maxPayout),
  ("max_debt", Int256.toJson? t.maxDebt), ("vesting_term", .ofNat t.vestingTerm)]

def decoder : Json.Decoder TermsInput := Json.record "types.Terms" [
  Json.field "control_variable" Json.decimal (·.controlVariable) fun c v => { c with controlVariable := v },
  Json.field "minimum_price" Json.decimal (·.minimumPrice) fun c v => { c with minimumPrice := v },
  Json.field "max_payout" Json.decimal (·.maxPayout) fun c v => { c with maxPayout := v },
  Json.field "max_debt" Json.amount (·.maxDebt) fun c v => { c with maxDebt := v },
  Json.field "vesting_term" Json.word (·.vestingTerm) fun c v => { c with vestingTerm := v }]

end TermsInput

namespace Terms

def toInput (t : Terms) : TermsInput :=
  ⟨some t.controlVariable, some t.minimumPrice, some t.maxPayout, some t.maxDebt, t.vestingTerm⟩

def toJson (t : Terms) : Json := t.toInput.toJson

end Terms

/-- The outstanding debt and when it last decayed. -/
structure DebtState where
  outstandingDebt : Int
  lastDecayTime : Instant
  deriving Repr, DecidableEq, Inhabited

namespace DebtState

def toJson (d : DebtState) : Json :=
  .obj [("outstanding_debt", Int256.toJson d.outstandingDebt), ("last_decay_time", d.lastDecayTime.toJson)]

def times (d : DebtState) : List Instant := [d.lastDecayTime]

end DebtState

/-- The scheduled creep of the control variable toward a target, as written. -/
structure AdjustmentInput where
  add : Bool := false
  rate : Option Dec := none
  target : Option Dec := none
  buffer : Nat := 0
  lastTime : Instant := Instant.unset
  deriving Repr, DecidableEq, Inhabited

/-- The scheduled creep of the control variable toward a target, as kept. -/
structure Adjustment where
  add : Bool
  rate : Dec
  target : Dec
  buffer : Nat
  lastTime : Instant
  deriving Repr, DecidableEq, Inhabited

namespace Adjustment

def inactive (now : Instant) : Adjustment := ⟨true, Dec.zero, Dec.zero, 0, now⟩

def toJson (a : Adjustment) : Json := .obj [("add", .bool a.add), ("rate", Dec.toJson a.rate),
  ("target", Dec.toJson a.target), ("buffer", .ofNat a.buffer), ("last_time", a.lastTime.toJson)]

def times (a : Adjustment) : List Instant := [a.lastTime]

end Adjustment

namespace AdjustmentInput

def toAdjustment (a : AdjustmentInput) : Adjustment :=
  ⟨a.add, a.rate.getD Dec.zero, a.target.getD Dec.zero, a.buffer, a.lastTime⟩

def toJson (a : AdjustmentInput) : Json := .obj [("add", .bool a.add), ("rate", Dec.toJson? a.rate),
  ("target", Dec.toJson? a.target), ("buffer", .ofNat a.buffer), ("last_time", a.lastTime.toJson)]

def decoder : Json.Decoder AdjustmentInput := Json.record "types.Adjustment" [
  Json.field "add" Json.truth (·.add) fun c v => { c with add := v },
  Json.field "rate" Json.decimal (·.rate) fun c v => { c with rate := v },
  Json.field "target" Json.decimal (·.target) fun c v => { c with target := v },
  Json.field "buffer" Json.word (·.buffer) fun c v => { c with buffer := v },
  Json.field "last_time" Json.instant (·.lastTime) fun c v => { c with lastTime := v }]

end AdjustmentInput

/-- The payout a depositor bought and has not redeemed yet. -/
structure Position where
  payout : Int
  pricePaid : Dec
  vestingTimeLeft : Nat
  lastTime : Instant
  deriving Repr, DecidableEq, Inhabited

namespace Position

def percentVested (p : Position) (now : Instant) : Dec :=
  let elapsed := p.lastTime.elapsed now
  if elapsed ≥ p.vestingTimeLeft then Dec.one
  else ⟨((elapsed : Int) * Dec.scale).tdiv p.vestingTimeLeft⟩

def fullyVested (p : Position) (now : Instant) : Bool := p.lastTime.elapsed now ≥ p.vestingTimeLeft

def pendingPayout (p : Position) (now : Instant) : Result Int :=
  if p.fullyVested now then .ok p.payout
  else do
    let x ← Int256.mul p.payout (p.lastTime.elapsed now)
    Int256.quo x p.vestingTimeLeft

def toJson (p : Position) : Json := .obj [("payout", Int256.toJson p.payout),
  ("price_paid", Dec.toJson p.pricePaid), ("vesting_time_left", .ofNat p.vestingTimeLeft),
  ("last_time", p.lastTime.toJson)]

def times (p : Position) : List Instant := [p.lastTime]

end Position

end Bonding
