import Bonding.Bond.Contract
import Bonding.Console.Reply
import Bonding.Number.Convert

/-!
Single requests about one rule of the library: account addresses, the message codec, bond
pricing, debt decay, vesting, quote freshness, the one-coin rule and the display conversions.
Values that may be unset in a request stay unset, and the rule meets them as it would in a call:
an unset decimal that a rule multiplies panics as a missing value does.
-/

namespace Bonding

def missingPanic : Fault := .panic "runtime error: invalid memory address or nil pointer dereference"

def present {α : Type} : Option α → Result α
  | some a => .ok a
  | none => .error missingPanic

/-- A bond position as written, with its amount possibly unset. -/
structure PositionInput where
  payout : Option Int := none
  pricePaid : Option Dec := none
  vestingTimeLeft : Nat := 0
  lastTime : Instant := Instant.unset
  deriving Repr, Inhabited

def PositionInput.decoder : Json.Decoder PositionInput := Json.record "types.Position" [
  Json.field "payout" Json.amount (·.payout) fun c v => { c with payout := v },
  Json.field "price_paid" Json.decimal (·.pricePaid) fun c v => { c with pricePaid := v },
  Json.field "vesting_time_left" Json.word (·.vestingTimeLeft) fun c v => { c with vestingTimeLeft := v },
  Json.field "last_time" Json.instant (·.lastTime) fun c v => { c with lastTime := v }]

def debtDecoder : Json.Decoder (Option Int × Instant) := Json.record "types.DebtState" [
  Json.field "outstanding_debt" Json.amount (·.1) fun c v => (v, c.2),
  Json.field "last_decay_time" Json.instant (·.2) fun c v => (c.1, v)]

namespace Probe

def answer (r : Option (Result Json)) : Json :=
  match r with
  | some r => Reply.ofResult r
  | none => Reply.undecodable

def address (j : Json) : Json :=
  answer (do pure (.ok (.str (Address.ofName (← j.read "name" Json.text "")))))

def decodeExecute (j : Json) : Json :=
  answer do
    let contract ← j.read "contract" Json.text ""
    pure do
      let m ← ExecuteMsg.decode contract (j.member? "msg")
      pure (.obj [("contract", .str m.contract.name), ("type", .str m.typeName), ("encoded", m.encode)])

def currentPrice (j : Json) : Json :=
  answer do
    let t ← j.read "terms" TermsInput.decoder {}
    let ratio ← j.read "ratio" Json.decimal none
    pure do
      let p ← (← present t.controlVariable).mul (← present ratio)
      let floor ← present t.minimumPrice
      pure (Dec.toJson (if p < floor then floor else p))

def instantOf (j : Json) : Option Instant := do
  Instant.parse? (← j.read "now" Json.text "")

/-- The decay of a debt over a vesting term. -/
def decay (j : Json) : Json :=
  answer do
    let (d, since) ← j.read "debt" debtDecoder (none, Instant.unset)
    let term ← j.read "vesting_term" Json.word 0
    let now ← instantOf j
    pure do
      if term = 0 then throw (.wrap .arithmetic "vesting term is zero")
      let d ← present d
      pure (Int256.toJson (← decayAmount ⟨d, since⟩ term now))

/-- The vesting state of a position at an instant. -/
def vesting (j : Json) : Json :=
  answer do
    let p ← j.read "position" PositionInput.decoder {}
    let now ← instantOf j
    pure do
      let elapsed := p.lastTime.elapsed now
      let full := elapsed ≥ p.vestingTimeLeft
      let pending ← if full then pure (Int256.toJson? p.payout) else do
        let pos : Position := ⟨← present p.payout, p.pricePaid.getD Dec.zero, p.vestingTimeLeft, p.lastTime⟩
        Int256.toJson <$> pos.pendingPayout now
      let pos : Position := ⟨0, Dec.zero, p.vestingTimeLeft, p.lastTime⟩
      pure (.obj [("elapsed", .ofNat elapsed), ("fully_vested", .bool full), ("pending_payout", pending),
        ("percent_vested", Dec.toJson (pos.percentVested now))])

def quoteFresh (j : Json) : Json :=
  answer do
    let q ← j.read "quote" Quote.decoder {}
    let now ← instantOf j
    let trust ← j.read "trust_period" Json.word 0
    pure (.ok (.bool (q.isFresh now trust)))

def oneCoinOf (j : Json) : Json :=
  answer do
    let funds ← j.read "funds" Coins.decoder []
    let denom ← j.read "denom" Json.text ""
    pure (Int256.toJson <$> oneCoin funds denom)

def display (j : Json) : Json :=
  answer do
    let a ← j.read "amount" Json.amount none
    let denom ← j.read "denom" Json.text ""
    let e := Denom.displayExponent denom
    pure do
      let x ← Convert.amount a e
      pure (.obj [("exponent", .ofNat e), ("display", .num x.toJsonText)])

def intToFloat (j : Json) : Json :=
  answer do
    let a ← j.read "amount" Json.amount none
    let p ← j.read "precision" Json.machineInt 0
    pure ((fun x => Json.num x.toJsonText) <$> Convert.amount a p)

def decToFloat (j : Json) : Json :=
  answer do
    let d ← j.read "dec" Json.decimal none
    pure ((fun x => Json.num x.toJsonText) <$> Convert.decimal d)

end Probe

end Bonding
