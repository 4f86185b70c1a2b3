import Bonding.Coin
import Bonding.KeyMap

/-!
The ledger: the balance of every (address, denomination) pair and the supply of every
denomination. Zero balances and zero supplies are not stored. Minting adds to a balance and the
supply, burning takes from both, sending moves between two balances; a shortfall is an
insufficient balance. An address holding the NUL character cannot be the first half of a pair key.
-/

namespace Bonding

/-- Balances keyed by (address, denomination) and supplies keyed by denomination. -/
structure Ledger where
  balances : KeyMap (String × String) Int := KeyMap.empty
  supply : KeyMap String Int := KeyMap.empty
  deriving Repr, Inhabited

namespace Ledger

def nulKeyFault : Fault :=
  .plain ("collections: encoding error: key encode: collections: encoding error: string is not allowed to have the string delimiter (" ++
    String.singleton (Char.ofNat 0) ++ ") in non terminal encodings of strings")

def checkKey (addr : String) : Result Unit :=
  if addr.toList.contains (Char.ofNat 0) then .error nulKeyFault else .ok ()

def balanceOf (l : Ledger) (denom addr : String) : Result Int := do
  checkKey addr
  pure (l.balances.getD (addr, denom) 0)

def supplyOf (l : Ledger) (denom : String) : Int := l.supply.getD denom 0

def holdings (l : Ledger) (addr : String) : Result (List (String × Int)) := do
  checkKey addr
  let own := l.balances.entries.filterMap fun ((a, d), v) => if a == addr then some (d, v) else none
  pure (own.mergeSort fun x y => decide (x.1 ≤ y.1))

def setBalance (l : Ledger) (addr denom : String) (amount : Int) : Result Ledger := do
  checkKey addr
  if amount = 0 then pure { l with balances := l.balances.erase (addr, denom) }
  else pure { l with balances := l.balances.insert (addr, denom) amount }

def setSupply (l : Ledger) (denom : String) (amount : Int) : Ledger :=
  if amount = 0 then { l with supply := l.supply.erase denom }
  else { l with supply := l.supply.insert denom amount }

def checkCoin (c : Coin) : Result Int :=
  match Denom.fault? c.denom with
  | some f => .error (.wrap .invalidInput ("denom: " ++ f))
  | none =>
    match c.amount with
    | some a => if a < 0 then .error (.wrap .invalidInput ("negative amount " ++ Int256.render a)) else .ok a
    | none => .error (.wrap .invalidInput "negative amount <nil>")

def credit (l : Ledger) (addr denom : String) (amount : Int) : Result Ledger := do
  let b ← l.balanceOf denom addr
  l.setBalance addr denom (← Int256.add b amount)

def debit (l : Ledger) (addr denom : String) (amount : Int) : Result Ledger := do
  let b ← l.balanceOf denom addr
  if b < amount then
    throw (.wrap .insufficientBalance
      (addr ++ " has " ++ Int256.render b ++ denom ++ ", needs " ++ Int256.render amount ++ denom))
  l.setBalance addr denom (← Int256.sub b amount)

def mint (l : Ledger) (c : Coin) (addr : String) : Result Ledger := do
  let a ← checkCoin c
  if a = 0 then return l
  let s ← Int256.add (l.supplyOf c.denom) a
  (l.setSupply c.denom s).credit addr c.denom a

def burn (l : Ledger) (c : Coin) (addr : String) : Result Ledger := do
  let a ← checkCoin c
  if a = 0 then return l
  let l ← l.debit addr c.denom a
  let s := l.supplyOf c.denom
  if s < a then
    throw (.wrap .arithmetic ("burning " ++ Int256.render a ++ c.denom ++ " exceeds supply " ++ Int256.render s))
  pure (l.setSupply c.denom (← Int256.sub s a))

/-- Moves coins, one after another in the order given; zero coins are skipped. -/
def send (l : Ledger) (src dst : String) : Coins → Result Ledger
  | [] => .ok l
  | c :: rest => do
    let a ← checkCoin c
    if a = 0 then send l src dst rest
    else
      let l ← l.debit src c.denom a
      let l ← l.credit dst c.denom a
      send l src dst rest

end Ledger

end Bonding
