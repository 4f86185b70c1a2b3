import Bonding.Number.Int256
import Bonding.Json.Decode

/-!
Coins: an amount of a denomination. A denomination is a letter followed by 2 to 127 letters,
digits or any of `/ : . _ -`. A coin as written may lack its amount (it is then "unset" and prints
as `<nil>`). A list of coins is valid when the denominations are valid and strictly increasing and
every amount is positive; it is written as `5ulp,3uohm`.
-/

namespace Bonding

def Denom.isValid (d : String) : Bool :=
  let ok (c : Char) := c.isAlphanum || c == '/' || c == ':' || c == '.' || c == '_' || c == '-'
  match d.toList with
  | c :: rest => c.isAlpha && rest.all ok && 2 ≤ rest.length && rest.length ≤ 127
  | [] => false

def Denom.fault? (d : String) : Option String :=
  if Denom.isValid d then none else some ("invalid denom: " ++ d)

/-- The exponent of the display unit of a denomination: six for the micro units (names that start
with `u`), eighteen for `aevmos`, none otherwise. -/
def Denom.displayExponent (denom : String) : Nat :=
  if denom == "aevmos" then 18
  else if denom.startsWith "u" then 6
  else 0

/-- A coin as written: a denomination and an amount that may be unset. -/
structure Coin where
  denom : String
  amount : Option Int
  deriving Repr, DecidableEq, Inhabited

namespace Coin

def of (denom : String) (amount : Int) : Coin := ⟨denom, some amount⟩

def amountText : Option Int → String
  | some a => Int256.render a
  | none => "<nil>"

def render (c : Coin) : String := amountText c.amount ++ c.denom

def unsetPanic : Fault := .panic "runtime error: invalid memory address or nil pointer dereference"

def isPositive (c : Coin) : Result Bool :=
  match c.amount with
  | some a => .ok (a > 0)
  | none => .error unsetPanic

def toJson (c : Coin) : Json :=
  .obj [("denom", .str c.denom), ("amount", .str (Int256.render (c.amount.getD 0)))]

def decoder : Json.Decoder Coin :=
  Json.record "types.Coin" [
    Json.field "denom" Json.text (·.denom) fun c v => { c with denom := v },
    Json.field "amount" Json.amount (·.amount) fun c v => { c with amount := v }]

def blank : Coin := ⟨"", none⟩

end Coin

abbrev Coins := List Coin

namespace Coins

def render (cs : Coins) : String := ",".intercalate (cs.map Coin.render)

/-- Why a list of coins is not valid: a bad denomination, an unsorted or repeated one, or an
amount that is not positive. The first coin is named with its amount, a later one by its
denomination alone. -/
def validate (cs : Coins) : Result (Option String) := do
  match cs with
  | [] => pure none
  | first :: rest =>
    if let some f := Denom.fault? first.denom then return some f
    if !(← first.isPositive) then return some ("coin " ++ first.render ++ " amount is not positive")
    let rec loop (low : String) : Coins → Result (Option String)
      | [] => pure none
      | c :: more => do
        if let some f := Denom.fault? c.denom then return some f
        if c.denom < low then return some ("denomination " ++ c.denom ++ " is not sorted")
        if c.denom == low then return some ("duplicate denomination " ++ c.denom)
        if !(← c.isPositive) then return some ("coin " ++ c.denom ++ " amount is not positive")
        loop c.denom more
    loop first.denom rest

def isZero (cs : Coins) : Bool := cs.all fun c => c.amount.getD 0 == 0

def toJson (cs : Coins) : Json := .arr (cs.map Coin.toJson)

def decoder : Json.Decoder Coins := fun old j => do
  let r ← Json.list Coin.decoder Coin.blank "types.Coins" (some old) j
  pure (r.getD [])

end Coins

end Bonding
