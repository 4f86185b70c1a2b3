import Bonding.Number.Decimal
import Bonding.Number.Binary64

/-!
Conversions of amounts and decimals to doubles, as gauges and display values use them. A decimal
becomes the double nearest to its value; an amount is first divided by `10^precision` as a
decimal, with a precision of 0 to 18, and must be set and not negative.
-/

namespace Bonding

namespace Dec

def toBinary64 (d : Dec) : Binary64 :=
  (Binary64.ofRatio (d.units < 0) d.units.natAbs scale).getD Binary64.zero

end Dec

namespace Convert

def decimal : Option Dec → Result Binary64
  | some d => .ok d.toBinary64
  | none => .error (.error (some .amountNil) "amount is nil")

def amount (a : Option Int) (precision : Int) : Result Binary64 := do
  if precision < 0 ∨ precision > 18 then
    throw (.error (some .invalidPrecision)
      ("precision is invalid: " ++ Int256.render precision ++ " (must be between 0 and 18)"))
  let some a := a | throw (.error (some .amountNil) "amount is nil")
  if a < 0 then throw (.error (some .amountNegative) "amount is negative")
  let factor : Dec := ⟨Int.pow 10 precision.toNat * Dec.scale⟩
  decimal (some (← (Dec.ofInt a).quo factor))

end Convert

end Bonding
