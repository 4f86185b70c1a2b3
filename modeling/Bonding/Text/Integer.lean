/-!
Decimal integers in text: an optional sign and at least one digit, with nothing before or
after; most readers also ask that the value fit in a signed word of 64 bits.
-/

namespace Bonding

def readInt? (s : String) : Option Int :=
  let (negative, digits) := match s.toList with
    | '-' :: r => (true, r)
    | '+' :: r => (false, r)
    | r => (false, r)
  if digits.isEmpty || !digits.all Char.isDigit then none else
  let n : Nat := digits.foldl (fun acc c => acc * 10 + (c.toNat - 48)) 0
  some (if negative then -(n : Int) else n)

def fitsInt64 (i : Int) : Bool := -(Int.pow 2 63) ≤ i && i < Int.pow 2 63

def readInt64? (s : String) : Option Int :=
  (readInt? s).filter fitsInt64

end Bonding
