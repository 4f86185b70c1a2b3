import Bonding.Number.Int256

/-!
Decimals with eighteen fractional digits, held as an integer count of 10^-18 units. Products and
quotients are cut back to eighteen digits: `mul` and `quo` round to nearest with an exact half
going to the even neighbour, `quoTruncate` drops the excess digits. A result of size 2^256 or more
panics with `Int overflow`, and reading refuses such a decimal. The text form always shows eighteen fractional
digits.
-/

namespace Bonding

/-- A decimal of eighteen fractional digits: the value is `units / 10^18`. -/
structure Dec where
  units : Int
  deriving Repr, DecidableEq, Inhabited

namespace Dec

def places : Nat := 18

def scale : Nat := Nat.pow 10 18

def limit : Nat := Nat.pow 2 256 * scale

instance : LT Dec := ⟨fun a b => a.units < b.units⟩
instance : LE Dec := ⟨fun a b => a.units ≤ b.units⟩
instance (a b : Dec) : Decidable (a < b) := inferInstanceAs (Decidable (a.units < b.units))
instance (a b : Dec) : Decidable (a ≤ b) := inferInstanceAs (Decidable (a.units ≤ b.units))

def zero : Dec := ⟨0⟩

def one : Dec := ⟨scale⟩

def ofInt (i : Int) : Dec := ⟨i * scale⟩

def ofScaled (n : Int) (k : Nat) : Dec := ⟨n * Int.pow 10 (places - k)⟩

def overflow : Fault := .panic "Int overflow"

def checked (units : Int) : Result Dec :=
  if units.natAbs < limit then .ok ⟨units⟩ else .error overflow

def roundNat (n : Nat) : Nat :=
  let q := n / scale
  let r := n % scale
  if 2 * r < scale then q
  else if 2 * r > scale then q + 1
  else if q % 2 == 0 then q else q + 1

def roundUnits (x : Int) : Int :=
  if x < 0 then -((roundNat x.natAbs : Nat) : Int) else (roundNat x.natAbs : Int)

def add (a b : Dec) : Result Dec := checked (a.units + b.units)

def sub (a b : Dec) : Result Dec := checked (a.units - b.units)

def mul (a b : Dec) : Result Dec := checked (roundUnits (a.units * b.units))

def quo (a b : Dec) : Result Dec :=
  if b.units = 0 then .error (.panic "division by zero")
  else checked (roundUnits ((a.units * scale * scale).tdiv b.units))

def quoTruncate (a b : Dec) : Result Dec :=
  if b.units = 0 then .error (.panic "division by zero")
  else checked ((a.units * scale).tdiv b.units)

def truncate (d : Dec) : Int := d.units.tdiv scale

def isPositive (d : Dec) : Bool := d.units > 0

def isNegative (d : Dec) : Bool := d.units < 0

def isZero (d : Dec) : Bool := d.units == 0

def render (d : Dec) : String :=
  let digits := toString d.units.natAbs
  let padded := if digits.length ≤ places then
      String.ofList (List.replicate (places + 1 - digits.length) '0') ++ digits
    else digits
  let cut := padded.length - places
  let body := String.ofList (padded.toList.take cut) ++ "." ++ String.ofList (padded.toList.drop cut)
  if d.units < 0 then "-" ++ body else body

/-- Why a decimal text cannot be read. -/
inductive ReadFault where
  | empty
  | badLength
  | badForm
  | tooPrecise (text : String) (excess : Int)
  | badDigits (digits : String)
  | beyondLimit
  deriving Repr, DecidableEq

def ReadFault.message : ReadFault → String
  | .empty => "decimal string cannot be empty"
  | .badLength => "invalid decimal length"
  | .badForm => "invalid decimal string"
  | .tooPrecise t e => s!"value '{t}' exceeds max precision by {Int256.render e} decimal places: max precision 18"
  | .badDigits d => s!"failed to set decimal string with base 10: {d}"
  | .beyondLimit => "out of range: invalid decimal string"

/-- Reads a decimal: an optional minus, digits, and optionally a point with one to eighteen digits.
After the minus, the digits are read as a base-10 integer literal, which may itself carry a sign.
The length of the fraction is counted in bytes of its UTF-8 form. -/
def read (text : String) : Except ReadFault Dec := do
  let (neg, str) := match text.toList with
    | '-' :: r => (true, String.ofList r)
    | _ => (false, text)
  if str.isEmpty then throw .empty
  let parts := str.splitOn "."
  let (combined, fracLen) ← match parts with
    | [w] => pure (w, 0)
    | [w, f] =>
      if f.isEmpty || w.isEmpty then throw .badLength
      else pure (w ++ f, f.utf8ByteSize)
    | _ => throw .badForm
  if fracLen > places then throw (.tooPrecise str ((places : Int) - fracLen))
  let digits := combined ++ String.ofList (List.replicate (places - fracLen) '0')
  match Int256.readLiteral digits 10 with
  | none => throw (.badDigits digits)
  | some v =>
    if v.natAbs ≥ limit then throw .beyondLimit
    else pure ⟨if neg then -v else v⟩

end Dec

end Bonding
