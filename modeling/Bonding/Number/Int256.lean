import Bonding.Fault

/-!
Integer amounts of at most 256 bits. Every result of `add`, `sub` and `mul` is checked against
that range and a wider one panics with `integer overflow`. Amounts are written in decimal and read
with the literal rules of arbitrary-precision integers: a sign, an optional base prefix (`0x`,
`0o`, `0b`, or a leading `0` for octal) and underscores between digits.
-/

namespace Bonding.Int256

def limit : Nat := Nat.pow 2 256

def fits (x : Int) : Bool := x.natAbs < limit

def overflow : Fault := .panic "integer overflow"

def checked (x : Int) : Result Int := if fits x then .ok x else .error overflow

def add (a b : Int) : Result Int := checked (a + b)

def sub (a b : Int) : Result Int := checked (a - b)

def mul (a b : Int) : Result Int := checked (a * b)

def quo (a b : Int) : Result Int :=
  if b = 0 then .error (.panic "Division by zero") else .ok (a.tdiv b)

def render (x : Int) : String := if x < 0 then "-" ++ toString x.natAbs else toString x.natAbs

def digitValue (c : Char) : Nat :=
  if '0' ≤ c ∧ c ≤ '9' then c.toNat - '0'.toNat
  else if 'a' ≤ c ∧ c ≤ 'z' then c.toNat - 'a'.toNat + 10
  else if 'A' ≤ c ∧ c ≤ 'Z' then c.toNat - 'A'.toNat + 10
  else 99

/-- Reads digits of `base`, with underscores allowed between digits when `seps` is set.
`prevDigit` says whether the last character read was a digit (a base prefix counts as one).
Returns the value, the digit count, whether a separator was misplaced, and the unread rest. -/
def readDigits (base : Nat) (seps : Bool) : Bool → Nat → Nat → Bool → List Char →
    Nat × Nat × Bool × Bool × List Char
  | prevDigit, acc, count, bad, [] => (acc, count, bad, prevDigit, [])
  | prevDigit, acc, count, bad, c :: rest =>
    if c == '_' && seps then
      readDigits base seps false acc count (bad || !prevDigit) rest
    else
      let d := digitValue c
      if d < base then readDigits base seps true (acc * base + d) (count + 1) bad rest
      else (acc, count, bad, prevDigit, c :: rest)

/-- Reads an integer literal in the given base, where base 0 means the base comes from the prefix.
The whole text must be consumed. -/
def readLiteral (text : String) (base : Nat) : Option Int :=
  let cs := text.toList
  let (neg, body) := match cs with
    | '-' :: r => (true, r)
    | '+' :: r => (false, r)
    | r => (false, r)
  if body.isEmpty then none
  else
    -- the base, whether a bare leading zero was read as the octal prefix, digits already counted,
    -- and whether the last character read counts as a digit
    let (b, octalZero, counted, prevDigit, digits) : Nat × Bool × Nat × Bool × List Char :=
      if base != 0 then (base, false, 0, false, body)
      else match body with
        | '0' :: 'x' :: r | '0' :: 'X' :: r => (16, false, 0, true, r)
        | '0' :: 'b' :: r | '0' :: 'B' :: r => (2, false, 0, true, r)
        | '0' :: 'o' :: r | '0' :: 'O' :: r => (8, false, 0, true, r)
        | '0' :: [] => (10, false, 1, true, [])
        | '0' :: r => (8, true, 0, true, r)
        | r => (10, false, 0, false, r)
    let (value, count, badSep, lastDigit, rest) := readDigits b (base == 0) prevDigit 0 counted false digits
    let sepFault := badSep || !lastDigit
    if count == 0 && !octalZero then none
    else if sepFault then none
    else if !rest.isEmpty then none
    else some (if neg then -(value : Int) else value)

def ofText? (text : String) : Option Int :=
  match readLiteral text 0 with
  | some x => if fits x then some x else none
  | none => none

end Bonding.Int256
