import Bonding.Time.Instant
import Bonding.Number.Binary64

/-!
Duration literals: an optional sign and a sequence of decimal numbers, each with an optional
fraction and a unit, such as `300ms`, `-1.5h` or `2h45m`. The units are `ns`, `us` (also written
`µs` or `μs`), `ms`, `s`, `m` and `h`, and a lone `0` needs none. The magnitude must stay within
2^63 nanoseconds, and below it when positive. A fraction is worked out in double precision:
its digits and the ratio of its unit to its power of ten are each rounded to a double, their
product is rounded again, and the result is cut to whole nanoseconds.
-/

namespace Bonding

namespace DurationLiteral

def hexDigits : List Char := "0123456789abcdef".toList

/-- Text in double quotes for an error message: quotes and backslashes are escaped, and each
byte of a control or non-ASCII character is written `\xHH`. -/
def quote (s : String) : String :=
  let byteText (b : UInt8) : String :=
    "\\x" ++ String.ofList [hexDigits.getD (b.toNat / 16) '0', hexDigits.getD (b.toNat % 16) '0']
  let esc (c : Char) : String :=
    if c.toNat ≥ 0x80 || c.toNat < 0x20 then String.join ((String.singleton c).toUTF8.toList.map byteText)
    else if c == '"' || c == '\\' then "\\" ++ c.toString
    else c.toString
  "\"" ++ String.join (s.toList.map esc) ++ "\""

def unitNanos? : String → Option Nat
  | "ns" => some 1
  | "us" | "µs" | "μs" => some 1000
  | "ms" => some 1000000
  | "s" => some 1000000000
  | "m" => some 60000000000
  | "h" => some 3600000000000
  | _ => none

def bound : Nat := Nat.pow 2 63

/-- Reads leading digits; `none` when their value passes the bound. -/
def leadingInt : List Char → Nat → Option (Nat × List Char)
  | c :: rest, x =>
    if c.isDigit then
      if x > bound / 10 then none
      else
        let x := x * 10 + (c.toNat - '0'.toNat)
        if x > bound then none else leadingInt rest x
    else some (x, c :: rest)
  | [], x => some (x, [])

/-- Reads the digits of a fraction into a numerator and its power of ten, keeping the digits
that fit and skipping the rest. -/
def leadingFraction : List Char → Nat → Nat → Bool → Nat × Nat × List Char
  | c :: rest, x, scale, full =>
    if c.isDigit then
      if full then leadingFraction rest x scale true
      else if x > (bound - 1) / 10 then leadingFraction rest x scale true
      else
        let y := x * 10 + (c.toNat - '0'.toNat)
        if y > bound then leadingFraction rest x scale true
        else leadingFraction rest y (scale * 10) false
    else (x, scale, c :: rest)
  | [], x, scale, _ => (x, scale, [])

def exactRatio (x : Binary64) : Nat × Nat :=
  if x.q ≥ 0 then (x.m * Nat.pow 2 x.q.toNat, 1) else (x.m, Nat.pow 2 (-x.q).toNat)

/-- The nanoseconds that the fraction `f / scale` of a unit of `n` nanoseconds adds, in double
precision: the nearest double to `f` times the nearest double to `n / scale`, rounded to a
double and cut to a whole number. -/
def fractionNanos (f n scale : Nat) : Nat :=
  match Binary64.ofRatio false f 1, Binary64.ofRatio false n scale with
  | some x, some u =>
    let (a, b) := exactRatio x
    let (c, d) := exactRatio u
    match Binary64.ofRatio false (a * c) (b * d) with
    | some p => (exactRatio p).1 / (exactRatio p).2
    | none => 0
  | _, _ => 0

def numberChar (c : Char) : Bool := c == '.' || c.isDigit

/-- Reads the terms of a literal and adds their nanoseconds to `total`; `fuel` bounds the terms,
each of which takes at least one character. -/
def terms (orig : String) : Nat → List Char → Nat → Except String Nat
  | 0, _, total => .ok total
  | _, [], total => .ok total
  | fuel + 1, c :: cs, total => do
    let invalid := "time: invalid duration " ++ quote orig
    if !numberChar c then throw invalid
    let some (v, rest) := leadingInt (c :: cs) 0 | throw invalid
    let pre := rest.length != cs.length + 1
    let (f, scale, rest, post) := match rest with
      | '.' :: r =>
        let (f, scale, r') := leadingFraction r 0 1 false
        (f, scale, r', r'.length != r.length)
      | r => (0, 1, r, false)
    if !pre && !post then throw invalid
    let unit := rest.takeWhile (!numberChar ·)
    let rest := rest.dropWhile (!numberChar ·)
    if unit.isEmpty then throw ("time: missing unit in duration " ++ quote orig)
    let some n := unitNanos? (String.ofList unit)
      | throw ("time: unknown unit " ++ quote (String.ofList unit) ++ " in duration " ++ quote orig)
    if v > bound / n then throw invalid
    let v := v * n + (if f > 0 then fractionNanos f n scale else 0)
    if v > bound then throw invalid
    let total := total + v
    if total > bound then throw invalid
    terms orig fuel rest total

/-- Reads a duration literal. -/
def parse (orig : String) : Except String Duration := do
  let (neg, cs) := match orig.toList with
    | '-' :: r => (true, r)
    | '+' :: r => (false, r)
    | r => (false, r)
  if cs == ['0'] then return 0
  if cs.isEmpty then throw ("time: invalid duration " ++ quote orig)
  let total ← terms orig (cs.length + 1) cs 0
  if neg then return -(total : Int)
  if total > bound - 1 then throw ("time: invalid duration " ++ quote orig)
  return total

end DurationLiteral

end Bonding
