/-!
Binary64 floating-point values as the protocol produces them: the nearest value to a rational
(ties to the even significand) and its shortest decimal text. A finite non-negative value is
`m * 2^q`; the text uses the fewest significant digits that read back to the same value, the
nearer of two candidates, and an exact tie goes to the even digit. A layout record then decides
where positional notation ends and how the exponent is written.
-/

namespace Bonding

/-- A finite binary64 value: sign, significand and exponent, value `m * 2^q`. -/
structure Binary64 where
  negative : Bool
  m : Nat
  q : Int
  deriving Repr, DecidableEq, Inhabited

namespace Binary64

def precision : Nat := 53

def minExp : Int := -1074

def maxExp : Int := 971

def zero : Binary64 := ⟨false, 0, minExp⟩

def cmpPow2 (a : Nat) (i : Int) (b : Nat) (j : Int) : Ordering :=
  let k := min i j
  compare (a * Nat.pow 2 (i - k).toNat) (b * Nat.pow 2 (j - k).toNat)

def roundScaled (n d : Nat) (e : Int) : Nat :=
  let num := n * Nat.pow 2 (-e).toNat
  let den := d * Nat.pow 2 e.toNat
  let q := num / den
  let r := num % den
  if 2 * r < den then q
  else if 2 * r > den then q + 1
  else if q % 2 == 0 then q else q + 1

def log2Ratio (n d : Nat) : Int :=
  let k : Int := (Nat.log2 n : Int) - Nat.log2 d
  -- 2^k ≤ n/d holds for the estimate or for one less
  if cmpPow2 d k n 0 == .gt then k - 1 else k

def ofRatio (negative : Bool) (n d : Nat) : Option Binary64 :=
  if n = 0 ∨ d = 0 then some { zero with negative }
  else
    let e := max (log2Ratio n d - 52) minExp
    let m := roundScaled n d e
    let (m, e) := if m = Nat.pow 2 precision then (Nat.pow 2 52, e + 1) else (m, e)
    if e > maxExp then none else some ⟨negative, m, e⟩

def ofInt (i : Int) : Option Binary64 := ofRatio (i < 0) i.natAbs 1

def narrowBelow (x : Binary64) : Bool := x.m == Nat.pow 2 52 && x.q > minExp

def cmpScaled (a : Nat) (i : Int) (n : Nat) (j : Int) : Ordering :=
  compare (a * Nat.pow 10 i.toNat * Nat.pow 2 (-j).toNat) (n * Nat.pow 2 j.toNat * Nat.pow 10 (-i).toNat)

def readsBack (x : Binary64) (digits : Nat) (exp : Int) : Bool :=
  let lo := if x.narrowBelow then 4 * x.m - 1 else 4 * x.m - 2
  let hi := 4 * x.m + 2
  let incl := x.m % 2 == 0
  let cl := cmpScaled digits exp lo (x.q - 2)
  let ch := cmpScaled digits exp hi (x.q - 2)
  (cl == .gt || (incl && cl == .eq)) && (ch == .lt || (incl && ch == .eq))

def decimalScale (x : Binary64) : Int :=
  -- log10 2 is just above 0.30103; the estimate is corrected by exact comparisons
  let bits : Int := (Nat.log2 x.m : Int) + x.q
  let est : Int := (bits * 30103) / 100000
  let candidates := (List.range 6).map fun (i : Nat) => est - 2 + (i : Int)
  (candidates.find? fun k => cmpScaled 1 k x.m x.q == .gt).getD (est + 4)

def strip (digits : Nat) (exp : Int) : Nat × Int :=
  let rec loop (fuel : Nat) (d : Nat) (e : Int) : Nat × Int :=
    match fuel with
    | 0 => (d, e)
    | fuel + 1 => if d > 0 && d % 10 == 0 then loop fuel (d / 10) (e + 1) else (d, e)
  loop 20 digits exp

/-- The candidate on the grid `10^g` that reads back, the nearer one when both do. -/
def pickOnGrid (x : Binary64) (g : Int) : Option Nat :=
  -- c = floor(value / 10^g)
  let num := x.m * Nat.pow 2 x.q.toNat * Nat.pow 10 (-g).toNat
  let den := Nat.pow 2 (-x.q).toNat * Nat.pow 10 g.toNat
  let c := num / den
  let lowOk := readsBack x c g
  let highOk := readsBack x (c + 1) g
  if lowOk && highOk then
    -- compare value - c·10^g with (c+1)·10^g - value, i.e. 2·value with (2c+1)·10^g
    match compare (2 * num) ((2 * c + 1) * den) with
    | .lt => some c
    | .gt => some (c + 1)
    | .eq => some (if c % 2 == 0 then c else c + 1)
  else if lowOk then some c
  else if highOk then some (c + 1)
  else none

/-- The shortest decimal `digits * 10^exp` that reads back to the magnitude of `x`. -/
def shortest (x : Binary64) : Nat × Int :=
  if x.m = 0 then (0, 0)
  else
    let k := decimalScale x
    let found := (List.range 17).findSome? fun i =>
      let g := k - (i + 1 : Nat)
      (pickOnGrid x g).map fun d => (d, g)
    match found with
    | some (d, g) => strip d g
    | none =>
      -- the exact value, m * 2^q written in decimal
      if x.q ≥ 0 then strip (x.m * Nat.pow 2 x.q.toNat) 0
      else strip (x.m * Nat.pow 5 (-x.q).toNat) x.q

/-- Where positional notation is used and how an exponent is written. -/
structure Layout where
  /-- the least exponent of the leading digit written positionally -/
  plainFrom : Int
  /-- the first exponent of the leading digit written with an exponent -/
  plainBelow : Int
  /-- the least number of exponent digits -/
  expWidth : Nat
  deriving Repr

/-- The text of the digits of a decimal laid out by `layout`, sign included. -/
def render (layout : Layout) (x : Binary64) : String :=
  let sign := if x.negative then "-" else ""
  if x.m = 0 then sign ++ "0"
  else
    let (d, exp) := shortest x
    let ds := toString d
    let len := ds.length
    let lead : Int := exp + len - 1
    let body :=
      if layout.plainFrom ≤ lead ∧ lead < layout.plainBelow then
        if exp ≥ 0 then ds ++ String.ofList (List.replicate exp.toNat '0')
        else if lead ≥ 0 then
          String.ofList (ds.toList.take (lead.toNat + 1)) ++ "." ++
            String.ofList (ds.toList.drop (lead.toNat + 1))
        else "0." ++ String.ofList (List.replicate ((-lead).toNat - 1) '0') ++ ds
      else
        let mant := match ds.toList with
          | c :: rest => if rest.isEmpty then c.toString else c.toString ++ "." ++ String.ofList rest
          | [] => "0"
        let e := toString lead.natAbs
        let e := String.ofList (List.replicate (layout.expWidth - e.length) '0') ++ e
        mant ++ "e" ++ (if lead < 0 then "-" else "+") ++ e
    sign ++ body

/-- The IEEE 754 encoding of a value as a number below 2^64: the sign bit, eleven bits of biased
exponent and fifty-two bits of fraction; zero and the subnormal values have a zero exponent. -/
def bits (x : Binary64) : Nat :=
  let sign := if x.negative then Nat.pow 2 63 else 0
  if x.m < Nat.pow 2 52 then sign + x.m
  else sign + (x.q + 1075).toNat * Nat.pow 2 52 + (x.m - Nat.pow 2 52)

def jsonLayout : Layout := ⟨-6, 21, 1⟩

def generalLayout : Layout := ⟨-4, 6, 2⟩

def toJsonText (x : Binary64) : String := render jsonLayout x

/-- Reads decimal number text (JSON grammar) into the nearest value; `none` beyond the finite
range. An exponent stops growing once it passes 10000, which already takes every value with
fewer digits than that far beyond the finite range or to zero. -/
def ofDecimalText? (text : String) : Option Binary64 :=
  let cs := text.toList
  let (neg, cs) := match cs with
    | '-' :: r => (true, r)
    | r => (false, r)
  let mantissa := cs.takeWhile fun c => c != 'e' && c != 'E'
  let expPart := (cs.dropWhile fun c => c != 'e' && c != 'E').drop 1
  let intDigits := mantissa.takeWhile (· != '.')
  let fracDigits := (mantissa.dropWhile (· != '.')).drop 1
  let digitsVal := (intDigits ++ fracDigits).foldl (fun acc c => acc * 10 + (c.toNat - '0'.toNat)) 0
  let (eneg, edigits) := match expPart with
    | '-' :: r => (true, r)
    | '+' :: r => (false, r)
    | r => (false, r)
  let eval : Int := edigits.foldl
    (fun acc c => if acc < 10000 then acc * 10 + (c.toNat - '0'.toNat) else acc) 0
  let e : Int := (if eneg then -eval else eval) - fracDigits.length
  -- the place of the leading digit: at or past 10^310 every value overflows, and below
  -- 10^-330 every value rounds to zero
  let lead : Int := e + (toString digitsVal).length
  if digitsVal = 0 then some { zero with negative := neg }
  else if lead > 310 then none
  else if lead < -330 then some { zero with negative := neg }
  else if e ≥ 0 then ofRatio neg (digitsVal * Nat.pow 10 e.toNat) 1
  else ofRatio neg digitsVal (Nat.pow 10 (-e).toNat)

end Binary64

end Bonding
