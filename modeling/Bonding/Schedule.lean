import Bonding.Time.DurationLiteral
import Bonding.Time.Zone
import Bonding.Text.Quoted
import Bonding.Fault

/-!
Task schedules in the standard five-field form `minute hour day-of-month month weekday`, or as a
descriptor: `@yearly`, `@monthly`, `@weekly`, `@daily`, `@hourly` (and their other names) or
`@every <duration>`. A field is a comma-separated list of ranges `a`, `a-b`, `*` or `?`, each with
an optional step `/n`; months and weekdays may be named by their first three letters. A spec may
start with `TZ=<zone> ` or `CRON_TZ=<zone> `. Reading a spec checks it and gives the allowed
values of each field, the seconds being always zero.
-/

namespace Bonding

/-- When a task runs. -/
inductive Schedule where
  /-- at the times whose second, minute, hour, day of month, month and weekday are allowed -/
  | calendar (seconds minutes hours days months weekdays : List Nat)
  /-- at a fixed period -/
  | every (period : Duration)
  deriving Repr, Inhabited

namespace Schedule

/-- The values a field may take and the names it accepts. -/
structure Bounds where
  least : Nat
  most : Nat
  names : List (String × Nat)
  deriving Repr, Inhabited

def secondBounds : Bounds := ⟨0, 59, []⟩

def minuteBounds : Bounds := ⟨0, 59, []⟩

def hourBounds : Bounds := ⟨0, 23, []⟩

def dayBounds : Bounds := ⟨1, 31, []⟩

def monthBounds : Bounds := ⟨1, 12, [("jan", 1), ("feb", 2), ("mar", 3), ("apr", 4), ("may", 5),
  ("jun", 6), ("jul", 7), ("aug", 8), ("sep", 9), ("oct", 10), ("nov", 11), ("dec", 12)]⟩

def weekdayBounds : Bounds := ⟨0, 6, [("sun", 0), ("mon", 1), ("tue", 2), ("wed", 3), ("thu", 4),
  ("fri", 5), ("sat", 6)]⟩

def intBound : Nat := Nat.pow 2 63

/-- Reads a decimal machine integer with an optional sign, with the error of the standard
reader: a character that is not a digit is a syntax error, unless the digits before it already
passed 64 bits, which is a range error, as is a value outside 64 signed bits. -/
def readInt (s : String) : Except String Int :=
  let syntaxError := "strconv.Atoi: parsing " ++ quoteLiteral s ++ ": invalid syntax"
  let rangeError := "strconv.Atoi: parsing " ++ quoteLiteral s ++ ": value out of range"
  let (neg, ds) := match s.toList with
    | '-' :: r => (true, r)
    | '+' :: r => (false, r)
    | r => (false, r)
  if ds.isEmpty then .error syntaxError else
  let scan := ds.foldl (fun (acc : Option (Except Unit Nat)) c =>
    match acc with
    | some (.ok n) =>
      if !c.isDigit then some (.error ())
      else
        let n := n * 10 + (c.toNat - '0'.toNat)
        if n ≥ Nat.pow 2 64 then none else some (.ok n)
    | other => other) (some (.ok 0))
  match scan with
  | none => .error rangeError
  | some (.error ()) => .error syntaxError
  | some (.ok n) =>
    if neg then (if n > intBound then .error rangeError else .ok (-(n : Int)))
    else if n ≥ intBound then .error rangeError else .ok n

def readNumber (expr : String) : Except String Nat := do
  let n ← (readInt expr).mapError fun e => "failed to parse int from " ++ expr ++ ": " ++ e
  if n < 0 then throw ("negative number (" ++ toString n ++ ") not allowed: " ++ expr)
  return n.toNat

/-- A character in lower case, as far as lower case can reach ASCII: the ASCII capitals, the
capital I with a dot above (whose lower case is `i`) and the Kelvin sign (whose lower case is
`k`). No other character has an ASCII lower case, so a text lowered this way equals an ASCII
name exactly when its full lower case does. -/
def lowerTowardAscii (c : Char) : Char :=
  if 'A' ≤ c && c ≤ 'Z' then Char.ofNat (c.toNat + 32)
  else if c.toNat == 0x130 then 'i'
  else if c.toNat == 0x212A then 'k'
  else c

def readValue (b : Bounds) (expr : String) : Except String Nat :=
  match b.names.find? (·.1 == expr.map lowerTowardAscii) with
  | some (_, v) => .ok v
  | none => readNumber expr

def stepped (start stop step : Nat) : List Nat :=
  ((List.range (stop + 1 - start)).filter (· % step == 0)).map (start + ·)

/-- The values a range allows: `a`, `a-b`, `*` or `?` with an optional step; `a/n` runs to the
largest value. -/
def readRange (b : Bounds) (expr : String) : Except String (List Nat) := do
  let rangeAndStep := expr.splitOn "/"
  let lowAndHigh := (rangeAndStep.headD "").splitOn "-"
  let single := lowAndHigh.length == 1
  let low := lowAndHigh.headD ""
  let (start, stop) ← if low == "*" || low == "?" then pure (b.least, b.most) else do
    let start ← readValue b low
    match lowAndHigh with
    | [_] => pure (start, start)
    | [_, high] => pure (start, ← readValue b high)
    | _ => throw ("too many hyphens: " ++ expr)
  let (stop, step) ← match rangeAndStep with
    | [_] => pure (stop, 1)
    | [_, s] => do
      let step ← readNumber s
      pure (if single then b.most else stop, step)
    | _ => throw ("too many slashes: " ++ expr)
  if start < b.least then
    throw ("beginning of range (" ++ toString start ++ ") below minimum (" ++ toString b.least ++ "): " ++ expr)
  if stop > b.most then
    throw ("end of range (" ++ toString stop ++ ") above maximum (" ++ toString b.most ++ "): " ++ expr)
  if start > stop then
    throw ("beginning of range (" ++ toString start ++ ") beyond end of range (" ++ toString stop ++ "): " ++ expr)
  if step == 0 then throw ("step of range should be a positive number: " ++ expr)
  return stepped start stop step

def readField (b : Bounds) (field : String) : Except String (List Nat) := do
  let ranges := (field.splitOn ",").filter (!·.isEmpty)
  let sets ← ranges.mapM (readRange b)
  return (sets.flatten.mergeSort (· ≤ ·)).eraseDups

def isSpace (c : Char) : Bool :=
  let n := c.toNat
  (9 ≤ n && n ≤ 13) || n == 32 || n == 0x85 || n == 0xA0 || n == 0x1680 || (0x2000 ≤ n && n ≤ 0x200A) ||
    n == 0x2028 || n == 0x2029 || n == 0x202F || n == 0x205F || n == 0x3000

def trimSpaces (s : String) : String :=
  String.ofList ((s.toList.dropWhile isSpace).reverse.dropWhile isSpace).reverse

def fields (spec : String) : List String :=
  (spec.split isSpace).toList.map (·.toString) |>.filter (!·.isEmpty)

def ofFields (minute hour day month weekday : String) : Except String Schedule := do
  let seconds ← readField secondBounds "0"
  let minutes ← readField minuteBounds minute
  let hours ← readField hourBounds hour
  let days ← readField dayBounds day
  let months ← readField monthBounds month
  let weekdays ← readField weekdayBounds weekday
  return .calendar seconds minutes hours days months weekdays

/-- The schedule of a descriptor. -/
def ofDescriptor (d : String) : Except String Schedule :=
  match d with
  | "@yearly" | "@annually" => ofFields "0" "0" "1" "1" "*"
  | "@monthly" => ofFields "0" "0" "1" "*" "*"
  | "@weekly" => ofFields "0" "0" "*" "*" "0"
  | "@daily" | "@midnight" => ofFields "0" "0" "*" "*" "*"
  | "@hourly" => ofFields "0" "*" "*" "*" "*"
  | _ =>
    if d.startsWith "@every " then
      match DurationLiteral.parse (d.drop 7).toString with
      | .ok p => .ok (.every p)
      | .error e => .error ("failed to parse duration " ++ d ++ ": " ++ e)
    else .error ("unrecognized descriptor: " ++ d)

/-- Reads a spec. A zone prefix with no space after it fails as slicing before the start of a
text does, with a panic. -/
def parse (spec : String) : Result Schedule := do
  if spec.isEmpty then throw (.plain "empty spec string")
  let spec ← if spec.startsWith "TZ=" || spec.startsWith "CRON_TZ=" then
      match spec.splitOn " " with
      | head :: _ :: _ =>
        let zone := (head.splitOn "=").drop 1 |> "=".intercalate
        match Zone.check zone with
        | .ok () => pure (trimSpaces (spec.drop head.length).toString)
        | .error e => throw (.plain ("provided bad location " ++ zone ++ ": " ++ e.message))
      | _ => throw (.panic "runtime error: slice bounds out of range [:-1]")
    else pure spec
  let r := if spec.startsWith "@" then ofDescriptor spec
    else match fields spec with
      | [minute, hour, day, month, weekday] => ofFields minute hour day month weekday
      | fs => .error ("expected exactly 5 fields, found " ++ toString fs.length ++ ": [" ++ " ".intercalate fs ++ "]")
  r.mapError Fault.plain

end Schedule

end Bonding
