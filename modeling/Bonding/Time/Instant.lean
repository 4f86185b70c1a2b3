/-!
Instants on the proleptic Gregorian calendar, as whole seconds since 1970-01-01 UTC and a count of
nanoseconds, shown on a clock a fixed number of seconds east of UTC. Durations are signed 64-bit
nanosecond counts: building one from a number of seconds wraps modulo 2^64, and so does negating
one. Instants are written in RFC 3339 with four-digit years (a minus sign and more digits outside
years 0 to 9999) and the zone of their clock, `Z` for UTC. Moving an instant keeps its clock;
order and the unset test look at the instant alone.
-/

namespace Bonding

/-- A point in time: seconds since the Unix epoch, the nanoseconds within that second, and the
offset east of UTC, in seconds, of the clock it is shown on. -/
structure Instant where
  unix : Int
  nanos : Nat
  offset : Int
  deriving Repr, DecidableEq, Inhabited

abbrev Duration := Int

namespace Duration

def wrap (ns : Int) : Duration := Int.bmod ns (Nat.pow 2 64)

def ofSeconds (n : Nat) : Duration := wrap ((n : Int) * 1000000000)

def neg (d : Duration) : Duration := wrap (-d)

end Duration

def signedWord (n : Nat) : Int := Int.bmod n (Nat.pow 2 64)

def wordMod (n : Int) : Nat := (n % Int.pow 2 64).toNat

namespace Instant

def second : Nat := 1000000000

/-- Days from 1970-01-01 to a civil date, counted in eras of 400 years; division by a positive
number rounds down, so years before 0 need no case of their own. -/
def daysFromCivil (y : Int) (m d : Nat) : Int :=
  let y := if m ≤ 2 then y - 1 else y
  let era := y / 400
  let yoe := y - era * 400
  let mp : Int := if m > 2 then (m : Int) - 3 else (m : Int) + 9
  let doy := (153 * mp + 2) / 5 + (d : Int) - 1
  let doe := yoe * 365 + yoe / 4 - yoe / 100 + doy
  era * 146097 + doe - 719468

/-- The civil date of a day count since 1970-01-01, the inverse of `daysFromCivil`. -/
def civilFromDays (z : Int) : Int × Nat × Nat :=
  let z := z + 719468
  let era := z / 146097
  let doe := z - era * 146097
  let yoe := (doe - doe / 1460 + doe / 36524 - doe / 146096) / 365
  let y := yoe + era * 400
  let doy := doe - (365 * yoe + yoe / 4 - yoe / 100)
  let mp := (5 * doy + 2) / 153
  let d := doy - (153 * mp + 2) / 5 + 1
  let m := if mp < 10 then mp + 3 else mp - 9
  ((if m ≤ 2 then y + 1 else y), m.toNat, d.toNat)

def isLeap (y : Int) : Bool := (y % 4 == 0 && y % 100 != 0) || y % 400 == 0

def daysIn (m : Nat) (y : Int) : Nat :=
  match m with
  | 2 => if isLeap y then 29 else 28
  | 4 | 6 | 9 | 11 => 30
  | _ => 31

def ofCivil (y : Int) (mo d h mi s nanos : Nat) : Instant :=
  ⟨daysFromCivil y mo d * 86400 + h * 3600 + mi * 60 + s, nanos, 0⟩

def utc (t : Instant) : Instant := { t with offset := 0 }

def unset : Instant := ofCivil 1 1 1 0 0 0 0

def isUnset (t : Instant) : Bool := t.unix == unset.unix && t.nanos == unset.nanos

def add (t : Instant) (d : Duration) : Instant :=
  let total : Int := t.nanos + d
  { t with unix := t.unix + total / (second : Int), nanos := (total % (second : Int)).toNat }

def addSeconds (t : Instant) (s : Int) : Instant := { t with unix := t.unix + s }

/-- The instant moved by whole seconds on a clock that counts them in a signed 64-bit word, which
wraps. -/
def shiftSeconds (t : Instant) (s : Int) : Instant := { t with unix := Int.bmod (t.unix + s) (Nat.pow 2 64) }

def truncate (t : Instant) : Instant := { t with nanos := 0 }

def before (a b : Instant) : Bool := a.unix < b.unix || (a.unix == b.unix && a.nanos < b.nanos)

def elapsed (a b : Instant) : Nat := if before a b then wordMod (b.unix - a.unix) else 0

/-- Seconds from the far epoch of the calendar, 1 March of the year -292277022400, to the Unix
epoch. -/
def farEpochOffset : Int := (730692556 * 146097 + 306) * 86400 + 62135596800

/-- The civil fields of an instant on its clock: year, month, day, hour, minute, second. The
fields are counted in an unsigned 64-bit word of seconds since the far epoch, so a time before
that epoch is shown 2^64 seconds later. -/
def civil (t : Instant) : Int × Nat × Nat × Nat × Nat × Nat :=
  let shown := (t.unix + t.offset + farEpochOffset) % Int.pow 2 64 - farEpochOffset
  let days := shown / 86400
  let secs := (shown % 86400).toNat
  let (y, m, d) := civilFromDays days
  (y, m, d, secs / 3600, secs / 60 % 60, secs % 60)

def year (t : Instant) : Int := (civil t).1

/-- The offset of the clock in whole minutes, and whether it lies west of UTC; a part of a minute
is dropped towards zero. -/
def zoneMinutes (t : Instant) : Nat × Bool := ((Int.tdiv t.offset 60).natAbs, Int.tdiv t.offset 60 < 0)

/-- Why an instant cannot be written as a JSON time: a year outside 0 to 9999 on its clock, or a
clock whose offset reaches 24 hours. -/
def jsonFault? (t : Instant) : Option String :=
  if !(0 ≤ t.year && t.year ≤ 9999) then some "year outside of range [0,9999]"
  else if t.offset != 0 && (zoneMinutes t).1 / 60 ≥ 24 then some "timezone hour outside of range [0,23]"
  else none

def marshalFault (reason : String) : String :=
  "json: error calling MarshalJSON for type *time.Time: " ++ reason

def inJsonRange (t : Instant) : Bool := (jsonFault? t).isNone

def pad (w n : Nat) : String :=
  let s := toString n
  String.ofList (List.replicate (w - s.length) '0') ++ s

def yearText (y : Int) : String :=
  if y < 0 then "-" ++ pad 4 y.natAbs else pad 4 y.natAbs

def stamp (t : Instant) : String :=
  let (y, m, d, h, mi, s) := civil t
  yearText y ++ "-" ++ pad 2 m ++ "-" ++ pad 2 d ++ "T" ++ pad 2 h ++ ":" ++ pad 2 mi ++ ":" ++ pad 2 s

def fraction (nanos : Nat) : String :=
  if nanos = 0 then ""
  else
    let ds := (pad 9 nanos).toList
    "." ++ String.ofList (ds.reverse.dropWhile (· == '0')).reverse

def zoneText (t : Instant) : String :=
  if t.offset == 0 then "Z"
  else
    let (m, west) := zoneMinutes t
    (if west then "-" else "+") ++ pad 2 (m / 60) ++ ":" ++ pad 2 (m % 60)

def rfc3339 (t : Instant) : String := stamp t ++ zoneText t

def rfc3339Nano (t : Instant) : String := stamp t ++ fraction t.nanos ++ zoneText t

def spaced (t : Instant) : String :=
  let (y, m, d, h, mi, s) := civil t
  yearText y ++ "-" ++ pad 2 m ++ "-" ++ pad 2 d ++ " " ++ pad 2 h ++ ":" ++ pad 2 mi ++ ":" ++ pad 2 s

end Instant

end Bonding
