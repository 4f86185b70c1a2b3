import Bonding.Time.Instant

/-!
YAML timestamps. A timestamp is a date `YYYY-M-D`, with a month and day of one or two digits. It
stands alone or is followed by a time of day `h:m:s`, each field of one or two digits, with an
optional fraction of a second. A time after `T` or `t` ends with a zone, `Z` or `±hh:mm`. A time
after spaces has no zone and is UTC. A fraction follows `.` or `,` and takes every digit, of
which the first nine count. Hours stay below 24 and minutes and seconds below 60, and the day
stays within its month. A zone may reach 24 hours and 60 minutes.

A timestamp remembers the clock it was written on. `Z` and a missing zone mean UTC, an offset of
zero written in digits means the local clock (which runs on UTC), and any other offset gets a
clock of its own. Two timestamps are the same key only when they are the same instant on the same
shared clock: a clock of its own is shared with nothing.
-/

namespace Bonding.Yaml

/-- The clock a timestamp is shown on. -/
inductive Clock where
  /-- UTC, named by `Z` or by writing no zone -/
  | utc
  /-- the local clock, named by a zero offset written in digits; it runs on UTC -/
  | system
  /-- a clock at a fixed offset from UTC, made for this timestamp alone -/
  | fixed
  deriving DecidableEq, Repr, Inhabited

/-- A timestamp: an instant and the clock it was written on. -/
structure Timestamp where
  instant : Instant
  clock : Clock
  deriving DecidableEq, Repr, Inhabited

/-- A date of the calendar: year, month and day. -/
structure Date where
  year : Nat
  month : Nat
  day : Nat
  deriving DecidableEq, Repr

/-- A time of day: hours, minutes, seconds and nanoseconds. -/
structure TimeOfDay where
  hour : Nat
  minute : Nat
  second : Nat
  nanos : Nat
  deriving DecidableEq, Repr

def TimeOfDay.midnight : TimeOfDay := ⟨0, 0, 0, 0⟩

namespace Timestamp

def digitValue (c : Char) : Nat := c.toNat - 48

def shortNumber : List Char → Option (Nat × List Char)
  | a :: b :: rest =>
    if !a.isDigit then none
    else if b.isDigit then some (digitValue a * 10 + digitValue b, rest)
    else some (digitValue a, b :: rest)
  | [a] => if a.isDigit then some (digitValue a, []) else none
  | [] => none

def twoDigits : List Char → Option (Nat × List Char)
  | a :: b :: rest =>
    if a.isDigit && b.isDigit then some (digitValue a * 10 + digitValue b, rest) else none
  | _ => none

def expect (c : Char) : List Char → Option (List Char)
  | d :: rest => if d == c then some rest else none
  | [] => none

/-- Reads a date `YYYY-M-D` whose month lies in 1 to 12; the day is checked against its month
once the whole timestamp is read. -/
def readDate : List Char → Option (Date × List Char)
  | a :: b :: c :: d :: '-' :: rest => do
    if !(a.isDigit && b.isDigit && c.isDigit && d.isDigit) then none
    let year := ((digitValue a * 10 + digitValue b) * 10 + digitValue c) * 10 + digitValue d
    let (month, rest) ← shortNumber rest
    if month < 1 || month > 12 then none
    let rest ← expect '-' rest
    let (day, rest) ← shortNumber rest
    some (⟨year, month, day⟩, rest)
  | _ => none

def fractionNanos (ds : List Char) : Nat :=
  let kept := ds.take 9
  kept.foldl (fun n c => n * 10 + digitValue c) 0 * Nat.pow 10 (9 - kept.length)

/-- Reads a time of day `h:m:s`, with a fraction when a `.` or `,` and a digit follow. -/
def readTime (cs : List Char) : Option (TimeOfDay × List Char) := do
  let (hour, rest) ← shortNumber cs
  if hour ≥ 24 then none
  let rest ← expect ':' rest
  let (minute, rest) ← shortNumber rest
  if minute ≥ 60 then none
  let rest ← expect ':' rest
  let (second, rest) ← shortNumber rest
  if second ≥ 60 then none
  match rest with
  | mark :: d :: more =>
    if (mark == '.' || mark == ',') && d.isDigit then
      let ds := d :: more.takeWhile Char.isDigit
      some (⟨hour, minute, second, fractionNanos ds⟩, more.dropWhile Char.isDigit)
    else some (⟨hour, minute, second, 0⟩, rest)
  | _ => some (⟨hour, minute, second, 0⟩, rest)

/-- Reads a zone: `Z` gives `none`, and `±hh:mm` (at most 24 hours and 60 minutes) gives its
offset east of UTC in seconds. -/
def readZone : List Char → Option (Option Int × List Char)
  | 'Z' :: rest => some (none, rest)
  | sign :: rest => do
    if sign != '+' && sign != '-' then none
    let (h, rest) ← twoDigits rest
    let rest ← expect ':' rest
    let (m, rest) ← twoDigits rest
    if h > 24 || m > 60 then none
    let off : Int := ((h * 60 + m) * 60 : Nat)
    some (some (if sign == '-' then -off else off), rest)
  | [] => none

/-- The timestamp of a date and a time of day in a zone (`none` for UTC); `none` when the day
does not lie in its month. -/
def make (d : Date) (t : TimeOfDay) (zone : Option Int) : Option Timestamp :=
  if d.day < 1 || d.day > Instant.daysIn d.month d.year then none
  else
    let base := Instant.ofCivil d.year d.month d.day t.hour t.minute t.second t.nanos
    match zone with
    | none => some ⟨base, .utc⟩
    | some 0 => some ⟨base, .system⟩
    | some off => some ⟨{ base.addSeconds (-off) with offset := off }, .fixed⟩

/-- Reads a timestamp in one of its four forms: a date and a time after `T` or `t` with a zone,
a date and a time after spaces, or a date alone. Only a text of exactly four digits and a `-`
can be one. -/
def read? (s : String) : Option Timestamp :=
  match readDate s.toList with
  | none => none
  | some (d, []) => make d .midnight none
  | some (d, sep :: rest) =>
    if sep == 'T' || sep == 't' then
      match readTime rest with
      | some (t, rest) =>
        match readZone rest with
        | some (zone, []) => make d t zone
        | _ => none
      | none => none
    else if sep == ' ' then
      match readTime (rest.dropWhile (· == ' ')) with
      | some (t, []) => make d t none
      | _ => none
    else none

/-- The text of a timestamp in JSON, RFC 3339 with its fraction of a second, or why it has
none. -/
def jsonText (t : Timestamp) : Except String String :=
  match t.instant.jsonFault? with
  | some reason => .error (Instant.marshalFault reason)
  | none => .ok t.instant.rfc3339Nano

def monthNames : List String :=
  ["January", "February", "March", "April", "May", "June", "July", "August", "September",
    "October", "November", "December"]

def clockText : Clock → String
  | .utc => "time.UTC"
  | .system => "time.Local"
  | .fixed => "time.Location(\"\")"

/-- A timestamp as source text, its fields read on its own clock, as in
`time.Date(2024, time.January, 1, 0, 0, 0, 0, time.UTC)`. -/
def sourceText (t : Timestamp) : String :=
  let (y, m, d, h, mi, s) := t.instant.civil
  "time.Date(" ++ toString y ++ ", time." ++ monthNames.getD (m - 1) "" ++ ", " ++ toString d ++
    ", " ++ toString h ++ ", " ++ toString mi ++ ", " ++ toString s ++ ", " ++
    toString t.instant.nanos ++ ", " ++ clockText t.clock ++ ")"

def sameKey (a b : Timestamp) : Bool :=
  a.clock != .fixed && a.clock == b.clock && a.instant.unix == b.instant.unix &&
    a.instant.nanos == b.instant.nanos

end Timestamp

end Bonding.Yaml
