import Bonding.Time.Instant

/-!
Reading times by the RFC 3339 layout `2006-01-02T15:04:05Z07:00`. The year has four digits; month,
day, minute and second have two; the hour has one or two. A fraction of a second may follow the
seconds after a point or a comma, of which the first nine digits count. The zone is `Z` or a
signed `hh:mm` offset, whose hours may reach 24 and whose minutes may reach 60. A time with a
non-zero offset keeps it as the clock it is shown on.

A failure names the text and either the layout element where the text stops matching, the field
whose value is out of range, or the text left after the zone. Fields are checked in layout order,
and the day against its month only once the whole text is read.
-/

namespace Bonding

/-- Why a text is not a time. -/
inductive TimeFault where
  /-- the text stops matching the layout element `element`, with `rest` left -/
  | mismatch (text rest element : String)
  /-- the field `field` holds a value outside its range -/
  | outOfRange (text field : String)
  /-- `rest` is left after the zone -/
  | extra (text rest : String)
  deriving Repr, DecidableEq

namespace TimeFault

def layout : String := "2006-01-02T15:04:05Z07:00"

def hexDigit (n : Nat) : Char :=
  if n < 10 then Char.ofNat (48 + n) else Char.ofNat (87 + n)

/-- A character as it stands inside a quoted time: a quote or a backslash gets a backslash, and each
byte of a control or non-ASCII character is written `\xhh`. -/
def quoteChar (c : Char) : String :=
  if c.toNat < 32 || c.toNat ≥ 128 then
    String.join ((String.singleton c).toUTF8.toList.map fun b =>
      "\\x" ++ String.singleton (hexDigit (b.toNat / 16)) ++ String.singleton (hexDigit (b.toNat % 16)))
  else if c == '"' || c == '\\' then "\\" ++ String.singleton c
  else String.singleton c

def quote (s : String) : String := "\"" ++ String.join (s.toList.map quoteChar) ++ "\""

def message : TimeFault → String
  | .mismatch text rest element =>
    "parsing time " ++ quote text ++ " as " ++ quote layout ++ ": cannot parse " ++ quote rest ++
      " as " ++ quote element
  | .outOfRange text field => "parsing time " ++ quote text ++ ": " ++ field ++ " out of range"
  | .extra text rest => "parsing time " ++ quote text ++ ": extra text: " ++ quote rest

end TimeFault

namespace Rfc3339

def digitValue (c : Char) : Nat := c.toNat - '0'.toNat

def twoDigits? : List Char → Option (Nat × List Char)
  | a :: b :: r => if a.isDigit && b.isDigit then some (digitValue a * 10 + digitValue b, r) else none
  | _ => none

def oneOrTwoDigits? : List Char → Option (Nat × List Char)
  | a :: b :: r =>
    if !a.isDigit then none
    else if b.isDigit then some (digitValue a * 10 + digitValue b, r)
    else some (digitValue a, b :: r)
  | [a] => if a.isDigit then some (digitValue a, []) else none
  | [] => none

def fourDigits? : List Char → Option (Nat × List Char)
  | a :: b :: c :: d :: r =>
    if [a, b, c, d].all Char.isDigit then
      some ([a, b, c, d].foldl (fun n x => n * 10 + digitValue x) 0, r)
    else none
  | _ => none

/-- The nanoseconds of the digits of a fraction: the first nine count, each place a tenth of the
one before. -/
def fractionNanos (ds : List Char) : Nat :=
  let nine := ds.take 9
  nine.foldl (fun n x => n * 10 + digitValue x) 0 * Nat.pow 10 (9 - nine.length)

def readFraction (cs : List Char) : Nat × List Char :=
  match cs with
  | c :: d :: r =>
    if (c == '.' || c == ',') && d.isDigit then
      (fractionNanos ((d :: r).takeWhile Char.isDigit), (d :: r).dropWhile Char.isDigit)
    else (0, cs)
  | _ => (0, cs)

def byteDigits? (a b : UInt8) : Option Nat :=
  let isDigit (x : UInt8) : Bool := 48 ≤ x.toNat && x.toNat ≤ 57
  if isDigit a && isDigit b then some ((a.toNat - 48) * 10 + (b.toNat - 48)) else none

/-- What a zone of the form `±hh:mm` gives, read over the bytes of the text: an offset in seconds,
a field out of range, or no match. Hours up to 24 and minutes up to 60 are in range; a field out
of range is reported before a bad sign or a bad minute. -/
inductive ZoneRead where
  | offset (seconds : Int)
  | outOfRange (field : String)
  | mismatch

/-- Reads a numeric zone from the first six bytes of a text. -/
def numericZone (bs : List UInt8) : ZoneRead :=
  match bs with
  | s :: h1 :: h2 :: c :: m1 :: m2 :: _ =>
    if c != 58 then .mismatch
    else
      let hour := byteDigits? h1 h2
      let minute := if hour.isSome then byteDigits? m1 m2 else none
      let hr := hour.getD 0
      let mm := minute.getD 0
      if mm > 60 then .outOfRange "time zone offset minute"
      else if hr > 24 then .outOfRange "time zone offset hour"
      else if minute.isNone then .mismatch
      else
        let seconds : Int := ((hr * 60 + mm) * 60 : Nat)
        if s == 43 then .offset seconds
        else if s == 45 then .offset (-seconds)
        else .mismatch
  | _ => .mismatch

end Rfc3339

namespace Instant

open Rfc3339

/-- Reads a time by the RFC 3339 layout. -/
def read (text : String) : Except TimeFault Instant := do
  let miss (rest : List Char) (element : String) : TimeFault :=
    .mismatch text (String.ofList rest) element
  let literal (c : Char) (rest : List Char) : Except TimeFault (List Char) :=
    match rest with
    | x :: r => if x == c then pure r else throw (miss rest (String.singleton c))
    | [] => throw (miss rest (String.singleton c))
  let cs := text.toList
  let (y, r) ← match fourDigits? cs with
    | some v => pure v
    | none => throw (miss cs "2006")
  let r ← literal '-' r
  let (mo, r) ← match twoDigits? r with
    | some v => pure v
    | none => throw (miss r "01")
  if mo == 0 || mo > 12 then throw (.outOfRange text "month")
  let r ← literal '-' r
  let (d, r) ← match twoDigits? r with
    | some v => pure v
    | none => throw (miss r "02")
  let r ← literal 'T' r
  let (h, r) ← match oneOrTwoDigits? r with
    | some v => pure v
    | none => throw (miss r "15")
  if h ≥ 24 then throw (.outOfRange text "hour")
  let r ← literal ':' r
  let (mi, r) ← match twoDigits? r with
    | some v => pure v
    | none => throw (miss r "04")
  if mi ≥ 60 then throw (.outOfRange text "minute")
  let r ← literal ':' r
  let (s, r) ← match twoDigits? r with
    | some v => pure v
    | none => throw (miss r "05")
  if s ≥ 60 then throw (.outOfRange text "second")
  let (nanos, r) := readFraction r
  let (off, r) ← match r with
    | 'Z' :: rest => pure (0, rest)
    | _ =>
      match numericZone (String.ofList r).toUTF8.toList with
      | .offset o => pure (o, r.drop 6)
      | .outOfRange field => throw (.outOfRange text field)
      | .mismatch => throw (miss r "Z07:00")
  if !r.isEmpty then throw (.extra text (String.ofList r))
  if d < 1 || d > daysIn mo y then throw (.outOfRange text "day")
  pure { (ofCivil y mo d h mi s nanos).addSeconds (-off) with offset := off }

def parse? (text : String) : Option Instant := (read text).toOption

end Instant

end Bonding
