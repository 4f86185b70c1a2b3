import Bonding.Text.Quoted

/-!
IP addresses in text, read byte by byte. The first `.`, `:` or `%` of the text decides what it
is: a dot means a dotted IPv4 address, a colon an IPv6 address, and a percent sign an IPv6 zone
with no address before it. A text with none of them is no address.

An IPv4 address has four decimal fields, each from 0 to 255 with no leading zero, between
three dots. An IPv6 address has up to eight groups of at most four hexadecimal digits between
colons. One `::` stands for as many zero groups as are missing, at least one, and the last two
groups may be written as an IPv4 address. A zone after `%` must not be empty.

A fault names the whole text, what is wrong and, for many faults, the rest of the text from the
point where reading stopped.
-/

namespace Bonding.Web

/-- An IP address: four bytes, or sixteen bytes with a zone. -/
inductive IpAddress where
  | v4 (bytes : List Nat)
  | v6 (bytes : List Nat) (zone : List Nat)
  deriving Repr, DecidableEq

def IpAddress.isV4 : IpAddress → Bool
  | .v4 _ => true
  | .v6 _ _ => false

/-- Why a text is not an IP address: the text, the problem, and the rest of the text where
reading stopped (empty when the problem has no place). -/
structure AddressFault where
  input : List Nat
  problem : String
  rest : List Nat
  deriving Repr, DecidableEq

def AddressFault.message (f : AddressFault) : String :=
  "ParseAddr(" ++ quoteByteLiteral f.input ++ "): " ++ f.problem ++
    (if f.rest.isEmpty then "" else " (at " ++ quoteByteLiteral f.rest ++ ")")

namespace IpAddress

def dot : Nat := 46

def colon : Nat := 58

def percent : Nat := 37

def decimalDigit? (b : Nat) : Option Nat := if 48 ≤ b && b ≤ 57 then some (b - 48) else none

def hexDigit? (b : Nat) : Option Nat :=
  if 48 ≤ b && b ≤ 57 then some (b - 48)
  else if 97 ≤ b && b ≤ 102 then some (b - 87)
  else if 65 ≤ b && b ≤ 70 then some (b - 55)
  else none

/-- Reads the dotted fields of an IPv4 address from `s`, a part of `input` that faults name. The
state is the position in `s`, the byte before it, the field being read and its digit count, and
the fields done. -/
def v4Fields (input : List Nat) (size : Nat) :
    List Nat → Nat → Option Nat → Nat → Nat → List Nat → Except AddressFault (List Nat)
  | [], _, _, value, _, done =>
    if done.length < 3 then .error ⟨input, "IPv4 address too short", []⟩ else .ok (done ++ [value])
  | b :: more, i, before, value, digits, done =>
    match decimalDigit? b with
    | some d =>
      if digits == 1 && value == 0 then .error ⟨input, "IPv4 field has octet with leading zero", []⟩
      else if value * 10 + d > 255 then .error ⟨input, "IPv4 field has value >255", []⟩
      else v4Fields input size more (i + 1) (some b) (value * 10 + d) (digits + 1) done
    | none =>
      if b == dot then
        if i == 0 || i + 1 == size || before == some dot then
          .error ⟨input, "IPv4 field must have at least one digit", b :: more⟩
        else if done.length == 3 then .error ⟨input, "IPv4 address too long", []⟩
        else v4Fields input size more (i + 1) (some b) 0 0 (done ++ [value])
      else .error ⟨input, "unexpected character", b :: more⟩

def readV4Part (input s : List Nat) : Except AddressFault (List Nat) :=
  v4Fields input s.length s 0 none 0 0 []

def hexGroup (input s : List Nat) : Except AddressFault (Nat × Nat) :=
  let digits := s.takeWhile fun b => (hexDigit? b).isSome
  if digits.length > 4 then .error ⟨input, "each group must have 4 or less digits", s⟩
  else if digits.isEmpty then
    .error ⟨input, "each colon-separated field must have at least one digit", s⟩
  else .ok (digits.foldl (fun acc b => acc * 16 + (hexDigit? b).getD 0) 0, digits.length)

/-- Reads the groups of an IPv6 address from `s`, with the bytes done so far and where a `::`
stood among them; gives the rest, the bytes and the place of the `::`. Each round takes some of
`s`, and at most eight rounds fill the sixteen bytes. -/
def v6Groups (input : List Nat) :
    Nat → List Nat → List Nat → Option Nat → Except AddressFault (List Nat × List Nat × Option Nat)
  | 0, s, done, gap => .ok (s, done, gap)
  | fuel + 1, s, done, gap => do
    if done.length ≥ 16 then return (s, done, gap)
    let (value, width) ← hexGroup input s
    let after := s.drop width
    if after.head? == some dot then
      if gap.isNone && done.length != 12 then
        throw ⟨input, "embedded IPv4 address must replace the final 2 fields of the address", s⟩
      if done.length + 4 > 16 then
        throw ⟨input, "too many hex fields to fit an embedded IPv4 at the end of the address", s⟩
      let fields ← readV4Part input s
      return ([], done ++ fields, gap)
    let done := done ++ [value / 256, value % 256]
    match after with
    | [] => return ([], done, gap)
    | b :: more =>
      if b != colon then throw ⟨input, "unexpected character, want colon", after⟩
      if more.isEmpty then throw ⟨input, "colon must be followed by more characters", after⟩
      match more with
      | c :: more' =>
        if c == colon then
          if gap.isSome then throw ⟨input, "multiple :: in address", more⟩
          if more'.isEmpty then return ([], done, some done.length)
          v6Groups input fuel more' done (some done.length)
        else v6Groups input fuel more done gap
      | [] => return ([], done, gap)

/-- Reads an IPv6 address, with an optional zone after `%`. -/
def readV6 (input : List Nat) : Except AddressFault IpAddress := do
  let (s, zone) ← match input.findIdx? (· == percent) with
    | some i =>
      let zone := input.drop (i + 1)
      if zone.isEmpty then throw ⟨input, "zone must be a non-empty string", []⟩
      pure (input.take i, zone)
    | none => pure (input, [])
  let (s, gap) := match s with
    | 58 :: 58 :: more => (more, some 0)
    | _ => (s, none)
  if s.isEmpty && gap.isSome then return .v6 (List.replicate 16 0) zone
  let (rest, done, gap) ← v6Groups input 8 s [] gap
  if !rest.isEmpty then throw ⟨input, "trailing garbage after address", rest⟩
  if done.length < 16 then
    match gap with
    | none => throw ⟨input, "address string too short", []⟩
    | some g =>
      return .v6 (done.take g ++ List.replicate (16 - done.length) 0 ++ done.drop g) zone
  if gap.isSome then throw ⟨input, "the :: must expand to at least one field of zeros", []⟩
  return .v6 done zone

def read (input : List Nat) : Except AddressFault IpAddress :=
  match input.find? fun b => b == dot || b == colon || b == percent with
  | some 46 => IpAddress.v4 <$> readV4Part input input
  | some 58 => readV6 input
  | some _ => .error ⟨input, "missing IPv6 address", []⟩
  | none => .error ⟨input, "unable to parse IP", []⟩

end IpAddress

end Bonding.Web
