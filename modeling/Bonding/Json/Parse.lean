import Bonding.Json.Value

/-!
Reading JSON text (RFC 8259). Strings decode their escapes; a `\u` escape that is half of a
surrogate pair without its partner reads as U+FFFD, the replacement character. Numbers are
checked against the grammar and kept as text.
-/

namespace Bonding.Json

def isBlank (c : Char) : Bool := c == ' ' || c == '\t' || c == '\n' || c == '\r'

def skipBlank : List Char → List Char
  | c :: cs => if isBlank c then skipBlank cs else c :: cs
  | [] => []

def hexDigit? (c : Char) : Option Nat :=
  if '0' ≤ c ∧ c ≤ '9' then some (c.toNat - '0'.toNat)
  else if 'a' ≤ c ∧ c ≤ 'f' then some (c.toNat - 'a'.toNat + 10)
  else if 'A' ≤ c ∧ c ≤ 'F' then some (c.toNat - 'A'.toNat + 10)
  else none

def hex4? (a b c d : Char) : Option Nat := do
  let w ← hexDigit? a
  let x ← hexDigit? b
  let y ← hexDigit? c
  let z ← hexDigit? d
  pure (((w * 16 + x) * 16 + y) * 16 + z)

def replacement : Char := Char.ofNat 0xFFFD

def isHighSurrogate (u : Nat) : Bool := 0xD800 ≤ u && u < 0xDC00

def isLowSurrogate (u : Nat) : Bool := 0xDC00 ≤ u && u < 0xE000

def unitChar (u : Nat) : Char :=
  if 0xD800 ≤ u ∧ u < 0xE000 then replacement else Char.ofNat u

/-- The character of one simple escape such as `\n`. -/
def simpleEscape? : Char → Option Char
  | '"' => some '"'
  | '\\' => some '\\'
  | '/' => some '/'
  | 'b' => some (Char.ofNat 8)
  | 'f' => some (Char.ofNat 12)
  | 'n' => some '\n'
  | 'r' => some '\r'
  | 't' => some '\t'
  | _ => none

def lowEscape? : (cs : List Char) → Option (Nat × {r : List Char // r.length < cs.length})
  | '\\' :: 'u' :: e :: f :: g :: h :: rest =>
    match hex4? e f g h with
    | some l => if isLowSurrogate l then some (l, ⟨rest, by simp; omega⟩) else none
    | none => none
  | _ => none

def pairChar (hi lo : Nat) : Char := Char.ofNat (0x10000 + (hi - 0xD800) * 0x400 + (lo - 0xDC00))

/-- Reads the rest of a string after its opening quote; `acc` holds the characters read, last first. -/
def readString (acc : List Char) : List Char → Option (String × List Char)
  | '"' :: rest => some (String.ofList acc.reverse, rest)
  | '\\' :: 'u' :: a :: b :: c :: d :: rest =>
    match hex4? a b c d with
    | none => none
    | some u =>
      if isHighSurrogate u then
        match lowEscape? rest with
        | some (l, ⟨rest', _⟩) => readString (pairChar u l :: acc) rest'
        | none => readString (replacement :: acc) rest
      else readString (unitChar u :: acc) rest
  | '\\' :: e :: rest =>
    match simpleEscape? e with
    | some c => readString (c :: acc) rest
    | none => none
  | c :: rest => if c.toNat < 0x20 then none else readString (c :: acc) rest
  | [] => none
termination_by cs => cs.length
decreasing_by all_goals simp_wf <;> omega

def spanDigits (cs : List Char) : List Char × List Char :=
  (cs.takeWhile Char.isDigit, cs.dropWhile Char.isDigit)

/-- Reads a number by the JSON grammar and returns its text. -/
def readNumber (cs : List Char) : Option (String × List Char) :=
  let (sign, r0) := match cs with
    | '-' :: r => (['-'], r)
    | r => ([], r)
  let intPart : Option (List Char × List Char) := match r0 with
    | '0' :: r => some (['0'], r)
    | c :: r => if '1' ≤ c ∧ c ≤ '9' then
        let (ds, r') := spanDigits r
        some (c :: ds, r')
      else none
    | [] => none
  match intPart with
  | none => none
  | some (ip, r1) =>
    let frac : Option (List Char × List Char) := match r1 with
      | '.' :: r =>
        let (ds, r') := spanDigits r
        if ds.isEmpty then none else some ('.' :: ds, r')
      | r => some ([], r)
    match frac with
    | none => none
    | some (fp, r2) =>
      let expo : Option (List Char × List Char) := match r2 with
        | e :: r => if e == 'e' || e == 'E' then
            let (sg, r') := match r with
              | '+' :: t => (['+'], t)
              | '-' :: t => (['-'], t)
              | t => ([], t)
            let (ds, r'') := spanDigits r'
            if ds.isEmpty then none else some (e :: sg ++ ds, r'')
          else some ([], e :: r)
        | [] => some ([], [])
      match expo with
      | none => none
      | some (ep, r3) => some (String.ofList (sign ++ ip ++ fp ++ ep), r3)

mutual

/-- Reads one value after optional blanks; `fuel` bounds the nesting and the item count. -/
def readValue : Nat → List Char → Option (Json × List Char)
  | 0, _ => none
  | fuel + 1, cs =>
    match skipBlank cs with
    | 'n' :: 'u' :: 'l' :: 'l' :: rest => some (.null, rest)
    | 't' :: 'r' :: 'u' :: 'e' :: rest => some (.bool true, rest)
    | 'f' :: 'a' :: 'l' :: 's' :: 'e' :: rest => some (.bool false, rest)
    | '"' :: rest => (readString [] rest).map fun (s, r) => (.str s, r)
    | '[' :: rest =>
      match skipBlank rest with
      | ']' :: r => some (.arr [], r)
      | _ => (readItems fuel [] rest).map fun (xs, r) => (.arr xs, r)
    | '{' :: rest =>
      match skipBlank rest with
      | '}' :: r => some (.obj [], r)
      | _ => (readMembers fuel [] rest).map fun (ms, r) => (.obj ms, r)
    | other => (readNumber other).map fun (t, r) => (.num t, r)

/-- Reads array items up to the closing bracket; `acc` holds the items read, last first. -/
def readItems : Nat → List Json → List Char → Option (List Json × List Char)
  | 0, _, _ => none
  | fuel + 1, acc, cs =>
    match readValue fuel cs with
    | none => none
    | some (v, r) =>
      match skipBlank r with
      | ',' :: r' => readItems fuel (v :: acc) r'
      | ']' :: r' => some ((v :: acc).reverse, r')
      | _ => none

/-- Reads object members up to the closing brace; `acc` holds the members read, last first. -/
def readMembers : Nat → List (String × Json) → List Char → Option (List (String × Json) × List Char)
  | 0, _, _ => none
  | fuel + 1, acc, cs =>
    match skipBlank cs with
    | '"' :: r =>
      match readString [] r with
      | none => none
      | some (k, r1) =>
        match skipBlank r1 with
        | ':' :: r2 =>
          match readValue fuel r2 with
          | none => none
          | some (v, r3) =>
            match skipBlank r3 with
            | ',' :: r4 => readMembers fuel ((k, v) :: acc) r4
            | '}' :: r4 => some (((k, v) :: acc).reverse, r4)
            | _ => none
        | _ => none
    | _ => none

end

def parsePrefix (cs : List Char) : Option (Json × List Char) :=
  readValue (cs.length + 1) cs

def parse (s : String) : Option Json :=
  match parsePrefix s.toList with
  | some (v, rest) => if (skipBlank rest).isEmpty then some v else none
  | none => none

end Bonding.Json
