/-!
Bech32 text (BIP 173): a human-readable part, the separator `1`, the payload in 5-bit groups
over a 32-letter alphabet, and a six-letter checksum. Reading reports the first fault it meets,
in the order the format's reference reader checks them, with that reader's wording.
-/

namespace Bonding.Bech32

def alphabet : List Char := "qpzry9x8gf2tvdw0s3jn54khce6mua7l".toList

def generator : List Nat := [0x3b6a57b2, 0x26508e6d, 0x1ea119fa, 0x3d4233dd, 0x2a1462b3]

def polymod (values : List Nat) : Nat :=
  values.foldl (fun chk v =>
    let top := chk / Nat.pow 2 25
    let chk' := (chk % Nat.pow 2 25) * 32 ^^^ v
    (List.range 5).foldl (fun c i =>
      if (top / Nat.pow 2 i) % 2 == 1 then c ^^^ generator.getD i 0 else c) chk') 1

def expandPrefix (hrp : String) : List Nat :=
  let cs := hrp.toList.map Char.toNat
  cs.map (· / 32) ++ [0] ++ cs.map (· % 32)

def checksum (hrp : String) (data : List Nat) : List Nat :=
  let pm := polymod (expandPrefix hrp ++ data ++ [0, 0, 0, 0, 0, 0]) ^^^ 1
  (List.range 6).map fun i => (pm / Nat.pow 32 (5 - i)) % 32

def letter (v : Nat) : Char := alphabet.getD v 'q'

/-- Regroups a bit string: `from`-bit values into `to`-bit values, most significant bit first.
The state is the pending bits and their count. -/
def regroup (fromBits toBits : Nat) (data : List Nat) : List Nat × Nat × Nat :=
  let (out, acc, n) := data.foldl (fun (out, acc, n) v =>
    let acc := acc * Nat.pow 2 fromBits + v
    let n := n + fromBits
    let rec emit (fuel : Nat) (out : List Nat) (acc n : Nat) : List Nat × Nat × Nat :=
      match fuel with
      | 0 => (out, acc, n)
      | fuel + 1 =>
        if n ≥ toBits then
          emit fuel ((acc / Nat.pow 2 (n - toBits)) :: out) (acc % Nat.pow 2 (n - toBits)) (n - toBits)
        else (out, acc, n)
    emit (n / toBits + 1) out acc n) ([], 0, 0)
  (out.reverse, acc, n)

def toFiveBit (bytes : List Nat) : List Nat :=
  let (out, acc, n) := regroup 8 5 bytes
  if n > 0 then out ++ [acc * Nat.pow 2 (5 - n)] else out

def toBytes? (groups : List Nat) : Option (List Nat) :=
  let (out, acc, n) := regroup 5 8 groups
  if n > 0 && (n > 4 || acc != 0) then none else some out

def encode (hrp : String) (bytes : List Nat) : String :=
  let data := toFiveBit bytes
  hrp ++ "1" ++ String.ofList ((data ++ checksum hrp data).map letter)

/-- The faults of reading bech32 text. -/
inductive Fault where
  | badLength (n : Nat)
  | badCharacter (byte : Nat)
  | mixedCase
  | badSeparator (index : Int)
  | notInAlphabet (byte : Nat)
  | badChecksum (expected actual : String)
  | incompleteGroup
  deriving Repr, DecidableEq

def Fault.message : Fault → String
  | .badLength n => s!"invalid bech32 string length {n}"
  | .badCharacter b => "invalid character in string: '" ++ (Char.ofNat b).toString ++ "'"
  | .mixedCase => "string not all lowercase or all uppercase"
  | .badSeparator i => s!"invalid separator index {i}"
  | .notInAlphabet b => s!"invalid character not part of charset: {b}"
  | .badChecksum e a => s!"invalid checksum (expected {e} got {a})"
  | .incompleteGroup => "invalid incomplete group"

/-- The first byte that is not printable ASCII or that mixes the cases, scanning left to right. -/
def caseFault (bytes : List Nat) : Option Fault :=
  let rec loop (lower upper : Bool) : List Nat → Option Fault
    | [] => none
    | b :: rest =>
      if b < 33 || b > 126 then some (.badCharacter b)
      else
        let lower := lower || (97 ≤ b && b ≤ 122)
        let upper := upper || (65 ≤ b && b ≤ 90)
        if lower && upper then some .mixedCase else loop lower upper rest
  loop false false bytes

def lowerByte (b : Nat) : Nat := if 65 ≤ b ∧ b ≤ 90 then b + 32 else b

def lastIndex (bytes : List Nat) (x : Nat) : Int :=
  (bytes.zipIdx.foldl (fun acc (b, i) => if b == x then (i : Int) else acc) (-1))

def bytesText (bytes : List Nat) : String := String.ofList (bytes.map Char.ofNat)

/-- Reads bech32 text of at most `limit` bytes into its lower-case prefix and payload bytes. -/
def decode (text : String) (limit : Nat) : Except Fault (String × List Nat) := do
  let raw := text.toUTF8.toList.map UInt8.toNat
  if raw.length < 8 || raw.length > limit then throw (.badLength raw.length)
  if let some f := caseFault raw then throw f
  let bytes := raw.map lowerByte
  let one := lastIndex bytes 49
  if one < 1 || one + 7 > raw.length then throw (.badSeparator one)
  let cut := one.toNat
  let hrp := bytesText (bytes.take cut)
  let dataBytes := bytes.drop (cut + 1)
  let values ← dataBytes.mapM fun b =>
    match alphabet.idxOf? (Char.ofNat b) with
    | some v => pure v
    | none => throw (Fault.notInAlphabet b)
  if polymod (expandPrefix hrp ++ values) != 1 then
    let payload := values.take (values.length - 6)
    let expected := String.ofList ((checksum hrp payload).map letter)
    throw (.badChecksum expected (bytesText (bytes.drop (bytes.length - 6))))
  match toBytes? (values.take (values.length - 6)) with
  | some out => pure (hrp, out)
  | none => throw .incompleteGroup

end Bonding.Bech32
