import Bonding.Crypto.Sha256
import Bonding.Crypto.Bech32

/-!
Account addresses: bech32 text with the prefix `cosmos` over a payload of 1 to 255 bytes.
A named account, such as a module's, has the first 20 bytes of the SHA-256 of its name as payload.
-/

namespace Bonding.Address

def prefixTag : String := "cosmos"

def maxPayload : Nat := 255

def maxText : Nat := 1023

def ofName (name : String) : String :=
  Bech32.encode prefixTag ((Sha256.digest name.toUTF8.toList).take 20 |>.map UInt8.toNat)

def isUnicodeBlank (c : Char) : Bool :=
  let n := c.toNat
  (9 ≤ n && n ≤ 13) || n == 32 || n == 0x85 || n == 0xA0 || n == 0x1680 ||
    (0x2000 ≤ n && n ≤ 0x200A) || n == 0x2028 || n == 0x2029 || n == 0x202F ||
    n == 0x205F || n == 0x3000

/-- Why a text is not an account address, in the wording callers report. -/
def fault? (text : String) : Option String :=
  if text.toList.all isUnicodeBlank then some "empty address string is not allowed"
  else match Bech32.decode text maxText with
    | .error f => some ("decoding bech32 failed: " ++ f.message)
    | .ok (hrp, bytes) =>
      if hrp != prefixTag then some s!"invalid Bech32 prefix; expected {prefixTag}, got {hrp}"
      else if bytes.isEmpty then some "addresses cannot be empty: unknown address"
      else if bytes.length > maxPayload then
        some s!"address max length is {maxPayload}, got {bytes.length}: unknown address"
      else none

def isValid (text : String) : Bool := (fault? text).isNone

end Bonding.Address
