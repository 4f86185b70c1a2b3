import Bonding.Text.Printable
import Bonding.Text.Utf8

/-!
Quoted literals: text in double quotes as error messages show a name or a piece of input. Quotes
and backslashes get a backslash, printable characters stand for themselves, the common controls
have their letter escapes, and every other character is written by its code point in hexadecimal.
Bytes that are no valid UTF-8 are written `\xhh` one by one.
-/

namespace Bonding

def hexPadded (width n : Nat) : String :=
  let ds := Nat.toDigits 16 n
  String.ofList (List.replicate (width - ds.length) '0' ++ ds)

/-- A character as it stands inside a quoted literal. -/
def escapeLiteralChar (c : Char) : String :=
  if c == '"' then "\\\"" else if c == '\\' then "\\\\"
  else if Text.isPrintable c then c.toString
  else if c == '\n' then "\\n" else if c == '\r' then "\\r" else if c == '\t' then "\\t"
  else if c.toNat == 7 then "\\a" else if c.toNat == 8 then "\\b" else if c.toNat == 12 then "\\f"
  else if c.toNat == 11 then "\\v"
  else if c.toNat < 0x20 || c.toNat == 0x7F then "\\x" ++ hexPadded 2 c.toNat
  else if c.toNat < 0x10000 then "\\u" ++ hexPadded 4 c.toNat
  else "\\U" ++ hexPadded 8 c.toNat

def quoteLiteral (s : String) : String :=
  "\"" ++ String.join (s.toList.map escapeLiteralChar) ++ "\""

def escapeLiteralBytes : Nat → List Nat → String
  | 0, _ => ""
  | _, [] => ""
  | fuel + 1, b :: rest =>
    match Utf8.leadingChar? (b :: rest) with
    | some (c, n) => escapeLiteralChar c ++ escapeLiteralBytes fuel ((b :: rest).drop n)
    | none => "\\x" ++ hexPadded 2 b ++ escapeLiteralBytes fuel rest

def quoteByteLiteral (bs : List Nat) : String :=
  "\"" ++ escapeLiteralBytes bs.length bs ++ "\""

/-- Text held as its bytes, which need not be valid UTF-8, as an escaped URL may give it. -/
structure ByteText where
  bytes : List Nat
  deriving Repr, DecidableEq, Inhabited

namespace ByteText

def ofString (s : String) : ByteText := ⟨s.toUTF8.toList.map UInt8.toNat⟩

def text (t : ByteText) : String := String.ofList (Utf8.decodeLossy t.bytes)

def quoted (t : ByteText) : String := quoteByteLiteral t.bytes

end ByteText

end Bonding
