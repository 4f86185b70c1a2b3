import Bonding.Number.Binary64
import Bonding.Yaml.Timestamp

/-!
The values of YAML scalars and the rules that resolve a plain scalar to one (the core schema of
YAML 1.2 with a few additions): `null`, `~` and the empty text are null; `true` and `false` in
three spellings are booleans; integers are decimal, or hexadecimal, octal or binary with a
prefix (a leading zero also means octal), with `_` allowed anywhere, as long as they fit in 64
bits signed or unsigned; other decimal numbers within the finite range, `.inf` and `.nan` are
floating-point; last, a sign may follow the prefixes `0b` and `0o`. A plain
scalar that reads as a timestamp is one, and so is a scalar tagged `!!timestamp`; anything else
is a string. An explicit tag asks for a kind, and a scalar that does not resolve to it is an
error, save that an integer may stand for a float.
-/

namespace Bonding.Yaml

/-- A decoded YAML value. -/
inductive Value where
  | null
  | bool (b : Bool)
  | int (i : Int)
  | float (x : Binary64)
  | nan
  | infinity (negative : Bool)
  | str (s : String)
  | time (t : Timestamp)
  | seq (items : List Value)
  /-- a mapping whose keys are all strings -/
  | strMap (members : List (String × Value))
  /-- a mapping with keys of any kind -/
  | anyMap (members : List (Value × Value))
  deriving Inhabited, Repr

def longTagPrefix : String := "tag:yaml.org,2002:"

def shortTag (tag : String) : String :=
  if tag.startsWith longTagPrefix then "!!" ++ (tag.drop longTagPrefix.length).toString else tag

def nullTag : String := "!!null"
def boolTag : String := "!!bool"
def strTag : String := "!!str"
def intTag : String := "!!int"
def floatTag : String := "!!float"
def timestampTag : String := "!!timestamp"
def seqTag : String := "!!seq"
def mapTag : String := "!!map"
def binaryTag : String := "!!binary"
def mergeTag : String := "!!merge"

def digitIn (base : Nat) (c : Char) : Option Nat :=
  let v := if c.isDigit then c.toNat - 48
    else if 'a' ≤ c && c ≤ 'z' then c.toNat - 'a'.toNat + 10
    else if 'A' ≤ c && c ≤ 'Z' then c.toNat - 'A'.toNat + 10
    else 36
  if v < base then some v else none

/-- Reads the digits of a natural number in a base (none at all read as zero); `none` when one
is not a digit or the value reaches 2^64. -/
def readDigits (base : Nat) (cs : List Char) : Option Nat :=
  cs.foldl (fun acc c => acc.bind fun n =>
    (digitIn base c).bind fun d => if n * base + d ≥ Nat.pow 2 64 then none else some (n * base + d)) (some 0)

/-- Reads an unsigned number whose base its prefix gives: `0x`, `0o`, `0b`, or a leading `0` for
octal. -/
def readUnsigned (s : String) : Option Nat :=
  match s.toList with
  | '0' :: c :: d :: rest =>
    if c == 'x' || c == 'X' then readDigits 16 (d :: rest)
    else if c == 'o' || c == 'O' then readDigits 8 (d :: rest)
    else if c == 'b' || c == 'B' then readDigits 2 (d :: rest)
    else readDigits 8 (c :: d :: rest)
  | '0' :: rest => readDigits 8 rest
  | [] => none
  | cs => readDigits 10 cs

/-- Reads a signed number of 64 bits whose base its prefix gives. -/
def readSigned (s : String) : Option Int :=
  let (neg, body) := match s.toList with
    | '-' :: r => (true, String.ofList r)
    | '+' :: r => (false, String.ofList r)
    | r => (false, String.ofList r)
  match readUnsigned body with
  | some n =>
    if neg then (if n > Nat.pow 2 63 then none else some (-(n : Int)))
    else if n ≥ Nat.pow 2 63 then none else some n
  | none => none

/-- Reads a signed number of 64 bits in a base with no prefix: an optional sign and at least
one digit. -/
def readSignedIn (base : Nat) (cs : List Char) : Option Int :=
  let (neg, body) := match cs with
    | '-' :: r => (true, r)
    | '+' :: r => (false, r)
    | r => (false, r)
  if body.isEmpty then none else
  match readDigits base body with
  | some n =>
    if neg then (if n > Nat.pow 2 63 then none else some (-(n : Int)))
    else if n ≥ Nat.pow 2 63 then none else some n
  | none => none

/-- Reads a number after the YAML 1.2 prefixes `0b` and `0o`, where a sign may follow the
prefix, or after `-0b` and `-0o`. -/
def readPrefixed (s : String) : Option Int :=
  let after (base : Nat) (body : List Char) : Option Int :=
    match readSignedIn base body with
    | some i => some i
    | none => if body.isEmpty then none else (readDigits base body).map Int.ofNat
  match s.toList with
  | '0' :: 'b' :: body => after 2 body
  | '-' :: '0' :: 'b' :: body => readSignedIn 2 ('-' :: body)
  | '0' :: 'o' :: body => after 8 body
  | '-' :: '0' :: 'o' :: body => readSignedIn 8 ('-' :: body)
  | _ => none

/-- Whether the underscores of a number stand between digits: each follows a digit and is
followed by one. -/
def underscoresBetweenDigits (cs : List Char) : Bool :=
  let step (saw : Char) (c : Char) : Option Char :=
    if c.isDigit then some '0'
    else if c == '_' then (if saw == '0' then some '_' else none)
    else if saw == '_' then none
    else some '!'
  match cs.foldlM step '^' with
  | some saw => saw != '_'
  | none => false

/-- The text of a floating-point literal that starts with a point, such as `.5` or `.5e3`, with
the underscores between its digits removed; `none` when the text is not one. -/
def pointLiteral? (s : String) : Option String :=
  match s.toList with
  | '.' :: rest =>
    let mantissa := rest.takeWhile fun c => c.isDigit || c == '_'
    let tail := rest.dropWhile fun c => c.isDigit || c == '_'
    let exponentOk : Bool := match tail with
      | [] => true
      | e :: r =>
        (e == 'e' || e == 'E') &&
          (let r := match r with | '-' :: t | '+' :: t => t | t => t
           match r with
           | d :: more => d.isDigit && more.all fun c => c.isDigit || c == '_'
           | [] => false)
    if mantissa.any Char.isDigit && exponentOk && underscoresBetweenDigits s.toList then
      some (String.ofList (s.toList.filter (· != '_')))
    else none
  | _ => none

/-- Whether a text is a decimal number in the YAML sense: an optional sign, digits with an
optional point and fraction (or a point and digits), and an optional exponent. -/
def isDecimalNumber (s : String) : Bool :=
  let cs := match s.toList with
    | '-' :: r | '+' :: r => r
    | r => r
  let exponentOk (r : List Char) : Bool := match r with
    | [] => true
    | e :: r =>
      (e == 'e' || e == 'E') &&
        (let r := match r with | '-' :: t | '+' :: t => t | t => t
         !r.isEmpty && r.all Char.isDigit)
  match cs with
  | '.' :: r =>
    let ds := r.takeWhile Char.isDigit
    !ds.isEmpty && exponentOk (r.dropWhile Char.isDigit)
  | r =>
    let ds := r.takeWhile Char.isDigit
    let r := r.dropWhile Char.isDigit
    !ds.isEmpty &&
      (match r with
        | '.' :: t => exponentOk (t.dropWhile Char.isDigit)
        | t => exponentOk t)

def readFloat (s : String) : Option Binary64 :=
  let t := if s.startsWith "+" then (s.drop 1).toString else s
  Binary64.ofDecimalText? t

/-- The scalars that resolve by their whole text. -/
def namedScalar? : String → Option (String × Value)
  | "true" | "True" | "TRUE" => some (boolTag, .bool true)
  | "false" | "False" | "FALSE" => some (boolTag, .bool false)
  | "" | "~" | "null" | "Null" | "NULL" => some (nullTag, .null)
  | ".nan" | ".NaN" | ".NAN" => some (floatTag, .nan)
  | ".inf" | ".Inf" | ".INF" | "+.inf" | "+.Inf" | "+.INF" => some (floatTag, .infinity false)
  | "-.inf" | "-.Inf" | "-.INF" => some (floatTag, .infinity true)
  | "<<" => some (mergeTag, .str "<<")
  | _ => none

/-- How the first character of a plain scalar hints at its kind. -/
inductive Hint where
  | none
  | sign
  | digit
  | named
  | point
  deriving DecidableEq

/-- The hint of a text. -/
def hintOf (s : String) : Hint :=
  match s.toList with
  | [] => .named
  | c :: _ =>
    if c == '+' || c == '-' then .sign
    else if c.isDigit then .digit
    else if "yYnNtTfFoO~".contains c then .named
    else if c == '.' then .point
    else .none

/-- The tag and value of a scalar by its text, without checking the tag asked for. -/
def resolveText (tag s : String) : String × Value :=
  let hint := hintOf s
  if hint == .none || tag == strTag || tag == binaryTag then (strTag, .str s) else
  match namedScalar? s with
  | some r => r
  | none =>
    match hint with
    | .point =>
      match (pointLiteral? s).bind readFloat with
      | some x => (floatTag, .float x)
      | none => (strTag, .str s)
    | .sign | .digit =>
      match (if tag == "" || tag == timestampTag then Timestamp.read? s else none) with
      | some t => (timestampTag, .time t)
      | none =>
        let plain := String.ofList (s.toList.filter (· != '_'))
        match readSigned plain with
        | some i => (intTag, .int i)
        | none =>
          match (if plain.startsWith "+" || plain.startsWith "-" then none else readUnsigned plain) with
          | some n => (intTag, .int n)
          | none =>
            match (if isDecimalNumber plain then readFloat plain else none) with
            | some x => (floatTag, .float x)
            | none =>
              match readPrefixed plain with
              | some i => (intTag, .int i)
              | none => (strTag, .str s)
    | _ => (strTag, .str s)

def isResolvable (tag : String) : Bool :=
  tag == "" || tag == strTag || tag == boolTag || tag == intTag || tag == floatTag || tag == timestampTag ||
    tag == nullTag

/-- Resolves a scalar under the tag it carries: the tag found and the value, or an error when
the text is not of the tag's kind. An integer under `!!float` becomes a float. -/
def resolve (tag s : String) : Except String (String × Value) :=
  let tag := shortTag tag
  if !isResolvable tag then .ok (tag, .str s) else
  let (found, v) := resolveText tag s
  if tag == "" || tag == found || tag == strTag then .ok (found, v)
  else
    match tag, v with
    | "!!float", .int i =>
      if i < Int.pow 2 63 then
        match Binary64.ofInt i with
        | some x => .ok (floatTag, .float x)
        | none => .error ("cannot decode " ++ found ++ " `" ++ s ++ "` as a " ++ tag)
      else .error ("cannot decode " ++ found ++ " `" ++ s ++ "` as a " ++ tag)
    | _, _ => .error ("cannot decode " ++ found ++ " `" ++ s ++ "` as a " ++ tag)

end Bonding.Yaml
