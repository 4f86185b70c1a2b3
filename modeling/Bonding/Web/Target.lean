import Bonding.Text.Utf8

/-!
Request targets: the path and the query of a URL as a server reads them. An escape `%XY` stands
for the byte `XY`, and the bytes are read back as UTF-8, each byte that starts no valid sequence
becoming U+FFFD; in a query a `+` stands for a space. A query is a list of `key=value` pairs split
at `&`, and a pair that holds `;` or a bad escape is left out. A path is clean when it has no empty,
`.` or `..` segment, a trailing slash apart.
-/

namespace Bonding.Web

def hexValue? (c : Char) : Option Nat :=
  if '0' ≤ c ∧ c ≤ '9' then some (c.toNat - '0'.toNat)
  else if 'a' ≤ c ∧ c ≤ 'f' then some (c.toNat - 'a'.toNat + 10)
  else if 'A' ≤ c ∧ c ≤ 'F' then some (c.toNat - 'A'.toNat + 10)
  else none

def charBytes (c : Char) : List Nat := (String.singleton c).toUTF8.toList.map UInt8.toNat

/-- The bytes that escaped text stands for, with `+` a space when `plus` is set; `none` when a `%`
is not followed by two hexadecimal digits. -/
def unescapeBytes (plus : Bool) : List Char → Option (List Nat)
  | [] => some []
  | '%' :: a :: b :: rest =>
    match hexValue? a, hexValue? b with
    | some x, some y => ((x * 16 + y) :: ·) <$> unescapeBytes plus rest
    | _, _ => none
  | '%' :: _ => none
  | c :: rest =>
    let bytes := if plus && c == '+' then [32] else charBytes c
    (bytes ++ ·) <$> unescapeBytes plus rest

def unescape? (plus : Bool) (s : String) : Option String :=
  (unescapeBytes plus s.toList).map fun bs => String.ofList (Utf8.decodeLossy bs)

/-- The parameters of a query in order; a pair with `;` or a bad escape is left out, and a pair
without `=` has the empty value. -/
def queryParams (raw : String) : List (String × String) :=
  (raw.splitOn "&").filterMap fun part =>
    if part.isEmpty || part.contains ';' then none
    else
      let (k, v) := match part.splitOn "=" with
        | k :: rest => (k, "=".intercalate rest)
        | [] => ("", "")
      match unescape? true k, unescape? true v with
      | some k, some v => some (k, v)
      | _, _ => none

def param (params : List (String × String)) (key : String) : String :=
  match params.find? (·.1 == key) with
  | some (_, v) => v
  | none => ""

/-- A request target: the bytes of its path with escapes read, and its raw query. -/
structure Target where
  pathBytes : List Nat
  query : String
  deriving Repr, Inhabited

def Target.path (t : Target) : String := String.ofList (Utf8.decodeLossy t.pathBytes)

def Target.segments (t : Target) : List (List Nat) := List.splitOn 47 t.pathBytes

/-- Splits a target at its first `?` and reads the escapes of the path; `none` when the path
holds a bad escape. -/
def Target.parse? (target : String) : Option Target :=
  let (rawPath, query) := match target.splitOn "?" with
    | p :: rest => (p, "?".intercalate rest)
    | [] => ("", "")
  (unescapeBytes false rawPath.toList).map fun path => ⟨path, query⟩

/-- The clean form of a path: rooted, with empty and `.` segments removed, each `..` taking the
segment before it away, and a trailing slash kept. -/
def cleanPath (p : String) : String :=
  if p.isEmpty then "/" else
  let p := if p.startsWith "/" then p else "/" ++ p
  let kept := (p.splitOn "/").foldl (fun acc s =>
    if s.isEmpty || s == "." then acc
    else if s == ".." then acc.drop 1
    else s :: acc) []
  let np := "/" ++ "/".intercalate kept.reverse
  if p.endsWith "/" && np != "/" then np ++ "/" else np

end Bonding.Web
