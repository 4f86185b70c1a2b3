/-!
Cross-origin requests. The API admits every origin, a list of methods and a list of request
headers. A preflight names the method and the headers a later request will use; the headers
arrive as one comma-separated list, which is admitted only in the canonical form browsers send:
lower-case names of the policy in sorted order, each at most once, with at most one blank on
either side of a name and a bounded number of empty elements.
-/

namespace Bonding.Web

/-- A cross-origin policy that admits every origin. -/
structure CorsPolicy where
  /-- the methods a request may use; `OPTIONS` is always admitted -/
  methods : List String
  /-- the request headers, lower-case and sorted -/
  headers : List String
  deriving Repr, Inhabited

/-- The policy of the API: `GET`, `POST` and `OPTIONS`, with the headers `Authorization` and
`Content-Type`. -/
def CorsPolicy.api : CorsPolicy := ⟨["GET", "POST", "OPTIONS"], ["authorization", "content-type"]⟩

def isListBlank (b : Nat) : Bool := b == 32 || b == 9

/-- Drops blanks from the front of bytes, `none` when more than `n` of them are followed by
more bytes; `dropped` counts the blanks already dropped. -/
def dropBlanks (n : Nat) : Nat → List Nat → Option (List Nat)
  | _, [] => some []
  | dropped, b :: rest =>
    if dropped > n then none
    else if isListBlank b then dropBlanks n (dropped + 1) rest
    else some (b :: rest)

def trimBlanks (n : Nat) (bs : List Nat) : Option (List Nat) :=
  if bs.isEmpty then some []
  else do
    let r ← dropBlanks n 0 bs.reverse
    dropBlanks n 0 r.reverse

/-- Splits bytes at the first comma among their first `n` bytes: the part before, what follows,
and whether a comma was found; with no comma the part is all of the bytes. -/
def cutAtComma (n : Nat) (bs : List Nat) : List Nat × List Nat × Bool :=
  match (bs.take n).findIdx? (· == 44) with
  | some i => (bs.take i, bs.drop (i + 1), true)
  | none => (bs, [], false)

def maxEmptyElements : Nat := 16

namespace CorsPolicy

def allowsMethod (p : CorsPolicy) (m : String) : Bool := m == "OPTIONS" || p.methods.contains m

def headerIndex? (p : CorsPolicy) (name : List Nat) : Option Nat :=
  p.headers.findIdx? fun h => h.toUTF8.toList.map UInt8.toNat == name

def longestHeader (p : CorsPolicy) : Nat := p.headers.foldl (fun m h => max m h.utf8ByteSize) 0

/-- Reads the elements of a header list from `bs`, with `last` the position of the last name read
and `empties` the empty elements so far; `fuel` bounds the elements, each of which uses a comma. -/
def acceptsFrom (p : CorsPolicy) : (fuel : Nat) → Option Nat → Nat → List Nat → Bool
  | 0, _, _, _ => true
  | fuel + 1, last, empties, bs =>
    let (part, rest, found) := cutAtComma (p.longestHeader + 3) bs
    match trimBlanks 1 part with
    | none => false
    | some [] =>
      if empties + 1 > maxEmptyElements then false
      else if found then p.acceptsFrom fuel last (empties + 1) rest
      else true
    | some name =>
      match p.headerIndex? name with
      | none => false
      | some pos =>
        if last.any (pos ≤ ·) then false
        else if found then p.acceptsFrom fuel (some pos) empties rest
        else true

def acceptsHeaders (p : CorsPolicy) (list : String) : Bool :=
  let bs := list.toUTF8.toList.map UInt8.toNat
  p.acceptsFrom (bs.length + 1) none 0 bs

end CorsPolicy

end Bonding.Web
