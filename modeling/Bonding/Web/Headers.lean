/-!
Header tables. A header name is kept under a key: a name of token characters in canonical form,
with the first letter and every letter after a dash in upper case and the other letters in lower
case, and any other name as it is. A table keeps, for each key in the order keys first came, its
values in the order they came. Looking a name up gives the first value of its key.
-/

namespace Bonding.Web

def isTokenChar (c : Char) : Bool :=
  c.isAlphanum || "!#$%&'*+-.^_`|~".toList.contains c

/-- A name in canonical form: upper case at the start and after each dash, lower case
elsewhere. -/
def canonicalName (name : String) : String :=
  let step (acc : List Char × Bool) (c : Char) : List Char × Bool :=
    let c := if acc.2 && 'a' ≤ c && c ≤ 'z' then Char.ofNat (c.toNat - 32)
      else if !acc.2 && 'A' ≤ c && c ≤ 'Z' then Char.ofNat (c.toNat + 32)
      else c
    (c :: acc.1, c == '-')
  String.ofList (name.toList.foldl step ([], true)).1.reverse

/-- The key of a header name: its canonical form when it holds only token characters, the name
itself otherwise. -/
def headerKey (name : String) : String :=
  if name.toList.all isTokenChar then canonicalName name else name

/-- A table of headers: each key with its values in the order they came. -/
structure Headers where
  entries : List (String × List String)
  deriving Repr, Inhabited, DecidableEq

namespace Headers

def empty : Headers := ⟨[]⟩

def values (h : Headers) (key : String) : List String :=
  ((h.entries.find? (·.1 == key)).map (·.2)).getD []

def add (h : Headers) (key value : String) : Headers :=
  if h.entries.any (·.1 == key) then
    ⟨h.entries.map fun (k, vs) => if k == key then (k, vs ++ [value]) else (k, vs)⟩
  else ⟨h.entries ++ [(key, [value])]⟩

def set (h : Headers) (name value : String) : Headers :=
  let key := headerKey name
  if h.entries.any (·.1 == key) then
    ⟨h.entries.map fun (k, vs) => if k == key then (k, [value]) else (k, vs)⟩
  else ⟨h.entries ++ [(key, [value])]⟩

def get? (h : Headers) (name : String) : Option String := (h.values (headerKey name)).head?

end Headers

end Bonding.Web
