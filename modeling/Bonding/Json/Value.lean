/-!
JSON documents as the protocol reads and writes them. Numbers keep their literal text, so that a
reader can decide per field whether the text is an unsigned word, a signed word or a float, and
object members keep their order and their repeats, because a later repeat of a key is applied on
top of the earlier one.
-/

namespace Bonding

/-- A JSON document; numbers are kept as their literal text and members in document order. -/
inductive Json where
  | null
  | bool (b : Bool)
  | num (text : String)
  | str (s : String)
  | arr (items : List Json)
  | obj (members : List (String × Json))
  deriving Inhabited, Repr

namespace Json

def ofNat (n : Nat) : Json := .num (toString n)

def ofInt (i : Int) : Json :=
  if i < 0 then .num ("-" ++ toString i.natAbs) else .num (toString i.natAbs)

def field? (j : Json) (k : String) : Option Json :=
  match j with
  | .obj ms => (ms.find? (·.1 == k)).map (·.2)
  | _ => none

def isObj : Json → Bool
  | .obj _ => true
  | _ => false

def str? : Json → Option String
  | .str s => some s
  | _ => none

def withMembers (j : Json) (extra : List (String × Json)) : Json :=
  match j with
  | .obj ms => .obj (ms ++ extra)
  | other => other

def objOpt (ms : List (String × Option Json)) : Json :=
  .obj (ms.filterMap fun (k, v) => v.map (k, ·))

end Json

end Bonding
