import Bonding.Json.Decode
import Bonding.Fault
import Bonding.Record

/-!
Answers of the console and the members of its requests. An answer is `{"ok": value}` or
`{"error": kind, "message": text}`; the kind is the class of the failure, `Error` for a failure
of no class, `Panic` for a panic, and a request that does not decode is `{"error": "Decode"}`
without a message. A request member is found by its name, ignoring case; of repeated members the
last wins.
-/

namespace Bonding

def Fault.kind : Fault → String
  | .error (some s) _ => s.name
  | .error none _ => "Error"
  | .panic _ => "Panic"

namespace Reply

def ok (j : Json) : Json := .obj [("ok", j)]

def failure (f : Fault) : Json := .obj [("error", .str f.kind), ("message", .str f.message)]

def plain (message : String) : Json := failure (.plain message)

def undecodable : Json := .obj [("error", .str "Decode")]

def kind (k message : String) : Json := .obj [("error", .str k), ("message", .str message)]

/-- A successful answer holding instants, or the `Encode` failure of the first instant that cannot
be written as JSON. -/
def encoded (j : Json) (times : List Instant) : Json :=
  match Instant.firstJsonFault? times with
  | none => ok j
  | some reason => kind "Encode" (Record.encodeFaultText reason)

def ofResult (r : Result Json) : Json :=
  match r with
  | .ok j => ok j
  | .error f => failure f

end Reply

namespace Json

def member? (j : Json) (key : String) : Option Json :=
  match j with
  | .obj ms => ms.foldl (fun acc (k, v) => if sameFolded k key then some v else acc) none
  | _ => none

def read {α : Type} (j : Json) (key : String) (d : Decoder α) (zero : α) : Option α :=
  match j.member? key with
  | none => some zero
  | some v => (decodeWith d zero v).toOption

def readOpt {α : Type} (j : Json) (key : String) (d : Decoder α) (zero : α) : Option (Option α) :=
  match j.member? key with
  | none => some none
  | some .null => some none
  | some v => (decodeWith d zero v).toOption.map some

def readTexts (j : Json) (key : String) : Option (List String) :=
  (j.read key (list text "" "[]string") none).map (·.getD [])

end Json

end Bonding
