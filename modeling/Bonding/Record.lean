import Bonding.Fault
import Bonding.Time.Instant
import Bonding.Json.Value
import Bonding.Number.Decimal

/-!
Contract records are kept as JSON, and a JSON instant has a year from 0 to 9999 on its clock and a
clock less than 24 hours from UTC. A record holding another instant cannot be written: the write
fails, and with it the call. Records without instants can always be written.
-/

namespace Bonding

def Instant.firstJsonFault? (times : List Instant) : Option String :=
  times.findSome? Instant.jsonFault?

def Record.encodeFaultText (reason : String) : String := Instant.marshalFault reason

def Record.timeFault (reason : String) : Fault :=
  .plain ("collections: encoding error: value encode: " ++ Record.encodeFaultText reason)

def Record.checkTimes (times : List Instant) : Result Unit :=
  match Instant.firstJsonFault? times with
  | none => .ok ()
  | some reason => .error (Record.timeFault reason)

def Instant.toJson (t : Instant) : Json := .str t.rfc3339Nano

def Dec.toJson? : Option Dec → Json
  | some d => .str d.render
  | none => .str "0"

def Dec.toJson (d : Dec) : Json := .str d.render

def Int256.toJson? : Option Int → Json
  | some i => .str (Int256.render i)
  | none => .str "0"

def Int256.toJson (i : Int) : Json := .str (Int256.render i)

def Json.ofList? {α : Type} (f : α → Json) : Option (List α) → Json
  | some xs => .arr (xs.map f)
  | none => .null

end Bonding
