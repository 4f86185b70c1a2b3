import Bonding.Console.Probe
import Bonding.Console.Storage

/-!
The shapes of requests and steps. Every member a request or a step may carry has a kind, and
a request or step is read as a whole before anything is done with it. Members are matched to
names as records match them, and unknown members are skipped. A request has a few plain members
whatever its operation, and one of the wrong kind makes any request undecodable; the other
members are checked only for the operation that reads them. A step is checked as a whole, save
its funds and coins. Some members (a message, a genesis document, a query) are taken as they are
and checked only where they are used.
-/

namespace Bonding

namespace Console

def anyDocument : Json.Decoder Unit := fun old _ => pure old

def textMap : Json.Decoder Unit := fun old j =>
  match j with
  | .obj ms => ms.foldlM (fun s (k, v) => Json.under (.field k) (Json.text "" v) *> pure s) old
  | .null => pure old
  | j => do Json.mismatch (Json.kindName j) "map[string]string"; pure old

def slot {α : Type} (name : String) (d : Json.Decoder α) (zero : α) : Json.Field Unit :=
  ⟨name, fun s j => do let _ ← d zero j; pure s⟩

def textSlot (name : String) : Json.Field Unit := slot name Json.text ""

def recordList (fields : List (Json.Field Unit)) (typeName : String) : Json.Decoder Unit :=
  fun old j => do let _ ← Json.list (Json.record "" fields) () typeName none j; pure old

def defaultGenesisShape : List (Json.Field Unit) := [textSlot "admin", textSlot "treasury"]

/-- The shape of a step. Funds and coins are taken as they are, and decoded only by the steps
that move them. -/
def stepShape : List (Json.Field Unit) :=
  ["do", "sender", "contract", "from", "to", "address", "denom", "trace", "method", "path",
      "body", "spec", "genesis_yaml", "time"].map textSlot ++
  [slot "seconds" Json.signedWord64 0, slot "amount" Json.signedWord64 0,
    slot "limit" Json.machineInt 0, slot "start" Json.truth false,
    slot "addresses" (Json.list Json.text "" "[]string") none,
    slot "denoms" (Json.list Json.text "" "[]string") none,
    slot "headers" textMap (),
    slot "default_genesis" (Json.record "" defaultGenesisShape) (),
    slot "genesis" anyDocument (), slot "msg" anyDocument (), slot "query" anyDocument ()]

def entryShape : List (Json.Field Unit) :=
  ["component", "level", "msg"].map textSlot ++ [slot "fields" textMap ()]

def runRequestShape : List (Json.Field Unit) := ["method", "path", "body"].map textSlot

def runShape : List (Json.Field Unit) :=
  ["binary", "dotenv", "listen"].map textSlot ++
  [slot "env" textMap (), slot "files" textMap (),
    slot "requests" (recordList runRequestShape "[]request") ()]

/-- The shape every request has, whatever its operation: its plain members. Members that hold
amounts, records or documents are taken as they are here. -/
def requestShape : List (Json.Field Unit) :=
  ["op", "name", "contract", "yaml", "denom", "now"].map textSlot ++
  [slot "precision" Json.machineInt 0, slot "vesting_term" Json.word 0,
    slot "trust_period" Json.word 0]

/-- The members an operation reads, with their kinds, beyond those every request has. -/
def operationShape : String → List (Json.Field Unit)
  | "scenario" => [slot "steps" (Json.list anyDocument () "[]json.RawMessage") none]
  | "current_price" => [slot "terms" TermsInput.decoder {}, slot "ratio" Json.decimal none]
  | "decay_amount" => [slot "debt" debtDecoder (none, Instant.unset)]
  | "vesting" => [slot "position" PositionInput.decoder {}]
  | "quote_fresh" => [slot "quote" Quote.decoder {}]
  | "one_coin" => [slot "funds" Coins.decoder []]
  | "display" | "int_to_float" => [slot "amount" Json.amount none]
  | "dec_to_float" => [slot "dec" Json.decimal none]
  | "load_genesis" => [slot "files" textMap (), textSlot "path"]
  | "load_config" => [slot "env" textMap ()]
  | "logger" => [textSlot "level", textSlot "format",
      slot "entries" (recordList entryShape "[]entry") ()]
  | "open_store" => [textSlot "backend"]
  | "open_postgres" => [slot "config" Postgres.Config.decoder ⟨"", 0, "", "", "", ""⟩]
  | "sqlite" => [textSlot "path"]
  | "process" => [textSlot "inspect", slot "runs" (recordList runShape "[]run") ()]
  | _ => []

def hasShape (fields : List (Json.Field Unit)) (j : Json) : Bool :=
  (Json.decodeWith (Json.record "" fields) () j).toOption.isSome

end Console

end Bonding
