import Bonding.Json.Value
import Bonding.Number.Int256
import Bonding.Number.Decimal
import Bonding.Time.Rfc3339
import Bonding.Text.Quoted

/-!
Decoding JSON documents into typed values by the rules of the protocol's reader:

* a document is decoded *into* a value that already exists, so a member that repeats is applied on
  top of the earlier one, and a list decodes item by item into the items already there;
* object members match fields by exact name first and otherwise ignoring case;
  unknown members are skipped;
* `null` leaves a value unchanged, except an optional value or a list, which it clears;
* a document of the wrong kind is a mismatch: decoding goes on and the first mismatch is reported
  at the end; a value that reads itself (amounts, decimals, instants) refuses bad text, and a
  refusal stops decoding at once.
-/

namespace Bonding.Json

/-- One step of the path from the top document to the value being decoded. -/
inductive PathStep where
  /-- the member of a record field -/
  | field (name : String)
  /-- the item at a position of a list -/
  | index (n : Nat)
  deriving Repr, DecidableEq

def PathStep.text : PathStep → String
  | .field name => name
  | .index n => toString n

/-- Why a document does not decode. -/
inductive DecodeError where
  /-- a document of kind `found` where a `target` was expected, at the path `path` -/
  | mismatch (found : String) (target : String) (path : List PathStep)
  /-- a self-reading value refused its text -/
  | refused (message : String)
  deriving Repr, DecidableEq

abbrev DecodeM := ReaderT (List PathStep) (StateT (Option DecodeError) (Except DecodeError))

abbrev Decoder (α : Type) := α → Json → DecodeM α

def kindName : Json → String
  | .null => "null"
  | .bool _ => "bool"
  | .num _ => "number"
  | .str _ => "string"
  | .arr _ => "array"
  | .obj _ => "object"

def mismatch (found target : String) : DecodeM Unit := do
  let path ← read
  modify fun saved => saved.orElse fun _ => some (.mismatch found target path)

def refuse {α : Type} (message : String) : DecodeM α := throw (.refused message)

def under {α : Type} (step : PathStep) (m : DecodeM α) : DecodeM α :=
  withReader (· ++ [step]) m

def text : Decoder String := fun old j =>
  match j with
  | .str s => pure s
  | .null => pure old
  | j => do mismatch (kindName j) "string"; pure old

def truth : Decoder Bool := fun old j =>
  match j with
  | .bool b => pure b
  | .null => pure old
  | j => do mismatch (kindName j) "bool"; pure old

def digitsValue? (cs : List Char) : Option Nat :=
  if cs.isEmpty || !cs.all Char.isDigit then none
  else some (cs.foldl (fun a c => a * 10 + (c.toNat - '0'.toNat)) 0)

def unsignedText? (t : String) (bound : Nat) : Option Nat :=
  match digitsValue? t.toList with
  | some n => if n < bound then some n else none
  | none => none

/-- A number text that is a plain signed integer within `[-bound, bound)`. -/
def signedText? (t : String) (bound : Nat) : Option Int :=
  match t.toList with
  | '-' :: r =>
    match digitsValue? r with
    | some n => if n ≤ bound then some (-(n : Int)) else none
    | none => none
  | r =>
    match digitsValue? r with
    | some n => if n < bound then some n else none
    | none => none

def unsigned (bits : Nat) (typeName : String) : Decoder Nat := fun old j =>
  match j with
  | .num t =>
    match unsignedText? t (Nat.pow 2 bits) with
    | some n => pure n
    | none => do mismatch ("number " ++ t) typeName; pure old
  | .null => pure old
  | j => do mismatch (kindName j) typeName; pure old

def signed (bits : Nat) (typeName : String) : Decoder Int := fun old j =>
  match j with
  | .num t =>
    match signedText? t (Nat.pow 2 (bits - 1)) with
    | some n => pure n
    | none => do mismatch ("number " ++ t) typeName; pure old
  | .null => pure old
  | j => do mismatch (kindName j) typeName; pure old

def word : Decoder Nat := unsigned 64 "uint64"

def signedWord64 : Decoder Int := signed 64 "int64"

def machineInt : Decoder Int := signed 64 "int"

def selfText (j : Json) : DecodeM String :=
  match j with
  | .str s => pure s
  | .null => pure ""
  | j => refuse ("json: cannot unmarshal " ++ kindName j ++ " into Go value of type string")

def amount : Decoder (Option Int) := fun _ j => do
  let s ← selfText j
  match Int256.readLiteral s 0 with
  | some x => if Int256.fits x then pure (some x) else refuse ("integer out of range: " ++ s)
  | none => refuse ("math/big: cannot unmarshal " ++ quoteLiteral s ++ " into a *big.Int")

def decimal : Decoder (Option Dec) := fun _ j => do
  let s ← selfText j
  match Dec.read s with
  | .ok d => pure (some d)
  | .error e => refuse e.message

def instant : Decoder Instant := fun old j =>
  match j with
  | .null => pure old
  | .str s =>
    match Instant.read s with
    | .ok t => pure t
    | .error e => refuse e.message
  | j => do mismatch (kindName j) "time.Time"; pure old

def optional {α : Type} (inner : Decoder α) (zero : α) : Decoder (Option α) := fun old j =>
  match j with
  | .null => pure none
  | j => do pure (some (← inner (old.getD zero) j))

/-- A list that may be unset: `null` unsets it, an array decodes item by item into the items
already there. -/
def list {α : Type} (item : Decoder α) (zero : α) (typeName : String) : Decoder (Option (List α)) :=
  fun old j =>
    match j with
    | .null => pure none
    | .arr xs => do
      let olds := old.getD []
      let rec loop : List Json → Nat → DecodeM (List α)
        | [], _ => pure []
        | x :: rest, i => do
          let v ← under (.index i) (item (olds.getD i zero) x)
          pure (v :: (← loop rest (i + 1)))
      pure (some (← loop xs 0))
    | j => do mismatch (kindName j) typeName; pure old

def foldChar (c : Char) : Char :=
  if c.toNat == 0x212A then 'K'
  else if c.toNat == 0x17F then 'S'
  else c.toUpper

def sameFolded (a b : String) : Bool := a.toList.map foldChar == b.toList.map foldChar

/-- A field of a record: its member name and how a member updates the record. -/
structure Field (σ : Type) where
  name : String
  apply : σ → Json → DecodeM σ

def Field.lookup {σ : Type} (fields : List (Field σ)) (key : String) : Option (Field σ) :=
  match fields.find? (·.name == key) with
  | some f => some f
  | none => fields.find? fun f => sameFolded f.name key

def record {σ : Type} (typeName : String) (fields : List (Field σ)) : Decoder σ := fun old j =>
  match j with
  | .obj ms => ms.foldlM (fun s (k, v) =>
      match Field.lookup fields k with
      | some f => under (.field f.name) (f.apply s v)
      | none => pure s) old
  | .null => pure old
  | j => do mismatch (kindName j) typeName; pure old

def field {σ α : Type} (name : String) (d : Decoder α) (get : σ → α) (set : σ → α → σ) : Field σ :=
  ⟨name, fun s j => do pure (set s (← d (get s) j))⟩

/-- The members of an object with the later of two equal keys winning, in first-seen key order;
`none` for a document that is not an object, `some []` for `null`. -/
def members? : Json → Option (List (String × Json))
  | .obj ms => some (ms.foldl (fun acc (k, v) =>
      if acc.any (·.1 == k) then acc.map fun (k', v') => if k' == k then (k', v) else (k', v')
      else acc ++ [(k, v)]) [])
  | .null => some []
  | _ => none

/-- Where a mismatch happened: the top type for an empty path, a struct field when the path ends at
a field, and the bare path when it ends at a list item. -/
def placeText (top : String) (path : List PathStep) : String :=
  let dotted := top ++ "." ++ ".".intercalate (path.map PathStep.text)
  match path.getLast? with
  | none => "Go value"
  | some (.field _) => "Go struct field " ++ dotted
  | some (.index _) => dotted

def DecodeError.message (top : String) : DecodeError → String
  | .refused m => m
  | .mismatch found target path =>
    "json: cannot unmarshal " ++ found ++ " into " ++ placeText top path ++ " of type " ++ target

def decodeWith {α : Type} (d : Decoder α) (start : α) (j : Json) : Except DecodeError α :=
  match (d start j).run [] |>.run none with
  | .ok (v, none) => .ok v
  | .ok (_, some e) => .error e
  | .error e => .error e

end Bonding.Json
