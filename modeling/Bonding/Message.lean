import Bonding.Bond.Types
import Bonding.Staking.Types
import Bonding.Oracle.Types

/-!
Execute messages: the calls each contract accepts. On the wire a message is an object with one
member, named for the message type, whose value is the body: `{"deposit": {"max_price": "2.5"}}`.
Reading checks the contract, then the envelope, then the type, then the body; a body that does not
decode is reported as `decoding <type>`. Writing gives back an envelope whose body has every field,
with unset optional fields left out.
-/

namespace Bonding

/-- The contract names. -/
inductive ContractName where
  | bond
  | staking
  | oracle
  deriving Repr, DecidableEq, Inhabited

def ContractName.name : ContractName → String
  | .bond => "bond"
  | .staking => "staking"
  | .oracle => "oracle"

def ContractName.ofName? : String → Option ContractName
  | "bond" => some .bond
  | "staking" => some .staking
  | "oracle" => some .oracle
  | _ => none

/-- The changes of a bond configuration update; unset fields are kept. -/
structure BondConfigUpdate where
  usd : Option String := none
  principal : Option String := none
  admin : Option String := none
  treasury : Option String := none
  oracleTrustPeriod : Option Nat := none
  floorRelief : Option Bool := none
  minPayout : Option Int := none
  deriving Repr, DecidableEq, Inhabited

/-- The changes of an adjustment update; unset fields are kept. -/
structure AdjustmentUpdate where
  add : Option Bool := none
  rate : Option Dec := none
  target : Option Dec := none
  buffer : Option Nat := none
  deriving Repr, DecidableEq, Inhabited

/-- The changes of a staking configuration update; unset fields are kept. -/
structure StakingConfigUpdate where
  admin : Option String := none
  epochLength : Option Nat := none
  epochApr : Option Dec := none
  warmupLength : Option Nat := none
  minters : Option (List String) := none
  pointsEnabled : Option Bool := none
  deriving Repr, DecidableEq, Inhabited

/-- A call into a contract. -/
inductive ExecuteMsg where
  | deposit (maxPrice : Option Dec) (depositor : String)
  | redeem (recipient : String) (stake : Bool)
  | updateTerms (terms : TermsInput)
  | updateBondConfig (update : BondConfigUpdate)
  | updateAdjustment (update : AdjustmentUpdate)
  | stake (recipient : String)
  | unstake (recipient : String)
  | claim (recipient : String)
  | rebase
  | mint (recipient : String) (amount : Option Int)
  | updateStakingConfig (update : StakingConfigUpdate)
  | jail (address : String) (jailed : Bool)
  | registerFeeder (denom feeder : String)
  | feedPrice (prices : Option (List PriceFeed))
  deriving Repr, Inhabited

namespace ExecuteMsg

def contract : ExecuteMsg → ContractName
  | .deposit .. | .redeem .. | .updateTerms .. | .updateBondConfig .. | .updateAdjustment .. => .bond
  | .stake .. | .unstake .. | .claim .. | .rebase | .mint .. | .updateStakingConfig .. | .jail .. => .staking
  | .registerFeeder .. | .feedPrice .. => .oracle

/-- The type name of a message. -/
def typeName : ExecuteMsg → String
  | .deposit .. => "deposit"
  | .redeem .. => "redeem"
  | .updateTerms .. => "update_terms"
  | .updateBondConfig .. => "update_config"
  | .updateAdjustment .. => "update_adjustment"
  | .stake .. => "stake"
  | .unstake .. => "unstake"
  | .claim .. => "claim"
  | .rebase => "rebase"
  | .mint .. => "mint"
  | .updateStakingConfig .. => "update_config"
  | .jail .. => "jail"
  | .registerFeeder .. => "register_feeder"
  | .feedPrice .. => "feed_price"

def opt {α : Type} (name : String) (f : α → Json) : Option α → List (String × Json)
  | some v => [(name, f v)]
  | none => []

/-- The body of a message as written back: every field, unset optional fields left out. -/
def body : ExecuteMsg → Json
  | .deposit p d => .obj [("max_price", Dec.toJson? p), ("depositor", .str d)]
  | .redeem r s => .obj [("recipient", .str r), ("stake", .bool s)]
  | .updateTerms t => .obj [("terms", t.toJson)]
  | .updateBondConfig u => .obj (opt "usd" .str u.usd ++ opt "principal" .str u.principal ++
      opt "admin" .str u.admin ++ opt "treasury" .str u.treasury ++
      opt "oracle_trust_period" Json.ofNat u.oracleTrustPeriod ++ opt "floor_relief" .bool u.floorRelief ++
      opt "min_payout" Int256.toJson u.minPayout)
  | .updateAdjustment u => .obj (opt "add" .bool u.add ++ opt "rate" Dec.toJson u.rate ++
      opt "target" Dec.toJson u.target ++ opt "buffer" Json.ofNat u.buffer)
  | .stake r => .obj [("to", .str r)]
  | .unstake r => .obj [("to", .str r)]
  | .claim r => .obj (if r.isEmpty then [] else [("recipient", .str r)])
  | .rebase => .obj []
  | .mint r a => .obj [("to", .str r), ("amount", Int256.toJson? a)]
  | .updateStakingConfig u => .obj (opt "admin" .str u.admin ++ opt "epoch_length" Json.ofNat u.epochLength ++
      opt "epoch_apr" Dec.toJson u.epochApr ++ opt "warmup_length" Json.ofNat u.warmupLength ++
      (match u.minters with
       | some (m :: ms) => [("minters", .arr ((m :: ms).map Json.str))]
       | _ => []) ++
      opt "points_enabled" .bool u.pointsEnabled)
  | .jail a j => .obj [("address", .str a), ("jailed", .bool j)]
  | .registerFeeder d f => .obj [("denom", .str d), ("feeder", .str f)]
  | .feedPrice ps => .obj [("prices", Json.ofList? PriceFeed.toJson ps)]

def encode (m : ExecuteMsg) : Json := .obj [(m.typeName, m.body)]

end ExecuteMsg

namespace Json

def nullable {α : Type} (d : Decoder (Option α)) : Decoder (Option α) := fun old j =>
  match j with
  | .null => pure none
  | j => d old j

def optText : Decoder (Option String) := optional text ""

def optWord : Decoder (Option Nat) := optional word 0

def optTruth : Decoder (Option Bool) := optional truth false

end Json

namespace ExecuteMsg

def depositDecoder : Json.Decoder (Option Dec × String) := Json.record "types.DepositMsg" [
  Json.field "max_price" Json.decimal (·.1) fun c v => (v, c.2),
  Json.field "depositor" Json.text (·.2) fun c v => (c.1, v)]

def redeemDecoder : Json.Decoder (String × Bool) := Json.record "types.RedeemMsg" [
  Json.field "recipient" Json.text (·.1) fun c v => (v, c.2),
  Json.field "stake" Json.truth (·.2) fun c v => (c.1, v)]

def updateTermsDecoder : Json.Decoder TermsInput := Json.record "types.UpdateTermsMsg" [
  Json.field "terms" TermsInput.decoder id fun _ v => v]

def bondConfigUpdateDecoder : Json.Decoder BondConfigUpdate := Json.record "types.UpdateBondConfigMsg" [
  Json.field "usd" Json.optText (·.usd) fun c v => { c with usd := v },
  Json.field "principal" Json.optText (·.principal) fun c v => { c with principal := v },
  Json.field "admin" Json.optText (·.admin) fun c v => { c with admin := v },
  Json.field "treasury" Json.optText (·.treasury) fun c v => { c with treasury := v },
  Json.field "oracle_trust_period" Json.optWord (·.oracleTrustPeriod) fun c v => { c with oracleTrustPeriod := v },
  Json.field "floor_relief" Json.optTruth (·.floorRelief) fun c v => { c with floorRelief := v },
  Json.field "min_payout" (Json.nullable Json.amount) (·.minPayout) fun c v => { c with minPayout := v }]

def adjustmentUpdateDecoder : Json.Decoder AdjustmentUpdate := Json.record "types.UpdateAdjustmentMsg" [
  Json.field "add" Json.optTruth (·.add) fun c v => { c with add := v },
  Json.field "rate" (Json.nullable Json.decimal) (·.rate) fun c v => { c with rate := v },
  Json.field "target" (Json.nullable Json.decimal) (·.target) fun c v => { c with target := v },
  Json.field "buffer" Json.optWord (·.buffer) fun c v => { c with buffer := v }]

def textBody (typeName field : String) : Json.Decoder String :=
  Json.record typeName [Json.field field Json.text id fun _ v => v]

def mintDecoder : Json.Decoder (String × Option Int) := Json.record "types.MintMsg" [
  Json.field "to" Json.text (·.1) fun c v => (v, c.2),
  Json.field "amount" Json.amount (·.2) fun c v => (c.1, v)]

def stakingConfigUpdateDecoder : Json.Decoder StakingConfigUpdate :=
  Json.record "types.UpdateStakingConfigMsg" [
  Json.field "admin" Json.optText (·.admin) fun c v => { c with admin := v },
  Json.field "epoch_length" Json.optWord (·.epochLength) fun c v => { c with epochLength := v },
  Json.field "epoch_apr" (Json.nullable Json.decimal) (·.epochApr) fun c v => { c with epochApr := v },
  Json.field "warmup_length" Json.optWord (·.warmupLength) fun c v => { c with warmupLength := v },
  Json.field "minters" (Json.list Json.text "" "[]string") (·.minters) fun c v => { c with minters := v },
  Json.field "points_enabled" Json.optTruth (·.pointsEnabled) fun c v => { c with pointsEnabled := v }]

def jailDecoder : Json.Decoder (String × Bool) := Json.record "types.JailMsg" [
  Json.field "address" Json.text (·.1) fun c v => (v, c.2),
  Json.field "jailed" Json.truth (·.2) fun c v => (c.1, v)]

def registerFeederDecoder : Json.Decoder (String × String) := Json.record "types.RegisterFeederMsg" [
  Json.field "denom" Json.text (·.1) fun c v => (v, c.2),
  Json.field "feeder" Json.text (·.2) fun c v => (c.1, v)]

def feedPriceDecoder : Json.Decoder (Option (List PriceFeed)) := Json.record "types.FeedPriceMsg" [
  Json.field "prices" (Json.list PriceFeed.decoder {} "[]types.PriceFeed") id fun _ v => v]

def decodeBody {α : Type} (d : Json.Decoder α) (zero : α) (j : Json) : Option α :=
  match j with
  | .null => some zero
  | j => (Json.decodeWith d zero j).toOption

/-- The message of a type of a contract from its body, if the type exists; the inner `none` is a
body that does not decode. -/
def ofBody? (c : ContractName) (ty : String) (j : Json) : Option (Option ExecuteMsg) :=
  match c, ty with
  | .bond, "deposit" => some ((decodeBody depositDecoder (none, "") j).map fun (p, d) => .deposit p d)
  | .bond, "redeem" => some ((decodeBody redeemDecoder ("", false) j).map fun (r, s) => .redeem r s)
  | .bond, "update_terms" => some ((decodeBody updateTermsDecoder {} j).map .updateTerms)
  | .bond, "update_config" => some ((decodeBody bondConfigUpdateDecoder {} j).map .updateBondConfig)
  | .bond, "update_adjustment" => some ((decodeBody adjustmentUpdateDecoder {} j).map .updateAdjustment)
  | .staking, "stake" => some ((decodeBody (textBody "types.StakeMsg" "to") "" j).map .stake)
  | .staking, "unstake" => some ((decodeBody (textBody "types.UnstakeMsg" "to") "" j).map .unstake)
  | .staking, "claim" => some ((decodeBody (textBody "types.ClaimMsg" "recipient") "" j).map .claim)
  | .staking, "rebase" => some ((decodeBody (Json.record "types.RebaseMsg" []) () j).map fun _ => .rebase)
  | .staking, "mint" => some ((decodeBody mintDecoder ("", none) j).map fun (t, a) => .mint t a)
  | .staking, "update_config" =>
    some ((decodeBody stakingConfigUpdateDecoder {} j).map .updateStakingConfig)
  | .staking, "jail" => some ((decodeBody jailDecoder ("", false) j).map fun (a, b) => .jail a b)
  | .oracle, "register_feeder" =>
    some ((decodeBody registerFeederDecoder ("", "") j).map fun (d, f) => .registerFeeder d f)
  | .oracle, "feed_price" => some ((decodeBody feedPriceDecoder none j).map .feedPrice)
  | _, _ => none

/-- Reads a message addressed to a contract by name; `none` is a request without a message
document, which does not decode. -/
def decode (contract : String) (raw : Option Json) : Result ExecuteMsg := do
  let some c := ContractName.ofName? contract
    | throw (.wrap .unknownMessage ("unknown contract " ++ quoteLiteral contract))
  let some members := raw.bind Json.members?
    | throw (.error (some .invalidInput) "decoding message")
  match members with
  | [(ty, body)] =>
    match ofBody? c ty body with
    | none => throw (.wrap .unknownMessage (contract ++ " has no message " ++ quoteLiteral ty))
    | some none => throw (.error (some .invalidInput) ("decoding " ++ ty))
    | some (some m) => pure m
  | ms => throw (.wrap .invalidInput ("message must have exactly one type key, got " ++ toString ms.length))

end ExecuteMsg

end Bonding
