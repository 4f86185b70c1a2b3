import Bonding.Message

/-!
What a contract handler returns: events describing what happened, and effects the host carries out
afterwards in order — moving, minting or burning coins, or calling another contract with the
emitting contract's account as sender. The accounts of the contracts are named accounts.
-/

namespace Bonding

/-- A typed event with its attributes in order. -/
structure Event where
  kind : String
  attributes : List (String × String)
  deriving Repr, DecidableEq, Inhabited

namespace Event

def toJson (e : Event) : Json :=
  .obj [("type", .str e.kind), ("attributes", .arr (e.attributes.map fun (k, v) => .arr [.str k, .str v]))]

def toObjectJson (e : Event) : Json :=
  .obj [("type", .str e.kind), ("attributes", .arr (e.attributes.map fun (k, v) =>
    .obj [("key", .str k), ("value", .str v), ("index", .bool false)]))]

def attr (e : Event) (key : String) : String :=
  ((e.attributes.find? (·.1 == key)).map (·.2)).getD ""

end Event

/-- A side effect a handler asks the host to carry out. -/
inductive Effect where
  | send (src dst : String) (coins : Coins)
  | mint (coin : Coin) (recipient : String)
  | burn (holder : String) (coin : Coin)
  | execute (funds : Coins) (msg : ExecuteMsg)
  deriving Repr, Inhabited

def Effect.kindName : Effect → String
  | .send .. => "send"
  | .mint .. => "mint"
  | .burn .. => "burn"
  | .execute .. => "execute"

/-- A handler's answer: the effects to carry out and the events to report. -/
structure Response where
  effects : List Effect := []
  events : List Event := []
  deriving Repr, Inhabited

def Response.ofEvent (kind : String) (attrs : List (String × String)) : Response :=
  { events := [⟨kind, attrs⟩] }

def bondAccount : String := Address.ofName "bond"

def stakingAccount : String := Address.ofName "staking"

def warmupAccount : String := Address.ofName "staking_warmup"

def oracleAccount : String := Address.ofName "oracle"

def ContractName.account : ContractName → String
  | .bond => bondAccount
  | .staking => stakingAccount
  | .oracle => oracleAccount

/-- The context of a call: the block time (whole seconds) and the block height. -/
structure Env where
  now : Instant
  height : Nat
  deriving Repr, Inhabited

end Bonding
