/-!
Why a call fails. A failure is either an error, which carries the class it belongs to and its
message, or a panic, which unwinds every caller untouched. Callers add context to an error by
putting `context: ` in front of its message; the class stays the one it was raised with.
-/

namespace Bonding

/-- The classes of failure that clients tell apart, in the order a failure is classified. -/
inductive Sentinel where
  | unauthorized
  | invalidInput
  | slippageExceeded
  | maxDebtReached
  | bondTooSmall
  | bondTooLarge
  | noPosition
  | noWarmupEntry
  | nothingToRedeem
  | stalePrice
  | arithmetic
  | insufficientBalance
  | priceNotFound
  | notInstantiated
  | unknownMessage
  | conversionFailed
  | invalidPrecision
  | amountNil
  | amountNegative
  | notFinite
  deriving Repr, DecidableEq, Inhabited

namespace Sentinel

/-- The text a class contributes at the end of a message. -/
def text : Sentinel → String
  | .unauthorized => "unauthorized"
  | .invalidInput => "invalid input"
  | .slippageExceeded => "slippage limit: more than max price"
  | .maxDebtReached => "max capacity reached"
  | .bondTooSmall => "bond too small"
  | .bondTooLarge => "bond too large"
  | .noPosition => "no bond position"
  | .noWarmupEntry => "no warmup entry"
  | .nothingToRedeem => "nothing to redeem"
  | .stalePrice => "price data is too old for bonding"
  | .arithmetic => "arithmetic error"
  | .insufficientBalance => "insufficient balance"
  | .priceNotFound => "price not found"
  | .notInstantiated => "contract not instantiated"
  | .unknownMessage => "unknown message"
  | .conversionFailed => "conversion failed"
  | .invalidPrecision => "precision is invalid"
  | .amountNil => "amount is nil"
  | .amountNegative => "amount is negative"
  | .notFinite => "value is not finite"

/-- The name clients see for a class. -/
def name : Sentinel → String
  | .unauthorized => "Unauthorized"
  | .invalidInput => "InvalidInput"
  | .slippageExceeded => "SlippageExceeded"
  | .maxDebtReached => "MaxDebtReached"
  | .bondTooSmall => "BondTooSmall"
  | .bondTooLarge => "BondTooLarge"
  | .noPosition => "NoPosition"
  | .noWarmupEntry => "NoWarmupEntry"
  | .nothingToRedeem => "NothingToRedeem"
  | .stalePrice => "StalePrice"
  | .arithmetic => "Arithmetic"
  | .insufficientBalance => "InsufficientBalance"
  | .priceNotFound => "PriceNotFound"
  | .notInstantiated => "NotInstantiated"
  | .unknownMessage => "UnknownMessage"
  | .conversionFailed => "ConversionFailed"
  | .invalidPrecision => "InvalidPrecision"
  | .amountNil => "AmountNil"
  | .amountNegative => "AmountNegative"
  | .notFinite => "NotFinite"

end Sentinel

/-- A failed computation: an error of a class (or of none) with its message, or a panic. -/
inductive Fault where
  | error (sentinel : Option Sentinel) (message : String)
  | panic (value : String)
  deriving Repr, DecidableEq, Inhabited

namespace Fault

def wrap (s : Sentinel) (detail : String) : Fault := .error (some s) (detail ++ ": " ++ s.text)

def bare (s : Sentinel) : Fault := .error (some s) s.text

def plain (message : String) : Fault := .error none message

def context (ctx : String) : Fault → Fault
  | .error s m => .error s (ctx ++ ": " ++ m)
  | .panic v => .panic v

def message : Fault → String
  | .error _ m => m
  | .panic v => v

def sentinel? : Fault → Option Sentinel
  | .error s _ => s
  | .panic _ => none

@[simp] theorem context_panic (ctx v : String) : (Fault.panic v).context ctx = .panic v := rfl

end Fault

abbrev Result (α : Type) := Except Fault α

def Result.context {α : Type} (ctx : String) (r : Result α) : Result α :=
  r.mapError (Fault.context ctx)

end Bonding
