import Bonding.Text.Integer

/-!
The levels of log entries, from `trace` to `panic`, with their names, their three-letter labels
and the colours of those labels on a terminal. A node's level setting is read without regard to
case, and anything but `debug`, `warn` and `error` sets `info`; an entry is written when its
level is at least the node's.
-/

namespace Bonding.Log

/-- The level of a log entry. -/
inductive Level where
  | trace
  | debug
  | info
  | warn
  | error
  | fatal
  | panic
  deriving DecidableEq, Repr

namespace Level

def all : List Level := [trace, debug, info, warn, error, fatal, panic]

def rank : Level → Int
  | trace => -1
  | debug => 0
  | info => 1
  | warn => 2
  | error => 3
  | fatal => 4
  | panic => 5

def name : Level → String
  | trace => "trace"
  | debug => "debug"
  | info => "info"
  | warn => "warn"
  | error => "error"
  | fatal => "fatal"
  | panic => "panic"

def label : Level → String
  | trace => "TRC"
  | debug => "DBG"
  | info => "INF"
  | warn => "WRN"
  | error => "ERR"
  | fatal => "FTL"
  | panic => "PNC"

def color : Level → Nat
  | trace => 34
  | debug => 0
  | info => 32
  | warn => 33
  | error | fatal | panic => 31

def ofSetting (s : String) : Level :=
  match s.toLower with
  | "debug" => debug
  | "warn" => warn
  | "error" => error
  | _ => info

def ofEntry : String → Level
  | "debug" => debug
  | "warn" => warn
  | "error" => error
  | _ => info

def ofText? (s : String) : Option Level :=
  let lower := s.toLower
  match all.find? (·.name == lower) with
  | some l => some l
  | none =>
    match readInt64? s with
    | some r => all.find? (·.rank == r)
    | none => none

def admits (setting entry : Level) : Bool := setting.rank ≤ entry.rank

end Level

end Bonding.Log
