import Bonding.Number.Binary64

/-!
The host's counters and gauges: calls by contract, message type and outcome, how many call
durations were observed per contract and type, and five gauges (height, outstanding debt, bond
price, exchange rate, epoch number) that start at zero. Every value is a double. The collectors
export as a flat map of series and as families sorted by name, each with its series in order of
their label values; the text exposition format writes the families line by line.
-/

namespace Bonding

/-- The host's metrics. -/
structure Metrics where
  calls : List ((String × String × String) × Nat) := []
  observed : List ((String × String) × Nat) := []
  height : Binary64 := Binary64.zero
  debt : Binary64 := Binary64.zero
  price : Binary64 := Binary64.zero
  rate : Binary64 := Binary64.zero
  epoch : Binary64 := Binary64.zero
  deriving Repr, Inhabited

def bump {κ : Type} [BEq κ] (xs : List (κ × Nat)) (k : κ) : List (κ × Nat) :=
  if xs.any (·.1 == k) then xs.map fun (k', n) => if k' == k then (k', n + 1) else (k', n)
  else xs ++ [(k, 1)]

def Binary64.ofIntNearest (i : Int) : Binary64 := (Binary64.ofInt i).getD Binary64.zero

namespace Metrics

def observeCall (m : Metrics) (contract msgType : String) (success : Bool) : Metrics :=
  { m with
    calls := bump m.calls (contract, msgType, if success then "ok" else "error"),
    observed := bump m.observed (contract, msgType) }

def setHeight (m : Metrics) (h : Nat) : Metrics := { m with height := Binary64.ofIntNearest h }

def setProtocol (m : Metrics) (debt price rate : Binary64) (epoch : Nat) : Metrics :=
  { m with debt, price, rate, epoch := Binary64.ofIntNearest epoch }

def seriesKey (name : String) (labels : List (String × String)) (quote : Bool) : String :=
  if labels.isEmpty then name
  else
    let sorted := labels.mergeSort fun a b => decide (a.1 ≤ b.1)
    let q (v : String) := if quote then "\"" ++ v ++ "\"" else v
    name ++ "\x7b" ++ ",".intercalate (sorted.map fun (k, v) => k ++ "=" ++ q v) ++ "\x7d"

def callLabels (k : String × String × String) : List (String × String) :=
  [("contract", k.1), ("type", k.2.1), ("result", k.2.2)]

def durationLabels (k : String × String) : List (String × String) := [("contract", k.1), ("type", k.2)]

def series (m : Metrics) : List (String × Binary64) :=
  [("bondstake_height", m.height), ("bondstake_bond_outstanding_debt", m.debt),
    ("bondstake_bond_price", m.price), ("bondstake_staking_exchange_rate", m.rate),
    ("bondstake_staking_epoch", m.epoch)] ++
  m.calls.map (fun (k, n) => (seriesKey "bondstake_calls_total" (callLabels k) false, Binary64.ofIntNearest n)) ++
  m.observed.map fun (k, n) =>
    (seriesKey "bondstake_call_duration_seconds" (durationLabels k) false ++ "#count", Binary64.ofIntNearest n)

/-- The kind of a family of series. -/
inductive Kind where
  | counter
  | gauge
  | histogram
  deriving DecidableEq, Repr

def Kind.name : Kind → String
  | .counter => "counter"
  | .gauge => "gauge"
  | .histogram => "histogram"

/-- What a series reads: a value, or for a histogram the number of observations. -/
inductive Reading where
  | value (x : Binary64)
  | observations (count : Nat)
  deriving DecidableEq, Repr

/-- One series of a family: its labels, sorted by name, and its reading. -/
structure Sample where
  labels : List (String × String)
  reading : Reading
  deriving DecidableEq, Repr

/-- A family of series: a name, a help text, a kind and the series, in order. -/
structure Family where
  name : String
  help : String
  kind : Kind
  samples : List Sample
  deriving DecidableEq, Repr

/-- Whether a list of label values comes strictly before another, value by value; a shorter
prefix comes first. -/
def valuesBefore : List String → List String → Bool
  | [], [] => false
  | [], _ :: _ => true
  | _ :: _, [] => false
  | a :: as, b :: bs => if a == b then valuesBefore as bs else decide (a < b)

def sortSamples (xs : List Sample) : List Sample :=
  xs.mergeSort fun a b => !valuesBefore (b.labels.map (·.2)) (a.labels.map (·.2))

def gauge (name help : String) (x : Binary64) : Family := ⟨name, help, .gauge, [⟨[], .value x⟩]⟩

/-- The families, sorted by name; a family without series is left out. -/
def families (m : Metrics) : List Family :=
  let byName (labels : List (String × String)) := labels.mergeSort fun a b => decide (a.1 ≤ b.1)
  let durations := sortSamples (m.observed.map fun (k, n) => ⟨byName (durationLabels k), .observations n⟩)
  let calls := sortSamples (m.calls.map fun (k, n) => ⟨byName (callLabels k), .value (Binary64.ofIntNearest n)⟩)
  [gauge "bondstake_bond_outstanding_debt" "Outstanding bond debt in payout token units." m.debt,
    gauge "bondstake_bond_price" "Current bond price in principal." m.price,
    ⟨"bondstake_call_duration_seconds", "Duration of executed calls.", .histogram, durations⟩,
    ⟨"bondstake_calls_total", "Executed calls by contract, message type and outcome.", .counter, calls⟩,
    gauge "bondstake_height" "Height of the last executed call." m.height,
    gauge "bondstake_staking_epoch" "Number of the running staking epoch." m.epoch,
    gauge "bondstake_staking_exchange_rate" "Base tokens per staked token." m.rate].filter
    (!·.samples.isEmpty)

def valueText (x : Binary64) : String := Binary64.render Binary64.generalLayout x

def sampleLine (f : Family) (x : Sample) : String :=
  match x.reading with
  | .value v => seriesKey f.name x.labels true ++ " " ++ valueText v
  | .observations n =>
    seriesKey (f.name ++ "_count") x.labels true ++ " " ++ valueText (Binary64.ofIntNearest n)

def familyLines (f : Family) : List String :=
  ["# HELP " ++ f.name ++ " " ++ f.help, "# TYPE " ++ f.name ++ " " ++ f.kind.name] ++
    f.samples.map (sampleLine f)

/-- The exposition text without histogram buckets and sums, families sorted by name; families
without samples are left out. -/
def exposition (m : Metrics) : List String := m.families.flatMap familyLines

end Metrics

end Bonding
