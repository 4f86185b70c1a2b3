import Bonding.Metrics

/-!
Metric families in the protocol buffer forms of the exposition. On the wire a family is a
message of its name (field 1), help (2), kind (3: counter 0, gauge 1, histogram 4) and series
(4); a series holds its label pairs (1), then a gauge (2), a counter (3) or a histogram (7),
each a message whose first field is the value, a double, or for a histogram the observation
count, a varint. A stream writes each family after the varint of its length. Numbers are
base-128 varints, low bits first, and doubles are their eight bytes, least significant first.

The text forms write the same fields by name: on one line each, nested messages indented by
two spaces, or all on one line separated by spaces. Strings are quoted, kinds are written by
their upper-case names and doubles in their shortest form.
-/

namespace Bonding.Metrics

/-- The base-128 varint of a number: seven bits a byte, low bits first, with the high bit set on
every byte but the last. -/
def varint (n : Nat) : List UInt8 :=
  if n < 128 then [n.toUInt8] else (n % 128 + 128).toUInt8 :: varint (n / 128)
termination_by n
decreasing_by omega

theorem varint_ne_nil (n : Nat) : varint n ≠ [] := by
  unfold varint; split <;> simp

def littleEndian : Nat → Nat → List UInt8
  | 0, _ => []
  | width + 1, n => (n % 256).toUInt8 :: littleEndian width (n / 256)

def fieldKey (field wire : Nat) : List UInt8 := varint (field * 8 + wire)

def varintField (field n : Nat) : List UInt8 := fieldKey field 0 ++ varint n

def doubleField (field : Nat) (x : Binary64) : List UInt8 := fieldKey field 1 ++ littleEndian 8 x.bits

def bytesField (field : Nat) (bs : List UInt8) : List UInt8 := fieldKey field 2 ++ varint bs.length ++ bs

def stringField (field : Nat) (s : String) : List UInt8 := bytesField field s.toUTF8.toList

def Kind.code : Kind → Nat
  | .counter => 0
  | .gauge => 1
  | .histogram => 4

def Kind.constant : Kind → String
  | .counter => "COUNTER"
  | .gauge => "GAUGE"
  | .histogram => "HISTOGRAM"

def Kind.field : Kind → Nat
  | .counter => 3
  | .gauge => 2
  | .histogram => 7

def Reading.message : Reading → List UInt8
  | .value x => doubleField 1 x
  | .observations n => varintField 1 n

def Sample.message (kind : Kind) (x : Sample) : List UInt8 :=
  x.labels.flatMap (fun (k, v) => bytesField 1 (stringField 1 k ++ stringField 2 v)) ++
    bytesField kind.field x.reading.message

def Family.message (f : Family) : List UInt8 :=
  stringField 1 f.name ++ stringField 2 f.help ++ varintField 3 f.kind.code ++
    f.samples.flatMap fun x => bytesField 4 (x.message f.kind)

def delimited (fs : List Family) : List UInt8 :=
  fs.flatMap fun f => varint f.message.length ++ f.message

def quoteText (s : String) : String :=
  let escape (c : Char) : String :=
    if c == '"' then "\\\"" else if c == '\\' then "\\\\"
    else if c == '\n' then "\\n" else if c == '\r' then "\\r" else if c == '\t' then "\\t"
    else c.toString
  "\"" ++ String.join (s.toList.map escape) ++ "\""

/-- A field of the text forms: a name with a scalar, or a name with nested fields. -/
inductive TextField where
  | scalar (name value : String)
  | nested (name : String) (fields : List TextField)

def Reading.textFields : Reading → List TextField
  | .value x => [.scalar "value" (valueText x)]
  | .observations n => [.scalar "sample_count" (toString n)]

def Kind.fieldName : Kind → String
  | .counter => "counter"
  | .gauge => "gauge"
  | .histogram => "histogram"

def Family.textFields (f : Family) : List TextField :=
  [.scalar "name" (quoteText f.name), .scalar "help" (quoteText f.help), .scalar "type" f.kind.constant] ++
    f.samples.map fun x => .nested "metric" (x.labels.map (fun (k, v) =>
      .nested "label" [.scalar "name" (quoteText k), .scalar "value" (quoteText v)]) ++
      [.nested f.kind.fieldName x.reading.textFields])

mutual

def TextField.lines (indent : String) : TextField → List String
  | .scalar n v => [indent ++ n ++ ": " ++ v]
  | .nested n fs => [indent ++ n ++ ": \x7b"] ++ TextField.linesOf (indent ++ "  ") fs ++ [indent ++ "\x7d"]

def TextField.linesOf (indent : String) : List TextField → List String
  | [] => []
  | f :: fs => f.lines indent ++ TextField.linesOf indent fs

end

mutual

def TextField.compact : TextField → String
  | .scalar n v => n ++ ":" ++ v
  | .nested n fs => n ++ ":\x7b" ++ TextField.compactOf fs ++ "\x7d"

def TextField.compactOf : List TextField → String
  | [] => ""
  | [f] => f.compact
  | f :: fs => f.compact ++ " " ++ TextField.compactOf fs

end

def textForm (fs : List Family) : String :=
  String.join (fs.map fun f => String.join ((TextField.linesOf "" f.textFields).map (· ++ "\n")) ++ "\n")

def compactForm (fs : List Family) : String :=
  String.join (fs.map fun f => TextField.compactOf f.textFields ++ "\n")

end Bonding.Metrics
